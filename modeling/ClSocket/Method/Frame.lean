import ClSocket.Model.Op

/-!
# What the methods leave alone

Most methods read or set an option, or move data out. Of the object they write the error code, the
timer, the count of the bytes sent, the sets of `Select` and the members the options are kept in, and
they make calls of a few kinds. `Frame view p` says that what a `view` of the object shows is as it
was, and that no calls of the kind `p` have been made; `Spared view p` says that the view shows
nothing of what these methods write, and that their calls are not of the kind.

`frame_run` is the frame of all these operations (`Op.isPlain`), for every view they spare. What
an invariant has to know of an object is such a view. A view that does not show the descriptor, the
buffer and the addresses bound to either is spared by `Close` and the operations that end with it
(`SparedByClose`); in the same way there are views that `Open` spares (`SparedByOpen`), and the loops
of `Receive` (`SparedByReceive`).
-/

namespace ClSocket

open Prog CSimpleSocket

/-- The view and the calls of the kind are as they were. -/
def Frame {β : Type} (view : CSimpleSocket → β) (p : Event → Bool) (s t : State) : Prop :=
  view t.self = view s.self ∧ t.trace.filter p = s.trace.filter p

/-- The view shows nothing of what the plain methods write, and their calls are not of the kind. -/
structure Spared {β : Type} (view : CSimpleSocket → β) (p : Event → Bool) : Prop where
  code : ∀ o error, view { o with m_socketErrno := error } = view o
  timer : ∀ o t, view { o with m_timer := t } = view o
  bytesSent : ∀ o n, view { o with m_nBytesSent := n } = view o
  linger : ∀ o l, view { o with m_stLinger := l } = view o
  connectTimeout : ∀ o t, view { o with m_stConnectTimeout := t } = view o
  recvTimeout : ∀ o t, view { o with m_stRecvTimeout := t } = view o
  sendTimeout : ∀ o t, view { o with m_stSendTimeout := t } = view o
  fds : ∀ o e r w, view { o with m_errorFds := e, m_readFds := r, m_writeFds := w } = view o
  shutdown : ∀ fd how res, p (.shutdown fd how res) = false
  setsockopt : ∀ fd level name value res, level ≠ IPPROTO_TCP →
    p (.setsockopt fd level name value res) = false
  getsockopt : ∀ fd level name n res, p (.getsockopt fd level name (some n) res) = false
  select : ∀ nfds r w e timeout res, p (.select nfds r w e timeout res) = false
  send : ∀ fd data res, p (.send fd data res) = false
  sendto : ∀ fd data dest res, p (.sendto fd data dest res) = false
  writev : ∀ fd items res, p (.writev fd items res) = false
  lseek : ∀ fd offset res, p (.lseek fd offset res) = false
  read : ∀ fd len res, p (.read fd len res) = false

/-- Nor does the view show what binding and closing write, and their calls are not of the kind. -/
structure SparedByClose {β : Type} (view : CSimpleSocket → β) (p : Event → Bool) : Prop
    extends Spared view p where
  socket : ∀ o fd, view { o with m_socket := fd } = view o
  buffer : ∀ o b, view { o with m_pBuffer := b } = view o
  server : ∀ o a, view { o with m_stServerSockaddr := a } = view o
  multicastGroup : ∀ o a, view { o with m_stMulticastGroup := a } = view o
  close : ∀ fd res, p (.close fd res) = false
  free : ∀ b, p (.free b) = false
  bind : ∀ fd a res, p (.bind fd a res) = false
  listen : ∀ fd backlog res, p (.listen fd backlog res) = false

/-- Nor does the view show what `Open` writes, and its calls are not of the kind. -/
structure SparedByOpen {β : Type} (view : CSimpleSocket → β) (p : Event → Bool) : Prop
    extends Spared view p where
  server : ∀ o a, view { o with m_stServerSockaddr := a } = view o
  client : ∀ o a, view { o with m_stClientSockaddr := a } = view o
  gethostbyname : ∀ name res, p (.gethostbyname name res) = false
  connect : ∀ fd a res, p (.connect fd a res) = false
  getpeername : ∀ fd res, p (.getpeername fd res) = false
  getsockname : ∀ fd res, p (.getsockname fd res) = false

/-- Nor does the view show what `Receive` writes once it has its buffer. -/
structure SparedByReceive {β : Type} (view : CSimpleSocket → β) (p : Event → Bool) : Prop
    extends Spared view p where
  bytesReceived : ∀ o n, view { o with m_nBytesReceived := n } = view o
  client : ∀ o a, view { o with m_stClientSockaddr := a } = view o
  multicastGroup : ∀ o a, view { o with m_stMulticastGroup := a } = view o
  written : ∀ o off bs, view { o with
    m_pBuffer := o.m_pBuffer.map fun b => { b with data := writeAt b.data off bs } } = view o
  recv : ∀ fd off len flags res, p (.recv fd off len flags res) = false
  recvfrom : ∀ fd len res, p (.recvfrom fd len res) = false

/-- Of the events of a kind, those of a part of it. -/
theorem filter_of_filter {p q : Event → Bool} (hq : ∀ e, p e = false → q e = false) {t u : Trace}
    (h : t.filter p = u.filter p) : t.filter q = u.filter q := by
  have hsub : ∀ v : Trace, v.filter q = (v.filter p).filter q := by
    intro v
    rw [List.filter_filter]
    refine List.filter_congr fun e _ => ?_
    cases hp : p e with
    | true => rw [Bool.and_true]
    | false => rw [Bool.and_false, hq e hp]
  rw [hsub t, hsub u, h]

section

variable {β γ : Type} {view : CSimpleSocket → β} {view' : CSimpleSocket → γ} {p q : Event → Bool}

/-- A view that shows less, and a kind that has fewer calls. -/
theorem Frame.coarser {s t : State} (h : Frame view p s t)
    (hview : ∀ a b, view a = view b → view' a = view' b) (hq : ∀ e, p e = false → q e = false) :
    Frame view' q s t := ⟨hview _ _ h.1, filter_of_filter hq h.2⟩

theorem Spared.coarser (h : Spared view p) (hview : ∀ a b, view a = view b → view' a = view' b)
    (hq : ∀ e, p e = false → q e = false) : Spared view' q where
  code o e := hview _ _ (h.code o e)
  timer o t := hview _ _ (h.timer o t)
  bytesSent o n := hview _ _ (h.bytesSent o n)
  linger o l := hview _ _ (h.linger o l)
  connectTimeout o t := hview _ _ (h.connectTimeout o t)
  recvTimeout o t := hview _ _ (h.recvTimeout o t)
  sendTimeout o t := hview _ _ (h.sendTimeout o t)
  fds o e r w := hview _ _ (h.fds o e r w)
  shutdown fd how res := hq _ (h.shutdown fd how res)
  setsockopt fd level name value res hlevel := hq _ (h.setsockopt fd level name value res hlevel)
  getsockopt fd level name n res := hq _ (h.getsockopt fd level name n res)
  select nfds r w e timeout res := hq _ (h.select nfds r w e timeout res)
  send fd data res := hq _ (h.send fd data res)
  sendto fd data dest res := hq _ (h.sendto fd data dest res)
  writev fd items res := hq _ (h.writev fd items res)
  lseek fd offset res := hq _ (h.lseek fd offset res)
  read fd len res := hq _ (h.read fd len res)

end

/-- Two levels that are not the one of TCP. -/
theorem SOL_SOCKET_ne_TCP : SOL_SOCKET ≠ IPPROTO_TCP := by decide

theorem IPPROTO_IP_ne_TCP : IPPROTO_IP ≠ IPPROTO_TCP := by decide

section

variable {β : Type} {view : CSimpleSocket → β} {p : Event → Bool}

instance : Std.Refl (Frame view p) := ⟨fun _ => ⟨rfl, rfl⟩⟩

instance : IsTrans State (Frame view p) :=
  ⟨fun _ _ _ h₁ h₂ => ⟨h₂.1.trans h₁.1, h₂.2.trans h₁.2⟩⟩

/-! ### Steps -/

theorem keeps_this {R : State → State → Prop} [Std.Refl R] : Keeps R this :=
  fun s => wp_this.mpr (Std.Refl.refl s)

theorem keeps_script {R : State → State → Prop} [Std.Refl R] : Keeps R script :=
  fun s => wp_script.mpr (Std.Refl.refl s)

theorem Keeps.map {α β : Type} {R : State → State → Prop} {x : M α} (h : Keeps R x)
    (f : α → β) : Keeps R (f <$> x) := fun s => (wp_map f x).mpr (h s)

theorem keeps_whileInterrupted {R : State → State → Prop} [Std.Refl R] [IsTrans State R]
    {β : Type} {body : β → M β} (hbody : ∀ b, Keeps R (body b))
    (htranslate : Keeps R translateSocketError) (rounds : ℕ) (b : β) :
    Keeps R (whileInterrupted rounds body b) :=
  keeps_iter (fun b => keeps_bind (hbody b) fun _ => keeps_bind htranslate fun _ =>
    keeps_bind keeps_this fun _ => keeps_ite (keeps_pure _) (keeps_pure _)) _ _

theorem frame_assign {f : CSimpleSocket → CSimpleSocket} (h : ∀ o, view (f o) = view o) :
    Keeps (Frame view p) (assign f) := fun s => ⟨h s.self, rfl⟩

theorem frame_issue {α : Type} {queue : Script → List (Answer α)}
    {put : List (Answer α) → Script → Script} {ev : Answer α → Event}
    (h : ∀ a, p (ev a) = false) : Keeps (Frame view p) (issue queue put ev) := by
  -- the call is added to the trace, and it is not of the kind
  intro s
  rw [wp_issue_iff]
  refine ⟨fun _ => Std.Refl.refl s, fun a rest _ => ⟨rfl, ?_⟩⟩
  rw [State.answered_trace, List.filter_append, List.filter_cons_of_neg (by simp [h a])]
  exact List.append_nil _

/-! ### Options and readiness -/

variable (h : Spared view p)

include h

theorem frame_setSocketError (error : CSocketError) :
    Keeps (Frame view p) (setSocketError error) := frame_assign fun o => h.code o error

theorem frame_translateSocketError : Keeps (Frame view p) translateSocketError := fun s =>
  ⟨h.code s.self _, rfl⟩

theorem frame_timerInitialize : Keeps (Frame view p) timerInitialize :=
  frame_assign fun o => h.timer o _

theorem frame_setStartTime : Keeps (Frame view p) setStartTime := fun s => ⟨h.timer s.self _, rfl⟩

theorem frame_setEndTime : Keeps (Frame view p) setEndTime := fun s => ⟨h.timer s.self _, rfl⟩

theorem frame_shutdown (how : CShutdownMode) : Keeps (Frame view p) (shutdown how) :=
  keeps_bind keeps_this fun _ => keeps_bind (frame_issue fun _ => h.shutdown _ _ _) fun _ =>
    keeps_bind (frame_translateSocketError h) fun _ => keeps_pure _

theorem frame_setOption {level name : Int} {value : OptVal}
    (hp : ∀ fd res, p (.setsockopt fd level name value res) = false) :
    Keeps (Frame view p) (setOption level name value) :=
  keeps_bind keeps_this fun _ => keeps_bind (frame_issue fun _ => hp _ _) fun _ =>
    keeps_bind (frame_translateSocketError h) fun _ => keeps_pure _

theorem frame_setTimeoutOption (name : Int) (t : Timeval) :
    Keeps (Frame view p) (setTimeoutOption name t) := by
  refine keeps_bind keeps_this fun _ =>
    keeps_bind (frame_issue fun _ => h.setsockopt _ _ _ _ _ SOL_SOCKET_ne_TCP) fun res => ?_
  cases res with
  | ok _ => exact keeps_pure _
  | fail _ => exact keeps_bind (frame_translateSocketError h) fun _ => keeps_pure _

theorem frame_setOptionLinger (bEnable : Bool) (nTime : UInt16) :
    Keeps (Frame view p) (setOptionLinger bEnable nTime) :=
  keeps_bind (frame_assign fun o => h.linger o _) fun _ =>
    frame_setOption h fun _ _ => h.setsockopt _ _ _ _ _ SOL_SOCKET_ne_TCP

theorem frame_setConnectTimeout (sec usec : Int) :
    Keeps (Frame view p) (setConnectTimeout sec usec) := frame_assign fun o => h.connectTimeout o _

theorem frame_setReceiveTimeout (sec usec : Int) :
    Keeps (Frame view p) (setReceiveTimeout sec usec) :=
  keeps_bind (frame_assign fun o => h.recvTimeout o _) fun _ => frame_setTimeoutOption h _ _

theorem frame_setSendTimeout (sec usec : Int) : Keeps (Frame view p) (setSendTimeout sec usec) :=
  keeps_bind (frame_assign fun o => h.sendTimeout o _) fun _ => frame_setTimeoutOption h _ _

theorem frame_bindInterface (pInterface : Option String) :
    Keeps (Frame view p) (bindInterface pInterface) := by
  refine keeps_bind keeps_this fun o => keeps_ite ?_
    (keeps_bind (frame_setSocketError h _) fun _ => keeps_pure _)
  cases pInterface with
  | none => exact keeps_pure _
  | some iface =>
    have haddr : Keeps (Frame view p) (inetAddr iface) := fun _ => ⟨rfl, rfl⟩
    exact keeps_bind haddr fun _ =>
      keeps_bind (frame_issue fun _ => h.setsockopt _ _ _ _ _ IPPROTO_IP_ne_TCP) fun _ => keeps_pure _

theorem frame_setSocketDscp (nDscp : Int) : Keeps (Frame view p) (setSocketDscp nDscp) := by
  refine keeps_bind keeps_this fun o => keeps_ite (keeps_bind
    (frame_issue fun _ => h.setsockopt _ _ _ _ _ IPPROTO_IP_ne_TCP) fun res => ?_) (keeps_pure _)
  cases res with
  | ok _ => exact keeps_pure _
  | fail _ => exact keeps_bind (frame_translateSocketError h) fun _ => keeps_pure _

theorem frame_getSocketDscp : Keeps (Frame view p) getSocketDscp := by
  refine keeps_bind keeps_this fun o => keeps_ite (keeps_bind (keeps_bind
    (frame_issue fun _ => h.getsockopt _ _ _ _ _) fun res => ?_) fun _ => keeps_pure _) (keeps_pure _)
  cases res with
  | ok _ => exact keeps_pure _
  | fail _ => exact keeps_bind (frame_translateSocketError h) fun _ => keeps_pure _

theorem frame_getWindowSize (nOptionName : Int) :
    Keeps (Frame view p) (getWindowSize nOptionName) := by
  refine keeps_bind keeps_this fun o => keeps_ite (keeps_bind
    (frame_issue fun _ => h.getsockopt _ _ _ _ _) fun res =>
      keeps_bind (frame_translateSocketError h) fun _ => ?_)
    (keeps_bind (frame_setSocketError h _) fun _ => keeps_pure _)
  cases res with
  | ok _ => exact keeps_pure _
  | fail _ => exact keeps_pure _

theorem frame_setWindowSize (nOptionName nWindowSize : Int) :
    Keeps (Frame view p) (setWindowSize nOptionName nWindowSize) :=
  keeps_bind keeps_this fun _ => keeps_ite
    (keeps_bind (frame_issue fun _ => h.setsockopt _ _ _ _ _ SOL_SOCKET_ne_TCP) fun _ =>
      keeps_bind (frame_translateSocketError h) fun _ => keeps_pure _)
    (keeps_bind (frame_setSocketError h _) fun _ => keeps_pure _)

theorem frame_fillSets : Keeps (Frame view p) fillSets := by
  intro s
  rw [wp_fillSets]
  exact ⟨fun _ => ⟨h.fds _ _ _ _, rfl⟩, fun _ => ⟨rfl, rfl⟩⟩

theorem frame_select (nTimeoutSec nTimeoutUSec : Int) :
    Keeps (Frame view p) (select nTimeoutSec nTimeoutUSec) := by
  have hsets : ∀ timeout, Keeps (Frame view p) (selectSets timeout) := by
    intro timeout
    refine keeps_bind (frame_fillSets h) fun _ => keeps_bind keeps_this fun _ =>
      keeps_bind (frame_issue fun _ => h.select _ _ _ _ _ _) fun res => ?_
    cases res with
    | ok _ => exact keeps_bind (frame_assign fun o => h.fds o _ _ _) fun _ => keeps_pure _
    | fail _ => exact keeps_pure _
  -- the sets are filled, `select` rewrites them, and the query may follow
  refine keeps_bind (hsets _) fun _ =>
    keeps_bind keeps_this fun _ => keeps_ite
      (keeps_bind (frame_setSocketError h _) fun _ => keeps_pure _)
      (keeps_ite (keeps_bind (frame_issue fun _ => h.getsockopt _ _ _ _ _) fun res => ?_)
        (keeps_pure _))
  cases res with
  | ok nError =>
    have herrno : Keeps (Frame view p) (setErrno nError) := fun _ => ⟨rfl, rfl⟩
    exact keeps_bind herrno fun _ => keeps_bind (frame_translateSocketError h) fun _ => keeps_pure _
  | fail _ => exact keeps_bind (frame_translateSocketError h) fun _ => keeps_pure _

/-! ### Moving data out -/

theorem frame_sendTimed (queue : Script → List (Answer ℕ)) {round : M Unit}
    (hround : Keeps (Frame view p) round) : Keeps (Frame view p) (sendTimed queue round) :=
  keeps_bind (frame_timerInitialize h) fun _ => keeps_bind (frame_setStartTime h) fun _ =>
    keeps_bind keeps_script fun _ =>
      keeps_bind (keeps_whileInterrupted (fun _ => hround) (frame_translateSocketError h) _ _)
        fun _ => frame_setEndTime h

theorem frame_send (pBuf : Option Bytes) (bytesToSend : ℕ) :
    Keeps (Frame view p) (CSimpleSocket.send pBuf bytesToSend) := by
  have hsend : ∀ data, Keeps (Frame view p) (sendRound data) := fun _ =>
    keeps_bind keeps_this fun _ => keeps_bind (frame_issue fun _ => h.send _ _ _) fun _ =>
      frame_assign fun o => h.bytesSent o _
  have hsendto : ∀ data, Keeps (Frame view p) (sendtoRound data) := fun _ =>
    keeps_bind keeps_this fun _ => keeps_bind (frame_issue fun _ => h.sendto _ _ _ _) fun _ =>
      frame_assign fun o => h.bytesSent o _
  exact keeps_bind (frame_setSocketError h _) fun _ =>
    keeps_bind (frame_assign fun o => h.bytesSent o _) fun _ => keeps_bind keeps_this fun _ =>
      keeps_bind (keeps_ite (keeps_ite (frame_sendTimed h _ (hsend _)) (keeps_pure _))
        (keeps_ite (keeps_ite (frame_sendTimed h _ (hsendto _)) (keeps_pure _)) (keeps_pure _)))
        fun _ => keeps_bind keeps_this fun _ => keeps_pure _

theorem frame_sendVector (items : List Iovec) : Keeps (Frame view p) (sendVector items) :=
  keeps_bind (frame_setSocketError h _) fun _ =>
    keeps_bind (frame_assign fun o => h.bytesSent o _) fun _ => keeps_bind keeps_this fun _ =>
      keeps_bind (frame_issue fun _ => h.writev _ _ _) fun _ =>
        keeps_bind (frame_assign fun o => h.bytesSent o _) fun _ =>
          keeps_bind (keeps_ite (frame_translateSocketError h) (keeps_pure _)) fun _ =>
            keeps_bind keeps_this fun _ => keeps_pure _

theorem frame_passiveSend (pBuf : Option Bytes) (bytesToSend : ℕ) :
    Keeps (Frame view p) (CPassiveSocket.send pBuf bytesToSend) := by
  have hsendto : ∀ data, Keeps (Frame view p) (CPassiveSocket.sendtoClient data) := fun _ =>
    keeps_bind (frame_timerInitialize h) fun _ => keeps_bind (frame_setStartTime h) fun _ =>
      keeps_bind keeps_this fun _ => keeps_bind (frame_issue fun _ => h.sendto _ _ _ _) fun _ =>
        keeps_bind (frame_assign fun o => h.bytesSent o _) fun _ =>
          keeps_bind (frame_setEndTime h) fun _ =>
            keeps_ite (frame_translateSocketError h) (keeps_pure _)
  exact keeps_bind (frame_setSocketError h _) fun _ =>
    keeps_bind (frame_assign fun o => h.bytesSent o _) fun _ => keeps_bind keeps_this fun _ =>
      keeps_bind (keeps_ite (keeps_ite (hsendto _) (keeps_pure _))
        (keeps_ite (keeps_bind (frame_send h _ _) fun _ => keeps_pure _) (frame_setSocketError h _)))
        fun _ => keeps_bind keeps_this fun _ => keeps_pure _

theorem frame_virtualSend (cls : SocketClass) (pBuf : Option Bytes) (bytesToSend : ℕ) :
    Keeps (Frame view p) (virtualSend cls pBuf bytesToSend) := by
  cases cls with
  | passive => exact frame_passiveSend h pBuf bytesToSend
  | simple => exact frame_send h pBuf bytesToSend
  | active => exact frame_send h pBuf bytesToSend

theorem frame_sendFileRound (nOutFd nInFd nCount nOutCount : Int) :
    Keeps (Frame view p) (sendFileRound nOutFd nInFd nCount nOutCount) := by
  refine keeps_ite (keeps_bind (keeps_ite (keeps_pure _) (keeps_stop _)) fun _ =>
    keeps_bind (frame_issue fun _ => h.read _ _ _) fun res => ?_) (keeps_pure _)
  cases res with
  | fail _ => exact keeps_pure _
  | ok bs =>
    have hfill : Keeps (Frame view p) (fillData bs) := fun _ => ⟨rfl, rfl⟩
    have hfront : ∀ n, Keeps (Frame view p) (frontData n) := fun _ _ => ⟨rfl, rfl⟩
    exact keeps_bind hfill fun _ => keeps_ite (keeps_pure _) (keeps_bind (hfront _) fun _ =>
      keeps_bind (frame_issue fun _ => h.send _ _ _) fun _ => keeps_ite (keeps_pure _)
        (keeps_bind (keeps_ite (keeps_pure _) (keeps_stop _)) fun _ => keeps_pure _))

theorem frame_sendFile (nOutFd nInFd pOffset nCount : Int) :
    Keeps (Frame view p) (sendFile nOutFd nInFd pOffset nCount) := by
  refine keeps_bind (frame_issue fun _ => h.lseek _ _ _) fun res => ?_
  cases res with
  | fail _ => exact keeps_pure _
  | ok _ =>
    refine keeps_bind keeps_script fun _ =>
      keeps_bind (keeps_iter (frame_sendFileRound h nOutFd nInFd nCount) _ _) fun r => ?_
    cases r with
    | none => exact keeps_pure _
    | some _ => exact keeps_bind (frame_translateSocketError h) fun _ => keeps_pure _

/-! ### All of them -/

omit h in
/-- The operations that move data out, or read or set an option at another level than that of
TCP. -/
def Op.isPlain : Op → Bool
  | .shutdown _ | .select _ _ | .send _ _ | .sendVector _ | .sendFile _ _ _ _ => true
  | .setOptionLinger _ _ | .setOptionReuseAddr | .setConnectTimeout _ _ => true
  | .setReceiveTimeout _ _ | .setSendTimeout _ _ | .bindInterface _ => true
  | .setSocketDscp _ | .getSocketDscp | .getWindowSize _ | .setWindowSize _ _ => true
  | _ => false

/-- **The frame of the plain operations.** -/
theorem frame_run (cls : SocketClass) {op : Op} (hop : op.isPlain = true) :
    Keeps (Frame view p) (op.run cls) := by
  cases op with
  | shutdown how => exact Keeps.map (frame_shutdown h how) _
  | select sec usec => exact Keeps.map (frame_select h sec usec) _
  | send buf n => exact Keeps.map (frame_virtualSend h cls buf n) _
  | sendVector items => exact Keeps.map (frame_sendVector h items) _
  | sendFile out inp off n => exact Keeps.map (frame_sendFile h out inp off n) _
  | setOptionLinger b t => exact Keeps.map (frame_setOptionLinger h b t) _
  | setOptionReuseAddr =>
    exact Keeps.map (frame_setOption h fun _ _ => h.setsockopt _ _ _ _ _ SOL_SOCKET_ne_TCP) _
  | setConnectTimeout sec usec => exact Keeps.map (frame_setConnectTimeout h sec usec) _
  | setReceiveTimeout sec usec => exact Keeps.map (frame_setReceiveTimeout h sec usec) _
  | setSendTimeout sec usec => exact Keeps.map (frame_setSendTimeout h sec usec) _
  | bindInterface iface => exact Keeps.map (frame_bindInterface h iface) _
  | setSocketDscp n => exact Keeps.map (frame_setSocketDscp h n) _
  | getSocketDscp => exact Keeps.map (frame_getSocketDscp h) _
  | getWindowSize name => exact Keeps.map (frame_getWindowSize h name) _
  | setWindowSize name n => exact Keeps.map (frame_setWindowSize h name n) _
  | _ => cases hop

end

section

variable {β : Type} {view : CSimpleSocket → β} {p : Event → Bool}

/-! ### Binding and closing -/

theorem frame_bindAndListen (hbind : ∀ fd a res, p (.bind fd a res) = false)
    (hlisten : ∀ fd backlog res, p (.listen fd backlog res) = false) (nConnectionBacklog : Int) :
    Keeps (Frame view p) (CPassiveSocket.bindAndListen nConnectionBacklog) := by
  refine keeps_bind keeps_this fun _ => keeps_bind (frame_issue fun _ => hbind _ _ _) fun res => ?_
  cases res with
  | ok _ =>
    exact keeps_ite (keeps_bind (frame_issue fun _ => hlisten _ _ _) fun _ => keeps_pure _)
      (keeps_pure _)
  | fail _ => exact keeps_pure _

theorem frame_bindAndJoin (h : Spared view p) (hbind : ∀ fd a res, p (.bind fd a res) = false)
    (pGroup : String) : Keeps (Frame view p) (CPassiveSocket.bindAndJoin pGroup) := by
  have haddr : Keeps (Frame view p) (inetAddr pGroup) := fun _ => ⟨rfl, rfl⟩
  refine keeps_bind keeps_this fun _ => keeps_bind (frame_issue fun _ => hbind _ _ _) fun res => ?_
  cases res with
  | ok _ =>
    exact keeps_bind haddr fun _ => keeps_bind keeps_this fun _ =>
      keeps_bind (frame_issue fun _ => h.setsockopt _ _ _ _ _ IPPROTO_IP_ne_TCP) fun _ =>
        keeps_bind (frame_setEndTime h) fun _ => keeps_pure _
  | fail _ => exact keeps_pure _

variable (h : SparedByClose view p)

include h

theorem frame_deleteBuffer : Keeps (Frame view p) deleteBuffer := fun s =>
  ⟨h.buffer s.self none, filter_bufferDeleted h.free s⟩

theorem frame_closeSocket : Keeps (Frame view p) closeSocket := by
  have hhandle : Keeps (Frame view p) closeHandle := by
    refine keeps_bind keeps_this fun _ => keeps_bind (frame_issue fun _ => h.close _ _) fun res => ?_
    cases res with
    | ok _ => exact keeps_bind (frame_assign fun o => h.socket o _) fun _ => keeps_pure _
    | fail _ => exact keeps_pure _
  exact keeps_bind (frame_deleteBuffer h) fun _ => keeps_bind keeps_this fun _ =>
    keeps_bind (keeps_ite hhandle (keeps_pure _)) fun _ =>
      keeps_bind (frame_translateSocketError h.toSpared) fun _ => keeps_pure _

theorem frame_closeKeepingError : Keeps (Frame view p) CPassiveSocket.closeKeepingError :=
  keeps_bind keeps_this fun _ => keeps_bind (frame_closeSocket h) fun _ =>
    frame_setSocketError h.toSpared _

omit h in
theorem frame_bindAddress (pAddr : Option String) :
    Keeps (Frame view p) (CPassiveSocket.bindAddress pAddr) :=
  fun _ => (CPassiveSocket.wp_bindAddress pAddr).mpr ⟨rfl, rfl⟩

theorem frame_bindMulticast (pInterface : Option String) (pGroup : String) (nPort : UInt16) :
    Keeps (Frame view p) (CPassiveSocket.bindMulticast pInterface pGroup nPort) :=
  keeps_bind (frame_bindAddress pInterface) fun _ =>
    keeps_bind (frame_assign fun o => h.multicastGroup o _) fun _ =>
      keeps_bind (frame_bindAndJoin h.toSpared h.bind pGroup) fun _ =>
        keeps_bind (frame_timerInitialize h.toSpared) fun _ =>
          keeps_bind (frame_setStartTime h.toSpared) fun _ =>
            keeps_bind (frame_translateSocketError h.toSpared) fun _ => keeps_bind (keeps_ite
              (keeps_bind (frame_closeSocket h) fun _ => keeps_pure _) (keeps_pure _))
              fun _ => keeps_pure _

/-- What `Listen` does after its two option calls, of which the second is at the level of TCP. -/
theorem frame_listenRest (pAddr : Option String) (nPort : UInt16) (nConnectionBacklog : Int) :
    Keeps (Frame view p) (do
      let s_addr ← CPassiveSocket.bindAddress pAddr
      assign fun o => { o with m_stServerSockaddr := ⟨AF_INET, htons nPort, s_addr⟩ }
      timerInitialize
      setStartTime
      let bRetVal ← CPassiveSocket.bindAndListen nConnectionBacklog
      setEndTime
      translateSocketError
      when (bRetVal = false) CPassiveSocket.closeKeepingError
      return bRetVal) :=
  keeps_bind (frame_bindAddress pAddr) fun _ => keeps_bind (frame_assign fun o => h.server o _)
    fun _ => keeps_bind (frame_timerInitialize h.toSpared) fun _ =>
      keeps_bind (frame_setStartTime h.toSpared) fun _ =>
        keeps_bind (frame_bindAndListen h.bind h.listen nConnectionBacklog) fun _ =>
          keeps_bind (frame_setEndTime h.toSpared) fun _ =>
            keeps_bind (frame_translateSocketError h.toSpared) fun _ => keeps_bind
              (keeps_ite (frame_closeKeepingError h) (keeps_pure _)) fun _ => keeps_pure _

end

section

open CActiveSocket

variable {β : Type} {view : CSimpleSocket → β} {p : Event → Bool}

/-! ### Opening -/

variable (h : SparedByOpen view p)

include h

theorem frame_resolve (pAddr : String) (nPort : UInt16) :
    Keeps (Frame view p) (resolve pAddr nPort) := by
  have hcall : Keeps (Frame view p) (sysGethostbyname pAddr) := by
    intro s
    rw [wp_sysGethostbyname]
    have hlog : ∀ res, (s.trace ++ [Event.gethostbyname pAddr res]).filter p = s.trace.filter p := by
      intro res
      rw [List.filter_append, List.filter_cons_of_neg (by simp [h.gethostbyname])]
      exact List.append_nil _
    exact ⟨fun _ => Std.Refl.refl s, fun _ _ _ => ⟨rfl, hlog _⟩, fun _ _ _ _ => ⟨rfl, hlog _⟩⟩
  refine keeps_bind (frame_assign fun o => h.server o _) fun _ => keeps_bind hcall fun res => ?_
  cases res with
  | failed h_errno _ =>
    exact keeps_bind (keeps_ite (frame_setSocketError h.toSpared _) (keeps_pure _)) fun _ => keeps_pure _
  | found s_addr =>
    exact keeps_bind (frame_assign fun o => h.server o _) fun _ => keeps_ite
      (keeps_bind (frame_translateSocketError h.toSpared) fun _ => keeps_pure _)
      (keeps_bind (frame_assign fun o => h.server o _) fun _ => keeps_pure _)

theorem frame_connectServer : Keeps (Frame view p) connectServer :=
  keeps_bind (frame_timerInitialize h.toSpared) fun _ =>
    keeps_bind (frame_setStartTime h.toSpared) fun _ =>
      keeps_bind keeps_this fun _ => frame_issue fun _ => h.connect _ _ _

theorem frame_awaitTCP (res : Answer Unit) : Keeps (Frame view p) (awaitTCP res) := by
  refine keeps_bind (frame_translateSocketError h.toSpared) fun _ => ?_
  cases res with
  | ok _ => exact keeps_pure _
  | fail _ =>
    exact keeps_bind keeps_this fun _ => keeps_ite (frame_select h.toSpared _ _) (keeps_pure _)

theorem frame_storeEndpoints : Keeps (Frame view p) storeEndpoints := by
  refine keeps_bind (frame_assign fun o => h.server o _) fun _ => keeps_bind keeps_this fun _ =>
    keeps_bind (frame_issue fun _ => h.getpeername _ _) fun peer => keeps_bind ?peer fun _ =>
      keeps_bind (frame_assign fun o => h.client o _) fun _ =>
        keeps_bind (frame_issue fun _ => h.getsockname _ _) fun name => keeps_bind ?name fun _ =>
          frame_setSocketError h.toSpared _
  case peer =>
    cases peer with
    | ok a => exact frame_assign fun o => h.server o a
    | fail _ => exact frame_assign fun _ => rfl
  case name =>
    cases name with
    | ok a => exact frame_assign fun o => h.client o a
    | fail _ => exact frame_assign fun _ => rfl

/-- **The frame of `Open`.** -/
theorem frame_openSocket (pAddr : Option String) (nPort : UInt16) :
    Keeps (Frame view p) (openSocket pAddr nPort) := by
  have htcp : ∀ addr, Keeps (Frame view p) (connectTCP addr nPort) := fun addr =>
    keeps_bind (frame_resolve h addr nPort) fun _ => keeps_ite
      (keeps_bind (frame_connectServer h) fun res => keeps_bind (frame_awaitTCP h res) fun _ =>
        keeps_bind (frame_setEndTime h.toSpared) fun _ => keeps_pure _) (keeps_pure _)
  have hudp : ∀ addr, Keeps (Frame view p) (connectUDP addr nPort) := fun addr =>
    keeps_bind (frame_resolve h addr nPort) fun _ => keeps_ite
      (keeps_bind (frame_connectServer h) fun _ =>
        keeps_bind (frame_translateSocketError h.toSpared) fun _ =>
          keeps_bind (frame_setEndTime h.toSpared) fun _ => keeps_pure _) (keeps_pure _)
  have hrefused : ∀ error, Keeps (Frame view p) (do
      setSocketError error
      return false : M Bool) := fun error =>
    keeps_bind (frame_setSocketError h.toSpared error) fun _ => keeps_pure _
  refine keeps_bind keeps_this fun _ => keeps_ite (hrefused _) ?_
  cases pAddr with
  | none => exact hrefused _
  | some addr =>
    refine keeps_ite (hrefused _) (keeps_bind ?_ fun _ =>
      keeps_bind (keeps_ite (frame_storeEndpoints h) (keeps_pure _)) fun _ => keeps_pure _)
    exact keeps_bind keeps_this fun _ => keeps_ite (htcp addr) (keeps_ite (hudp addr) (keeps_pure _))

end

section

variable {β : Type} {view : CSimpleSocket → β} {p : Event → Bool}

/-! ### Receiving -/

variable (h : SparedByReceive view p)

include h

theorem frame_deliver (pBuffer : Option Bytes) (offset : Int) (bs : Bytes) :
    Keeps (Frame view p) (deliver pBuffer offset bs) :=
  keeps_bind (keeps_ite (frame_assign fun o => h.written o _ _) (keeps_pure _)) fun _ => keeps_pure _

theorem frame_recvRound (nMaxBytes : Int) (pBuffer : Option Bytes) :
    Keeps (Frame view p) (recvRound nMaxBytes pBuffer) := by
  refine keeps_bind keeps_this fun o => keeps_bind (frame_issue fun _ => h.recv _ _ _ _ _) fun res =>
    keeps_bind (frame_assign fun o => h.bytesReceived o _) fun _ => ?_
  cases res with
  | ok bs => exact frame_deliver h _ _ _
  | fail _ => exact keeps_pure _

theorem frame_recvfromRound (nMaxBytes : Int) (pBuffer : Option Bytes) :
    Keeps (Frame view p) (recvfromRound nMaxBytes pBuffer) := by
  refine keeps_bind keeps_this fun o => keeps_bind (frame_issue fun _ => h.recvfrom _ _ _) fun res =>
    keeps_bind (frame_assign fun o => h.bytesReceived o _) fun _ => ?_
  cases res with
  | ok d =>
    refine keeps_bind (frame_assign fun o => ?_) fun _ => frame_deliver h _ _ _
    split
    · exact h.multicastGroup o _
    · exact h.client o _
  | fail _ => exact keeps_pure _

/-- **The frame of the loops of `Receive`.** -/
theorem frame_receiveLoop (nMaxBytes : Int) (pBuffer : Option Bytes) :
    Keeps (Frame view p) (receiveLoop nMaxBytes pBuffer) :=
  keeps_bind keeps_this fun _ => keeps_bind keeps_script fun _ => keeps_ite
    (keeps_whileInterrupted (frame_recvRound h nMaxBytes) (frame_translateSocketError h.toSpared) _ _)
    (keeps_ite (keeps_whileInterrupted (frame_recvfromRound h nMaxBytes)
      (frame_translateSocketError h.toSpared) _ _) (keeps_pure _))

end

/-! ### Logs -/

/-- What is read off other events than those of closing is as it was after `Close`. -/
theorem wp_closeSocket_log {γ : Type} {log : Event → Option γ} (hfree : ∀ id, log (.free id) = none)
    (hclose : ∀ fd res, log (.close fd res) = none) (s : State) :
    wp closeSocket (fun _ t => t.trace.filterMap log = s.trace.filterMap log) (fun _ _ => True) s := by
  have hdeleted := filterMap_bufferDeleted hfree s
  simp only [closeSocket, wp_bind, wp_deleteBuffer, wp_this, wp_ite, wp_pure, wp_translateSocketError]
  refine ⟨fun _ => ?_, fun _ => hdeleted⟩
  rw [closeHandle, wp_bind, wp_this, wp_bind, sysClose, wp_issue_iff]
  refine ⟨fun _ => trivial, fun res rest _ => ?_⟩
  have hlog : ((bufferDeleted s).trace ++ [Event.close (bufferDeleted s).self.m_socket res]).filterMap
      log = s.trace.filterMap log := by
    rw [List.filterMap_append, hdeleted, List.filterMap_cons_none (hclose _ _)]
    exact List.append_nil _
  cases res with
  | ok _ => exact hlog
  | fail _ => exact hlog

end ClSocket
