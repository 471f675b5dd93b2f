import ClSocket.Descriptor.Effect

/-!
# Methods that leave the modes alone

The modes of an object are its type and the two flags `m_bIsBlocking` and `m_bIsMulticast`. The
modal calls are those that decide two settings of a descriptor, its `O_NONBLOCK` flag and its options
at the level of TCP: the calls that make a descriptor, the two `fcntl` calls, and `setsockopt` at that
level. The `getsockopt` that `Flush` begins with, which hands over no length, is one of them too.

`SameModes` is the frame condition of the methods that touch neither, which are most, and
`sameModes_run` states it of all such operations at once. The others each have a lemma of their
own, which lists their modal calls: `Initialize`, `Accept`, `Listen`, and those that set a mode.
-/

namespace ClSocket

open Prog CSimpleSocket CActiveSocket CPassiveSocket

/-- The calls that decide the settings of a descriptor. -/
def Event.isModal : Event → Bool
  | .socket _ _ _ | .accept _ _ | .getfl _ _ | .setfl _ _ _ => true
  | .setsockopt _ level _ _ _ => level == IPPROTO_TCP
  | .getsockopt _ _ _ optlen _ => optlen.isNone
  | _ => false

/-- Those of a trace. -/
def modalCalls (t : Trace) : Trace := t.filter Event.isModal

@[simp] theorem modalCalls_nil : modalCalls [] = [] := rfl

@[simp] theorem modalCalls_append (t u : Trace) :
    modalCalls (t ++ u) = modalCalls t ++ modalCalls u := List.filter_append ..

@[simp] theorem modalCalls_cons (e : Event) (t : Trace) :
    modalCalls (e :: t) = if e.isModal then e :: modalCalls t else modalCalls t :=
  List.filter_cons ..

@[simp] theorem modalCalls_bufferDeleted (s : State) :
    modalCalls (bufferDeleted s).trace = modalCalls s.trace :=
  filter_bufferDeleted (fun _ => rfl) s

/-- The type of an object, and its two flags. -/
def CSimpleSocket.modes (o : CSimpleSocket) : CSocketType × Bool × Bool :=
  (o.m_nSocketType, o.m_bIsBlocking, o.m_bIsMulticast)

namespace CSimpleSocket

variable {a b : CSimpleSocket}

theorem blocking_of_modes (h : a.modes = b.modes) : a.m_bIsBlocking = b.m_bIsBlocking :=
  congrArg (fun m => m.2.1) h

end CSimpleSocket

/-- The modes are as they were, and no modal call has been made. -/
def SameModes (s t : State) : Prop :=
  t.self.modes = s.self.modes ∧ modalCalls t.trace = modalCalls s.trace

instance : Std.Refl SameModes := ⟨fun _ => ⟨rfl, rfl⟩⟩

instance : IsTrans State SameModes := ⟨fun _ _ _ h₁ h₂ => ⟨h₂.1.trans h₁.1, h₂.2.trans h₁.2⟩⟩

/-- The modes are nothing the plain methods write, nor binding and closing, and the calls of these
are not modal. -/
theorem spared_modes : SparedByClose CSimpleSocket.modes Event.isModal where
  code _ _ := rfl
  timer _ _ := rfl
  bytesSent _ _ := rfl
  linger _ _ := rfl
  connectTimeout _ _ := rfl
  recvTimeout _ _ := rfl
  sendTimeout _ _ := rfl
  fds _ _ _ _ := rfl
  socket _ _ := rfl
  buffer _ _ := rfl
  server _ _ := rfl
  multicastGroup _ _ := rfl
  shutdown _ _ _ := rfl
  setsockopt _ _ _ _ _ hlevel := beq_false_of_ne hlevel
  getsockopt _ _ _ _ _ := rfl
  select _ _ _ _ _ _ := rfl
  send _ _ _ := rfl
  sendto _ _ _ _ := rfl
  writev _ _ _ := rfl
  lseek _ _ _ := rfl
  read _ _ _ := rfl
  close _ _ := rfl
  free _ := rfl
  bind _ _ _ := rfl
  listen _ _ _ := rfl

/-! ### Steps -/

theorem modes_assign {f : CSimpleSocket → CSimpleSocket} (h : ∀ o, (f o).modes = o.modes) :
    Keeps SameModes (assign f) := frame_assign h

theorem modes_setSocketError (error : CSocketError) : Keeps SameModes (setSocketError error) :=
  frame_setSocketError spared_modes.toSpared error

theorem modes_translateSocketError : Keeps SameModes translateSocketError :=
  frame_translateSocketError spared_modes.toSpared

theorem modes_timerInitialize : Keeps SameModes timerInitialize :=
  frame_timerInitialize spared_modes.toSpared

theorem modes_setStartTime : Keeps SameModes setStartTime := frame_setStartTime spared_modes.toSpared

theorem modes_setEndTime : Keeps SameModes setEndTime := frame_setEndTime spared_modes.toSpared

theorem modes_virtualSend (cls : SocketClass) (pBuf : Option Bytes) (bytesToSend : ℕ) :
    Keeps SameModes (virtualSend cls pBuf bytesToSend) := frame_virtualSend spared_modes.toSpared cls _ _

theorem modes_deleteBuffer : Keeps SameModes deleteBuffer := frame_deleteBuffer spared_modes

/-! ### `Receive` -/

theorem spared_modes_receive : SparedByReceive CSimpleSocket.modes Event.isModal where
  toSpared := spared_modes.toSpared
  bytesReceived _ _ := rfl
  client _ _ := rfl
  multicastGroup _ _ := rfl
  written _ _ _ := rfl
  recv _ _ _ _ _ := rfl
  recvfrom _ _ _ := rfl

theorem modes_receive (nMaxBytes : Int) (pBuffer : Option Bytes) :
    Keeps SameModes (receive nMaxBytes pBuffer) := by
  have hprovide : Keeps SameModes (provideBuffer nMaxBytes) := by
    refine keeps_bind keeps_this fun o => keeps_bind (keeps_ite modes_deleteBuffer (keeps_pure _))
      fun _ => fun s => ?_
    simp [SameModes, modes, Event.isModal]
  have hloop : Keeps SameModes (receiveLoop nMaxBytes pBuffer) :=
    frame_receiveLoop spared_modes_receive nMaxBytes pBuffer
  refine keeps_bind (modes_assign fun _ => rfl) fun _ => keeps_bind keeps_this fun _ =>
    keeps_ite (keeps_pure _) ?_
  exact keeps_bind (keeps_ite hprovide (keeps_pure _)) fun _ =>
    keeps_bind (modes_setSocketError _) fun _ => keeps_bind modes_timerInitialize fun _ =>
      keeps_bind modes_setStartTime fun _ => keeps_bind hloop fun _ =>
        keeps_bind modes_setEndTime fun _ => keeps_bind modes_translateSocketError fun _ =>
          keeps_bind keeps_this fun _ =>
            keeps_bind (keeps_ite modes_deleteBuffer (keeps_pure _)) fun _ => keeps_pure _

/-! ### `Open` -/

theorem spared_modes_open : SparedByOpen CSimpleSocket.modes Event.isModal where
  toSpared := spared_modes.toSpared
  server _ _ := rfl
  client _ _ := rfl
  gethostbyname _ _ := rfl
  connect _ _ _ := rfl
  getpeername _ _ := rfl
  getsockname _ _ := rfl

/-! ### All of them -/

/-- The operations that leave the modes alone. -/
def Op.keepsModes : Op → Bool
  | .initializeSocket | .setBlocking | .setNonblocking | .setMulticast _ _ => false
  | .disableNagleAlgoritm | .enableNagleAlgoritm | .listen _ _ _ | .accept _ => false
  | _ => true

/-- **The frame of these operations.** -/
theorem sameModes_run (cls : SocketClass) {op : Op} (h : op.keepsModes = true) :
    Keeps SameModes (op.run cls) := by
  by_cases hplain : op.isPlain = true
  · exact frame_run spared_modes.toSpared cls hplain
  cases op with
  | close => exact Keeps.map (frame_closeSocket spared_modes) _
  | receive n buf => exact Keeps.map (modes_receive n buf) _
  | openSocket addr port => exact Keeps.map (frame_openSocket spared_modes_open addr port) _
  | bindMulticast iface group port => exact Keeps.map (frame_bindMulticast spared_modes iface group port) _
  | initializeSocket => cases h
  | setBlocking => cases h
  | setNonblocking => cases h
  | setMulticast => cases h
  | disableNagleAlgoritm => cases h
  | enableNagleAlgoritm => cases h
  | listen => cases h
  | accept => cases h
  | _ => exact absurd rfl hplain

/-! ### The others -/

/-- `Initialize` makes one modal call, the one it takes its descriptor from. -/
theorem wp_initializeSocket_modes (s : State) :
    wp initializeSocket (fun _ t => t.self.modes = s.self.modes ∧ ∃ res,
      s.os.script.socket.head? = some res ∧ t.self.m_socket = res.ret ∧
        modalCalls t.trace = modalCalls s.trace ++
          [.socket s.self.m_nSocketDomain s.self.m_nSocketType.code res]) (fun _ _ => True) s := by
  rw [initializeSocket, wp_bind, wp_setErrno, wp_bind, wp_timerInitialize, wp_bind, wp_setStartTime,
    wp_bind, wp_this, wp_bind, sysSocket, wp_issue_iff]
  refine ⟨fun _ => trivial, fun res rest hq => ?_⟩
  have hq : s.os.script.socket = res :: rest := hq
  refine ⟨rfl, res, by rw [hq]; rfl, rfl, ?_⟩
  simp [Event.isModal]

/-- `Listen` makes one, the second of its option calls. -/
theorem wp_listen_modes (pAddr : Option String) (nPort : UInt16) (nConnectionBacklog : Int)
    (s : State) :
    wp (CPassiveSocket.listen pAddr nPort nConnectionBacklog) (fun _ t =>
      t.self.modes = s.self.modes ∧ ∃ res, s.os.script.setsockopt[1]? = some res ∧
        modalCalls t.trace = modalCalls s.trace ++
          [.setsockopt s.self.m_socket IPPROTO_TCP IP_TOS (.int IPTOS_LOWDELAY) res])
      (fun _ _ => True) s := by
  rw [CPassiveSocket.listen, wp_bind, listenOptions, wp_bind, wp_this, wp_bind, sysSetsockopt,
    wp_issue_iff]
  refine ⟨fun _ => trivial, fun res rest hq => ?_⟩
  rw [wp_bind, sysSetsockopt, wp_issue_iff]
  refine ⟨fun _ => trivial, fun res' rest' hq' => ?_⟩
  have hq' : rest = res' :: rest' := hq'
  rw [wp_pure]
  refine wp_mono (fun _ t h => ?_) (fun _ _ _ => trivial)
    (frame_listenRest spared_modes pAddr nPort nConnectionBacklog _)
  obtain ⟨hmodes, hcalls⟩ := h
  refine ⟨hmodes, res', by rw [hq, hq']; rfl, hcalls.trans ?_⟩
  show modalCalls _ = _
  simp [Event.isModal, SOL_SOCKET, IPPROTO_TCP]

/-- `SetMulticast` makes none; on a datagram socket it sets the flag whatever the call answers. -/
theorem wp_setMulticast_modes (bEnable : Bool) (multicastTTL : UInt8) (s : State) :
    wp (setMulticast bEnable multicastTTL) (fun _ t =>
      t.self.m_nSocketType = s.self.m_nSocketType ∧ t.self.m_bIsBlocking = s.self.m_bIsBlocking ∧
      t.self.m_bIsMulticast = (if s.self.m_nSocketType = .socketTypeUdp then bEnable
        else s.self.m_bIsMulticast) ∧ modalCalls t.trace = modalCalls s.trace)
      (fun _ _ => True) s := by
  rw [setMulticast, wp_bind, wp_this, wp_ite]
  refine ⟨fun hudp => ?_, fun hother => ?_⟩
  · rw [if_pos hudp, wp_bind, wp_assign, wp_bind, sysSetsockopt, wp_issue_iff]
    refine ⟨fun _ => trivial, fun res rest _ => ?_⟩
    cases res with
    | ok u => exact ⟨rfl, rfl, rfl, by simp [Event.isModal, IPPROTO_IP, IPPROTO_TCP]⟩
    | fail e => exact ⟨rfl, rfl, rfl, by simp [Event.isModal, IPPROTO_IP, IPPROTO_TCP]⟩
  · rw [if_neg hother]
    exact ⟨rfl, rfl, rfl, rfl⟩

/-- `DisableNagleAlgoritm` and `EnableNagleAlgoritm` make one, and say whether it succeeded. -/
theorem wp_setOption_modes (name : Int) (value : OptVal) (s : State) :
    wp (setOption IPPROTO_TCP name value) (fun r t => t.self.modes = s.self.modes ∧ ∃ res,
      r = decide (res = .ok ()) ∧ modalCalls t.trace = modalCalls s.trace ++
        [.setsockopt s.self.m_socket IPPROTO_TCP name value res]) (fun _ _ => True) s := by
  rw [setOption, wp_bind, wp_this, wp_bind, sysSetsockopt, wp_issue_iff]
  refine ⟨fun _ => trivial, fun res rest _ => ⟨rfl, res, rfl, ?_⟩⟩
  simp [Event.isModal]

/-- What the two `fcntl` calls of `SetBlocking` and `SetNonblocking` come to. -/
inductive FlagCalls (o : CSimpleSocket) (sc : Script) (change : UInt32 → UInt32) (blocking : Bool) :
    Bool → CSimpleSocket → Trace → Prop where
  | unread (u : CSimpleSocket) (e : Errno) (modes_eq : u.modes = o.modes)
      (answer : sc.getfl.head? = some (.fail e)) :
      FlagCalls o sc change blocking false u [.getfl o.m_socket (.fail e)]
  | unset (u : CSimpleSocket) (nCurFlags : UInt32) (e : Errno) (modes_eq : u.modes = o.modes)
      (answer : sc.setfl.head? = some (.fail e)) : FlagCalls o sc change blocking false u
        [.getfl o.m_socket (.ok nCurFlags), .setfl o.m_socket (change nCurFlags) (.fail e)]
  | set (u : CSimpleSocket) (nCurFlags : UInt32) (blocking_eq : u.m_bIsBlocking = blocking)
      (read : sc.getfl.head? = some (.ok nCurFlags)) (answer : sc.setfl.head? = some (.ok ())) :
      FlagCalls o sc change blocking true u
        [.getfl o.m_socket (.ok nCurFlags), .setfl o.m_socket (change nCurFlags) (.ok ())]

theorem wp_setFlags_modes (change : UInt32 → UInt32) (blocking : Bool) (s : State) :
    wp (setFlags change blocking) (fun r t => ∃ evs,
      FlagCalls s.self s.os.script change blocking r t.self evs ∧
        modalCalls t.trace = modalCalls s.trace ++ evs) (fun _ _ => True) s := by
  rw [setFlags, wp_bind, wp_this, wp_bind, sysGetfl, wp_issue_iff]
  refine ⟨fun _ => trivial, fun res rest hq => ?_⟩
  -- the flags are written only after they have been read, and the member only after that
  cases res with
  | fail e =>
    refine ⟨_, .unread _ e rfl (by rw [hq]; rfl), ?_⟩
    simp [Event.isModal]
  | ok fl =>
    rw [wp_bind, sysSetfl, wp_issue_iff]
    refine ⟨fun _ => trivial, fun res' rest' hq' => ?_⟩
    have hq' : s.os.script.setfl = res' :: rest' := hq'
    cases res' with
    | fail e =>
      refine ⟨_, .unset _ fl e rfl (by rw [hq']; rfl), ?_⟩
      simp [Event.isModal]
    | ok u =>
      refine ⟨_, .set _ fl rfl (by rw [hq]; rfl) (by rw [hq']; rfl), ?_⟩
      simp [Event.isModal]

/-- The modal calls of `Accept` are the ones of its loop. -/
theorem modalCalls_rejections (lfd : Int) (fails : List Errno) :
    modalCalls (rejections lfd fails) = rejections lfd fails := by
  refine List.filter_eq_self.mpr fun e he => ?_
  obtain ⟨f, -, rfl⟩ := List.mem_map.mp he
  rfl

theorem modalCalls_acceptance (lfd : Int) (fd : ℕ) (peer : SockaddrIn)
    (name' name : Answer SockaddrIn) :
    modalCalls (acceptance lfd fd peer name' name) = [.accept lfd (.ok (fd, peer))] := rfl

/-- A round of `Accept` leaves the modes of the listener alone. -/
theorem wp_acceptRound_modes (client : CSimpleSocket) {s t : State}
    (h : t.self.modes = s.self.modes) :
    wp (acceptRound client) (Round.post (fun _ u => u.self.modes = s.self.modes)
      (fun _ u => u.self.modes = s.self.modes)) (fun _ _ => True) t := by
  -- the names go to the client, which is not the object of the method
  have hstore : ∀ (c : CSimpleSocket) (u : State), u.self.modes = s.self.modes →
      wp (storeAccepted c) (fun _ v => v.self.modes = s.self.modes) (fun _ _ => True) u := by
    intro c u hu
    simp [storeAccepted, sysGetpeername, sysGetsockname, hu]
  rw [acceptRound, wp_bind, wp_setErrno, wp_bind, wp_this, wp_bind, sysAccept, wp_issue_iff]
  refine ⟨fun _ => trivial, fun res rest _ => ?_⟩
  cases res with
  | ok d =>
    simp only [wp_bind, wp_assign, wp_getErrno]
    refine wp_mono (fun c u hu => ?_) (fun _ _ h => h) (hstore _ _ h)
    rw [wp_ite]
    exact ⟨fun _ => hu, fun _ => hu⟩
  | fail e =>
    simp only [wp_bind, wp_translateSocketError, wp_this, wp_ite, wp_pure]
    exact ⟨fun _ => h, fun _ => h⟩

/-- `Accept` leaves them alone. -/
theorem wp_accept_modes (raw : CSimpleSocket) (s : State) :
    wp (accept raw) (fun _ t => t.self.modes = s.self.modes) (fun _ _ => True) s := by
  simp only [accept, wp_bind, wp_this, wp_ite, wp_setSocketError, wp_pure, wp_timerInitialize,
    wp_setStartTime, wp_script, wp_setEndTime]
  refine ⟨fun _ => rfl, fun _ => ?_⟩
  refine wp_mono (fun r t h => ?_) (fun _ _ h => h)
    (wp_iter (fun _ _ u => u.self.modes = s.self.modes) (fun _ c u hu => wp_acceptRound_modes c hu)
      (fun _ _ _ => trivial) _ _ _ rfl)
  refine ⟨fun _ => ?_, fun _ => h⟩
  -- the listener is put back after the client has been closed
  rw [wp_onObject]
  exact wp_mono (fun _ _ _ => h) (fun _ _ h => h) (wp_trivial _ _)

end ClSocket
