import ClSocket.Framework.Monitor
import ClSocket.Framework.Transition
import ClSocket.Method.Modes

/-!
# Who decides the Nagle setting

`DisableNagleAlgoritm` and `EnableNagleAlgoritm` set `TCP_NODELAY`, which is the option 1 at the
level `IPPROTO_TCP`. `Listen` sets the type of service, `IP_TOS`, which is the option 1 at the level
`IPPROTO_IP`, but it names the level `IPPROTO_TCP`: it switches Nagle's algorithm off.

`onlyAsked_iff` says on which runs of one object this cannot be seen: every `Listen` that sets the
option of a valid socket finds it switched on already, or gives the socket up. The kernel is the
monitor `sockOptions`, a map from levels and numbers to values for every descriptor.

`Flush`, which switches the option on and back, is not public, and on this system nothing calls it.
It is a step of the runs all the same, and so is `Writev`, which calls it. It reads the option
first and passes its length where a pointer to it belongs, so the kernel refuses and `Flush`
touches nothing (`wp_flush_modes`).
-/

namespace ClSocket

open Prog CSimpleSocket CPassiveSocket Function

/-! ### The kernel -/

/-- The options of every descriptor, by level and number. -/
abbrev Options : Type := Int → Int × Int → OptVal

/-- **The kernel**: on a new descriptor all options are 0, and `setsockopt` sets one or fails. -/
def sockOptions : Monitor Options Event where
  next options
    | .socket _ _ (.ok fd) => update options fd fun _ => .int 0
    | .accept _ (.ok (fd, _)) => update options fd fun _ => .int 0
    | .setsockopt fd level name value (.ok _) =>
      update options fd (update (options fd) (level, name) value)
    | _ => options
  ok _ _ := True

/-- The kernel gives a connection a descriptor that is not the listening one, and it does not read
an option out without a place for its length. -/
def Event.Served : Event → Prop
  | .accept lfd (.ok (fd, _)) => (fd : Int) ≠ lfd
  | .getsockopt _ _ _ none (.ok _) => False
  | _ => True

/-- `TCP_NODELAY` is on. -/
def nodelay (options : Options) (fd : Int) : Bool :=
  decide (options fd (IPPROTO_TCP, TCP_NODELAY) ≠ .int 0)

/-- The options at the level of TCP. -/
def tcpLevel (options : Options) (fd name : Int) : OptVal := options fd (IPPROTO_TCP, name)

theorem nodelay_eq (options : Options) (fd : Int) :
    nodelay options fd = decide (tcpLevel options fd TCP_NODELAY ≠ .int 0) := rfl

theorem tcpLevel_next {options options' : Options} (e : Event)
    (h : tcpLevel options = tcpLevel options') :
    tcpLevel (sockOptions.next options e) = tcpLevel (sockOptions.next options' e) := by
  have hat : ∀ fd name, options fd (IPPROTO_TCP, name) = options' fd (IPPROTO_TCP, name) :=
    fun fd name => congrFun (congrFun h fd) name
  -- the same is written at the same place
  have hput : ∀ (fd : Int) (f f' : Int × Int → OptVal),
      (∀ name, f (IPPROTO_TCP, name) = f' (IPPROTO_TCP, name)) →
        tcpLevel (update options fd f) = tcpLevel (update options' fd f') := by
    intro fd f f' hf
    ext fd' name
    by_cases hfd : fd' = fd
    · subst hfd
      simp only [tcpLevel, update_self, hf]
    · simp only [tcpLevel, update_of_ne hfd, hat]
  cases e with
  | socket domain type res =>
    cases res with
    | ok fd => exact hput fd _ _ fun _ => rfl
    | fail e => exact h
  | accept lfd res =>
    cases res with
    | ok d => exact hput d.1 _ _ fun _ => rfl
    | fail e => exact h
  | setsockopt fd level name value res =>
    cases res with
    | ok u =>
      refine hput fd _ _ fun name' => ?_
      simp only [update_apply, hat]
    | fail e => exact h
  | _ => exact h

theorem tcpLevel_next_of_not_modal {options : Options} {e : Event} (he : e.isModal = false) :
    tcpLevel (sockOptions.next options e) = tcpLevel options := by
  cases e with
  | socket => cases he
  | accept => cases he
  | setsockopt fd level name value res =>
    cases res with
    | fail e => rfl
    | ok u =>
      -- another level is another place of the map
      have hlevel : ∀ n, ((IPPROTO_TCP, n) : Int × Int) ≠ (level, name) := by
        rintro n heq
        obtain ⟨rfl, -⟩ := Prod.mk.inj heq
        cases he
      ext fd' n
      by_cases hfd : fd' = fd
      · subst hfd
        show update options fd' _ fd' _ = options fd' _
        rw [update_self, update_of_ne (hlevel n)]
      · show update options fd _ fd' _ = options fd' _
        rw [update_of_ne hfd]
  | _ => rfl

/-- The modal calls are what the setting goes by. -/
theorem nodelay_after (options : Options) (t : Trace) (fd : Int) :
    nodelay (sockOptions.after options t) fd =
      nodelay (sockOptions.after options (modalCalls t)) fd := by
  have hview : tcpLevel (sockOptions.after options (modalCalls t)) =
      tcpLevel (sockOptions.after options t) :=
    Monitor.view_after_filter tcpLevel (fun _ _ e h => tcpLevel_next e h)
      (fun _ _ he => tcpLevel_next_of_not_modal he) options t
  have hat : tcpLevel (sockOptions.after options (modalCalls t)) fd TCP_NODELAY =
      tcpLevel (sockOptions.after options t) fd TCP_NODELAY :=
    congrFun (congrFun hview fd) TCP_NODELAY
  rw [nodelay_eq, nodelay_eq, hat]

/-- Its own option written, the setting is what was written. -/
theorem nodelay_setsockopt (options : Options) (fd : Int) (value : OptVal) :
    nodelay (sockOptions.next options
      (.setsockopt fd IPPROTO_TCP TCP_NODELAY value (.ok ()))) fd = decide (value ≠ .int 0) := by
  show decide (update options fd _ fd _ ≠ _) = _
  rw [update_self, update_self]

/-- A new descriptor has it off. -/
theorem nodelay_fresh (options : Options) (fd : Int) :
    nodelay (update options fd fun _ => .int 0) fd = false := by
  simp [nodelay]

/-! ### Runs -/

/-- A call on the object: a public operation, or one of the two methods that stand in for `writev`
where there is none. -/
inductive Request where
  | method (op : Op)
  | flush
  | writev (pVector : List Iovec) (nCount : ℕ)

/-- The method of a request. -/
def Request.run (cls : SocketClass) : Request → M Ret
  | .method op => op.run cls
  | .flush => Ret.bool <$> CSimpleSocket.flush cls
  | .writev pVector nCount => Ret.int <$> CSimpleSocket.writev cls pVector nCount

/-- Whether objects of a class have it. -/
def Request.ofClass : Request → SocketClass → Bool
  | .method op, cls => op.ofClass cls
  | _, _ => true

/-- The call returned `true`. -/
def Ret.isTrue : Ret → Bool
  | .bool b => b
  | _ => false

/-- Whether the last Nagle operation to succeed since `Initialize` disables the algorithm, after a
request that returned `ret`. -/
def Request.disabled (ret : Ret) (before : Bool) : Request → Bool
  | .method .initializeSocket => false
  | .method .disableNagleAlgoritm => if ret.isTrue = true then true else before
  | .method .enableNagleAlgoritm => if ret.isTrue = true then false else before
  | _ => before

/-- An object, the options of the descriptors, and what the object has been asked for. -/
structure Delaying where
  self : CSimpleSocket
  options : Options
  disabled : Bool

/-- A request and the answers it meets. -/
structure Served where
  request : Request
  os : Os

/-- The steps of one object of a class. `Receive` may throw. -/
inductive NagleStep (cls : SocketClass) : Delaying → Served → Delaying → Prop where
  | returned {s : Delaying} {r : Request} {os : Os} {ret : Ret} {t : State}
      (has : r.ofClass cls = true) (hrun : call (r.run cls) s.self os = .done ret t)
      (served : ∀ e ∈ t.trace, e.Served) : NagleStep cls s ⟨r, os⟩
        ⟨t.self, sockOptions.after s.options t.trace, r.disabled ret s.disabled⟩
  | threw {s : Delaying} {nMaxBytes : Int} {pBuffer : Option Bytes} {os : Os} {t : State}
      (hrun : call (receive nMaxBytes pBuffer) s.self os = .stop .threw t) :
      NagleStep cls s ⟨.method (.receive nMaxBytes pBuffer), os⟩
        ⟨t.self, sockOptions.after s.options t.trace, s.disabled⟩

/-- Of a valid socket `TCP_NODELAY` is on exactly when it was asked for. -/
def AsAsked (s : Delaying) : Prop :=
  s.self.isSocketValid = true →
    (nodelay s.options s.self.m_socket = true ↔ s.disabled = true)

/-- The requests that may change the setting. -/
def Request.asks : Request → Bool
  | .method .initializeSocket => true
  | .method .disableNagleAlgoritm | .method .enableNagleAlgoritm => true
  | _ => false

/-- **The property**, of a step: the setting is as it was asked for, and no other request has
changed it. -/
structure OnlyAsked (s : Delaying) (x : Served) (s' : Delaying) : Prop where
  asked : AsAsked s'
  frame : x.request.asks = false → s.self.isSocketValid = true → s'.self.isSocketValid = true →
    nodelay s'.options s'.self.m_socket = nodelay s.options s.self.m_socket

/-- The answers that make `Listen` fail and then let it close the socket. -/
def GivesUp (o : CSimpleSocket) (sc : Script) : Prop :=
  listenFails o sc = true ∧ sc.close.head? = some (.ok ())

/-- **The defect**: a `Listen` on a valid socket whose second option call succeeds, the last Nagle
operation not having disabled the algorithm, and which does not give the socket up. -/
def Served.Slips (s : Delaying) (x : Served) : Prop :=
  ∃ pAddr nPort nConnectionBacklog, x.request = .method (.listen pAddr nPort nConnectionBacklog) ∧
    s.self.isSocketValid = true ∧ s.disabled = false ∧
      x.os.script.setsockopt[1]? = some (.ok ()) ∧ ¬ GivesUp s.self x.os.script

/-! ### `Flush` and `Writev` -/

/-- `Flush` asks for the option without a place for its length, and stops there if it is refused. -/
theorem wp_flush_modes (cls : SocketClass) (s : State) :
    wp (flush cls) (fun _ t => (∃ e, modalCalls t.trace = modalCalls s.trace ++
        [.getsockopt s.self.m_socket IPPROTO_TCP TCP_NODELAY none (.fail e)]) ∨
      ∃ v, Event.getsockopt s.self.m_socket IPPROTO_TCP TCP_NODELAY none (.ok v) ∈
        modalCalls t.trace) (fun _ _ => True) s := by
  rw [flush, wp_bind, wp_this, wp_bind, sysGetsockopt, wp_issue_iff]
  refine ⟨fun _ => trivial, fun res rest _ => ?_⟩
  cases res with
  | fail e =>
    refine Or.inl ⟨e, ?_⟩
    simp [Event.isModal]
  -- were it answered, the call would be in the trace, whatever comes after it
  | ok v =>
    refine wp_mono (fun _ t h => Or.inr ⟨v, h⟩) (fun _ _ h => h) ?_
    rw [wp_bind, sysSetsockopt, wp_issue_iff]
    refine ⟨fun _ => trivial, fun res' rest' _ => ?_⟩
    have hback : ∀ (b : Bool) (u : State), Event.getsockopt s.self.m_socket IPPROTO_TCP TCP_NODELAY
        none (.ok v) ∈ modalCalls u.trace → wp (do
          let _ ← sysSetsockopt s.self.m_socket IPPROTO_TCP TCP_NODELAY (.int v)
          return b) (fun _ t => Event.getsockopt s.self.m_socket IPPROTO_TCP TCP_NODELAY none
            (.ok v) ∈ modalCalls t.trace) (fun _ _ => True) u := by
      intro b u hu
      rw [wp_bind, sysSetsockopt, wp_issue_iff]
      refine ⟨fun _ => trivial, fun res'' rest'' _ => ?_⟩
      rw [wp_pure, State.answered_trace, modalCalls_append]
      exact List.mem_append_left _ hu
    rw [wp_bind, wp_ite]
    refine ⟨fun _ => ?_, fun _ => hback _ _ (by simp [Event.isModal])⟩
    have hempty : Keeps SameModes (flushEmpty cls) :=
      keeps_bind (modes_virtualSend cls _ _) fun _ => keeps_bind modes_translateSocketError fun _ =>
        keeps_pure _
    refine wp_mono (fun b u hu => hback b u ?_) (fun _ _ _ => trivial) (hempty _)
    rw [hu.2]
    simp [Event.isModal]

theorem quiet_flush (cls : SocketClass) : Keeps Quiet (flush cls) := by
  refine keeps_bind quiet_this fun o => keeps_bind (quiet_issue fun _ => rfl) fun res => ?_
  cases res with
  | fail e => exact keeps_pure _
  | ok v =>
    have hempty : Keeps Quiet (flushEmpty cls) :=
      keeps_bind (quiet_virtualSend cls _ _) fun _ => keeps_bind quiet_translateSocketError fun _ =>
        keeps_pure _
    exact keeps_bind (quiet_issue fun _ => rfl) fun _ => keeps_bind (keeps_ite hempty (keeps_pure _))
      fun _ => keeps_bind (quiet_issue fun _ => rfl) fun _ => keeps_pure _

/-- The loop of `Writev` keeps what the `Send` of the class keeps. -/
theorem keeps_writevLoop {R : State → State → Prop} [Std.Refl R] [IsTrans State R]
    {cls : SocketClass} (hsend : ∀ buf n, Keeps R (virtualSend cls buf n)) (items : List Iovec)
    (nBytesSent : Int) (started : Bool) : Keeps R (writevLoop cls items nBytesSent started) := by
  induction items generalizing nBytesSent started with
  | nil => exact keeps_pure _
  | cons v vs ih =>
    refine keeps_bind (hsend _ _) fun nBytes => keeps_ite (keeps_pure _) ?_
    exact keeps_bind (keeps_ite (keeps_pure _) (keeps_stop _)) fun _ => ih _ _

/-- What `Writev` does with the items of its vector that count. -/
theorem quiet_writevItems (cls : SocketClass) (items : List Iovec) :
    Keeps Quiet (do
      let (nBytesSent, started) ← writevLoop cls items 0 false
      when (started = true) (do let _ ← flush cls)
      return nBytesSent : M Int) :=
  keeps_bind (keeps_writevLoop (quiet_virtualSend cls) _ _ _) fun _ =>
    keeps_bind (keeps_ite (keeps_bind (quiet_flush cls) fun _ => keeps_pure _) (keeps_pure _))
      fun _ => keeps_pure _

/-- It makes the modal calls of one `Flush`, or none. -/
theorem wp_writevItems_modes (cls : SocketClass) (items : List Iovec) (s : State) :
    wp (do
      let (nBytesSent, started) ← writevLoop cls items 0 false
      when (started = true) (do let _ ← flush cls)
      return nBytesSent : M Int) (fun _ t => modalCalls t.trace = modalCalls s.trace ∨
        (∃ fd e, modalCalls t.trace = modalCalls s.trace ++
          [.getsockopt fd IPPROTO_TCP TCP_NODELAY none (.fail e)]) ∨
        ∃ fd v, Event.getsockopt fd IPPROTO_TCP TCP_NODELAY none (.ok v) ∈ modalCalls t.trace)
      (fun _ _ => True) s := by
  rw [wp_bind]
  refine wp_mono (fun p t h => ?_) (fun _ _ _ => trivial)
    (keeps_writevLoop (modes_virtualSend cls) _ _ _ s)
  obtain ⟨n, started⟩ := p
  rw [wp_bind, wp_when]
  -- `Flush` runs only after an item has been started
  refine ⟨fun _ => ?_, fun _ => Or.inl h.2⟩
  rw [wp_bind]
  refine wp_mono (fun _ u hu => ?_) (fun _ _ h => h) (wp_flush_modes cls t)
  rw [h.2] at hu
  refine Or.inr (hu.imp ?_ ?_)
  · exact fun ⟨e, he⟩ => ⟨_, e, he⟩
  · exact fun ⟨v, hv⟩ => ⟨_, v, hv⟩

/-! ### `Listen` -/

theorem wp_listenOptions_close (s : State) :
    wp listenOptions (fun _ t => t.os.script.close = s.os.script.close) (fun _ _ => True) s := by
  simp [listenOptions, sysSetsockopt]

theorem wp_bindAndListen_close (nConnectionBacklog : Int) (s : State) :
    wp (bindAndListen nConnectionBacklog) (fun _ t => t.os.script.close = s.os.script.close)
      (fun _ _ => True) s := by
  simp [bindAndListen, sysBind, sysListen]

/-- `Close` forgets a descriptor when the system takes it back. -/
theorem wp_closeKeepingError_socket {s : State} (hv : s.self.m_socket ≠ -1) :
    wp closeKeepingError (fun _ t => t.self.m_socket = -1 ↔
      s.os.script.close.head? = some (.ok ())) (fun _ _ => True) s := by
  simp only [closeKeepingError, closeSocket, closeHandle, wp_bind, wp_this, wp_deleteBuffer, wp_ite,
    isSocketValid_iff, bufferDeleted_self, wp_setSocketError, sysClose, wp_issue_iff]
  refine ⟨fun _ => ⟨fun _ => trivial, fun res rest hq => ?_⟩, fun h => absurd hv h⟩
  have hq : s.os.script.close = res :: rest := hq
  -- `m_socket` is reset in the branch of a successful `close` alone
  cases res with
  | ok u => simp [hq, INVALID_SOCKET]
  | fail e => simp [hq, hv]

/-- `Listen` on a valid socket gives it up under these answers, and only then. -/
theorem wp_listen_socket (pAddr : Option String) (nPort : UInt16) (nConnectionBacklog : Int)
    {s : State} (hv : s.self.m_socket ≠ -1) :
    wp (CPassiveSocket.listen pAddr nPort nConnectionBacklog)
      (fun _ t => t.self.m_socket = -1 ↔ GivesUp s.self s.os.script) (fun _ _ => True) s := by
  rw [CPassiveSocket.listen, wp_bind]
  refine wp_mono (fun _ s₁ h₁ => ?_) (fun _ _ h => h)
    (wp_and (wp_listenOptions s) (wp_listenOptions_close s))
  obtain ⟨⟨hself₁, -, hb₁, hl₁, -⟩, hc₁⟩ := h₁
  simp only [wp_bind, wp_bindAddress, wp_assign, wp_timerInitialize, wp_setStartTime]
  refine wp_mono (fun r s₂ h₂ => ?_) (fun _ _ h => h)
    (wp_and (wp_bindAndListen nConnectionBacklog _) (wp_bindAndListen_close nConnectionBacklog _))
  obtain ⟨⟨hr, -, hself₂, -⟩, hc₂⟩ := h₂
  have hfails : r = !listenFails s.self s.os.script := by
    rw [hr]
    simp [listenFails, hself₁, hb₁, hl₁]
  have hsocket : s₂.self.m_socket = s.self.m_socket := by rw [hself₂, ← hself₁]; rfl
  have hclose : s₂.os.script.close = s.os.script.close := hc₂.trans hc₁
  simp only [wp_setEndTime, wp_translateSocketError, wp_when, wp_pure]
  -- a `Listen` that failed closes, and one that succeeded keeps the descriptor
  refine ⟨fun hfalse => ?_, fun htrue => ?_⟩
  · have hfail : listenFails s.self s.os.script = true := by simpa [hfalse] using hfails.symm
    refine wp_mono (fun _ t h => ?_) (fun _ _ h => h) (wp_closeKeepingError_socket ?_)
    · rw [h]
      show s₂.os.script.close.head? = _ ↔ _
      rw [hclose]
      exact ⟨fun hok => ⟨hfail, hok⟩, fun hup => hup.2⟩
    · show s₂.self.m_socket ≠ -1
      rwa [hsocket]
  · refine iff_of_false ?_ fun hup => htrue ?_
    · show s₂.self.m_socket ≠ -1
      rwa [hsocket]
    · rw [hfails, hup.1]
      rfl

/-! ### One request -/

section

variable {cls : SocketClass} {o : CSimpleSocket} {os : Os} {ret : Ret} {t : State} {r : Request}

/-- The requests that take a descriptor or write the option. -/
def Request.sets : Request → Bool
  | .method .initializeSocket | .method .disableNagleAlgoritm => true
  | .method .enableNagleAlgoritm | .method (.listen _ _ _) => true
  | _ => false

/-- `Accept` writes the options of no descriptor but the one it gets. -/
theorem nodelay_accept {raw : CSimpleSocket} {client : Option CSimpleSocket} (options : Options)
    (hrun : call (accept raw) o os = .done client t) (served : ∀ e ∈ t.trace, e.Served) :
    nodelay (sockOptions.after options t.trace) o.m_socket = nodelay options o.m_socket := by
  have hrej : ∀ fails, sockOptions.after options (rejections o.m_socket fails) = options := by
    intro fails
    refine Monitor.after_eq_self (fun e he options => ?_) options
    obtain ⟨f, -, rfl⟩ := List.mem_map.mp he
    rfl
  obtain ⟨-, fails, h⟩ := wp_call (wp_accept raw _) hrun
  rw [nodelay_after]
  cases client with
  | none =>
    obtain ⟨-, htrace⟩ := h
    rw [htrace, List.nil_append, modalCalls_rejections, hrej]
  | some c =>
    obtain ⟨fd, peer, name', name, -, htrace⟩ := h
    -- the options written are those of the connection, which is another descriptor
    have hother : (fd : Int) ≠ o.m_socket := by
      refine served (.accept o.m_socket (.ok (fd, peer))) ?_
      rw [htrace]
      simp [acceptance]
    rw [htrace, List.nil_append, modalCalls_append, modalCalls_rejections, modalCalls_acceptance,
      Monitor.after_append, hrej]
    show decide (update options (fd : Int) _ o.m_socket _ ≠ _) = _
    rw [update_of_ne hother.symm]
    rfl

/-- The options after the calls of `Flush`, which the kernel refuses. -/
theorem after_flush {options : Options} (served : ∀ e ∈ t.trace, e.Served)
    (h : modalCalls t.trace = [] ∨
      (∃ fd e, modalCalls t.trace = [.getsockopt fd IPPROTO_TCP TCP_NODELAY none (.fail e)]) ∨
      ∃ fd v, Event.getsockopt fd IPPROTO_TCP TCP_NODELAY none (.ok v) ∈ modalCalls t.trace) :
    sockOptions.after options (modalCalls t.trace) = options := by
  rcases h with hcalls | ⟨fd, e, hcalls⟩ | ⟨fd, v, hmem⟩
  · rw [hcalls]
    rfl
  · rw [hcalls]
    rfl
  -- the kernel does not answer a `getsockopt` that hands over no length
  · exact absurd (served _ (List.mem_of_mem_filter hmem)) id

/-- **The other requests leave the setting alone.** -/
theorem nodelay_of_call (options : Options) (hr : r.sets = false)
    (hrun : call (r.run cls) o os = .done ret t) (served : ∀ e ∈ t.trace, e.Served) :
    nodelay (sockOptions.after options t.trace) o.m_socket = nodelay options o.m_socket := by
  -- most make no call that the option goes by
  have hnone : modalCalls t.trace = [] →
      nodelay (sockOptions.after options t.trace) o.m_socket = nodelay options o.m_socket := by
    intro hcalls
    rw [nodelay_after, hcalls]
    rfl
  have hflags : ∀ {change blocking b}, call (setFlags change blocking) o os = .done b t →
      nodelay (sockOptions.after options t.trace) o.m_socket = nodelay options o.m_socket := by
    intro change blocking b hb
    obtain ⟨evs, hcase, hcalls⟩ := wp_call (wp_setFlags_modes change blocking _) hb
    have hcalls : modalCalls t.trace = evs := hcalls
    rw [nodelay_after, hcalls]
    cases hcase <;> rfl
  cases r with
  | flush =>
    obtain ⟨b, hb, rfl⟩ := call_done hrun
    have hcase := wp_call (wp_flush_modes cls _) hb
    have hcalls : modalCalls (⟨o, os, []⟩ : State).trace = [] := rfl
    simp only [hcalls, List.nil_append] at hcase
    rw [nodelay_after, after_flush served (Or.inr ?_)]
    exact hcase.imp (fun h => ⟨_, h⟩) fun h => ⟨_, h⟩
  | writev items n =>
    have hrun : call (Ret.int <$> writev cls items n) o os = .done ret t := hrun
    obtain ⟨b, hb, rfl⟩ := call_done hrun
    unfold writev at hb
    generalize narrow n = count at hb
    have hcase := wp_call (wp_writevItems_modes cls _ _) hb
    have hcalls : modalCalls (⟨o, os, []⟩ : State).trace = [] := rfl
    simp only [hcalls, List.nil_append] at hcase
    rw [nodelay_after, after_flush served hcase]
  | method op =>
    by_cases hk : op.keepsModes = true
    · have hsame := wp_call (sameModes_run cls hk ⟨o, os, []⟩) hrun
      exact hnone hsame.2
    cases op with
    | setBlocking =>
      obtain ⟨b, hb, rfl⟩ := call_done hrun
      exact hflags hb
    | setNonblocking =>
      obtain ⟨b, hb, rfl⟩ := call_done hrun
      exact hflags hb
    -- its option is at the level of IP
    | setMulticast b ttl =>
      obtain ⟨b', hb, rfl⟩ := call_done hrun
      exact hnone (wp_call (wp_setMulticast_modes b ttl _) hb).2.2.2
    | accept raw =>
      obtain ⟨b, hb, rfl⟩ := call_done hrun
      exact nodelay_accept options hb served
    | initializeSocket => cases hr
    | disableNagleAlgoritm => cases hr
    | enableNagleAlgoritm => cases hr
    | listen => cases hr
    | _ => exact absurd rfl hk

/-- A request other than `Initialize` keeps the descriptor or gives it up. -/
theorem socket_of_request (hr : r ≠ .method .initializeSocket)
    (hrun : call (r.run cls) o os = .done ret t) :
    t.self.m_socket = o.m_socket ∨ t.self.m_socket = -1 := by
  cases r with
  | method op =>
    refine socket_of_call (fun hop => hr ?_) hrun
    rw [hop]
  | flush =>
    obtain ⟨b, hb, rfl⟩ := call_done hrun
    exact Or.inl (wp_call (quiet_flush cls _) hb).steady.socket
  | writev items n =>
    have hrun : call (Ret.int <$> writev cls items n) o os = .done ret t := hrun
    obtain ⟨b, hb, rfl⟩ := call_done hrun
    unfold writev at hb
    generalize narrow n = count at hb
    exact Or.inl (wp_call (quiet_writevItems cls _ _) hb).steady.socket

end

/-! ### One step -/

section

variable {s : Delaying} {os : Os} {t : State}

/-- A request that leaves the setting alone. -/
theorem AsAsked.of_kept {u : CSimpleSocket} {options : Options} (hs : AsAsked s)
    (hsocket : u.m_socket = s.self.m_socket ∨ u.m_socket = -1)
    (hkept : nodelay options s.self.m_socket = nodelay s.options s.self.m_socket) :
    AsAsked ⟨u, options, s.disabled⟩ := by
  intro hvalid
  -- a socket that is still valid has the descriptor it had
  have hsame : u.m_socket = s.self.m_socket := hsocket.resolve_right (isSocketValid_iff.mp hvalid)
  have hvalid' : s.self.isSocketValid = true := by
    rw [isSocketValid_iff, ← hsame]
    exact isSocketValid_iff.mp hvalid
  show nodelay options u.m_socket = true ↔ s.disabled = true
  rw [hsame, hkept]
  exact hs hvalid'

/-- `Initialize` takes a descriptor with the option off. -/
theorem asAsked_initializeSocket {r : Bool} (hrun : call initializeSocket s.self os = .done r t) :
    AsAsked ⟨t.self, sockOptions.after s.options t.trace, false⟩ := by
  obtain ⟨-, res, -, hsocket, hcalls⟩ := wp_call (wp_initializeSocket_modes _) hrun
  intro hvalid
  -- when `socket` fails there is no valid socket to speak of
  cases res with
  | fail e => exact absurd hsocket (isSocketValid_iff.mp hvalid)
  | ok fd =>
    have hfresh : nodelay (sockOptions.after s.options t.trace) fd = false := by
      rw [nodelay_after, hcalls]
      exact nodelay_fresh s.options fd
    show nodelay _ t.self.m_socket = true ↔ _
    rw [hsocket, Answer.ret_ok, hfresh]

/-- The Nagle operations write what they say, unless the call fails. -/
theorem asAsked_setOption {r : Bool} {value : OptVal} (hs : AsAsked s)
    (hrun : call (setOption IPPROTO_TCP TCP_NODELAY value) s.self os = .done r t) :
    AsAsked ⟨t.self, sockOptions.after s.options t.trace,
      if r = true then decide (value ≠ .int 0) else s.disabled⟩ := by
  obtain ⟨-, res, hr, hcalls⟩ := wp_call (wp_setOption_modes _ _ _) hrun
  have hquiet := wp_call (quiet_setOption IPPROTO_TCP TCP_NODELAY value _) hrun
  have hsocket : t.self.m_socket = s.self.m_socket := hquiet.steady.socket
  cases res with
  -- the option is as it was, and so is what was asked for
  | fail e =>
    have hfailed : r = false := hr
    rw [hfailed, if_neg Bool.false_ne_true]
    refine hs.of_kept (Or.inl hsocket) ?_
    rw [nodelay_after, hcalls]
    rfl
  | ok u =>
    have hdone : r = true := hr
    rw [hdone, if_pos rfl]
    intro _
    show nodelay _ t.self.m_socket = true ↔ _
    rw [nodelay_after, hcalls, hsocket]
    have hwritten := nodelay_setsockopt s.options s.self.m_socket value
    exact Bool.eq_iff_iff.mp hwritten

/-- **`Listen`** switches the option on without being asked to. -/
theorem asAsked_listen {r : Bool} {pAddr : Option String} {nPort : UInt16}
    {nConnectionBacklog : Int} (hs : AsAsked s)
    (hrun : call (CPassiveSocket.listen pAddr nPort nConnectionBacklog) s.self os = .done r t)
    (hsocket : t.self.m_socket = s.self.m_socket ∨ t.self.m_socket = -1) :
    AsAsked ⟨t.self, sockOptions.after s.options t.trace, s.disabled⟩ ↔
      ¬ (s.self.isSocketValid = true ∧ s.disabled = false ∧
        os.script.setsockopt[1]? = some (.ok ()) ∧ ¬ GivesUp s.self os.script) := by
  obtain ⟨-, res, hanswer, hcalls⟩ := wp_call (wp_listen_modes pAddr nPort nConnectionBacklog _) hrun
  have hanswer : os.script.setsockopt[1]? = some res := hanswer
  by_cases hv : s.self.m_socket = -1
  · -- an invalid socket stays one
    have hgone : t.self.m_socket = -1 := hsocket.elim (fun h => h.trans hv) id
    refine iff_of_true (fun hvalid => absurd hgone (isSocketValid_iff.mp hvalid)) ?_
    exact fun h => isSocketValid_iff.mp h.1 hv
  have hup : t.self.m_socket = -1 ↔ GivesUp s.self os.script :=
    wp_call (wp_listen_socket pAddr nPort nConnectionBacklog hv) hrun
  by_cases hgone : t.self.m_socket = -1
  · refine iff_of_true (fun hvalid => absurd hgone (isSocketValid_iff.mp hvalid)) ?_
    exact fun h => h.2.2.2 (hup.mp hgone)
  have hsame : t.self.m_socket = s.self.m_socket := hsocket.resolve_right hgone
  -- it kept the descriptor, and the answer to the second option call decides
  cases res with
  | fail e =>
    refine iff_of_true (hs.of_kept (Or.inl hsame) ?_) ?_
    · rw [nodelay_after, hcalls]
      rfl
    · rintro ⟨-, -, hok, -⟩
      rw [hanswer] at hok
      cases hok
  | ok u =>
    have hvalid : t.self.isSocketValid = true := isSocketValid_iff.mpr hgone
    have hon : nodelay (sockOptions.after s.options t.trace) t.self.m_socket = true := by
      rw [nodelay_after, hcalls, hsame]
      -- `IP_TOS` is the number of `TCP_NODELAY`, and `IPTOS_LOWDELAY` is not 0
      exact nodelay_setsockopt s.options s.self.m_socket (.int IPTOS_LOWDELAY)
    have hasked : AsAsked ⟨t.self, sockOptions.after s.options t.trace, s.disabled⟩ ↔
        s.disabled = true := by
      constructor
      · exact fun h => (h hvalid).mp hon
      · exact fun h _ => iff_of_true hon h
    rw [hasked]
    constructor
    · rintro hd ⟨-, hd', -, -⟩
      rw [hd] at hd'
      cases hd'
    · intro h
      by_contra hd
      exact h ⟨isSocketValid_iff.mpr hv, Bool.eq_false_iff.mpr hd, hanswer, fun h => hgone (hup.mpr h)⟩

end

/-- A `Listen` is what slips. -/
theorem Served.slips_listen {s : Delaying} {pAddr : Option String} {nPort : UInt16}
    {nConnectionBacklog : Int} {os : Os} :
    Served.Slips s ⟨.method (.listen pAddr nPort nConnectionBacklog), os⟩ ↔
      s.self.isSocketValid = true ∧ s.disabled = false ∧
        os.script.setsockopt[1]? = some (.ok ()) ∧ ¬ GivesUp s.self os.script := by
  constructor
  · rintro ⟨pAddr', nPort', n', -, h⟩
    exact h
  · exact fun h => ⟨pAddr, nPort, nConnectionBacklog, rfl, h⟩

/-- **One step** leaves the setting as it was asked for exactly when it is no such `Listen`. -/
theorem NagleStep.asAsked_iff {cls : SocketClass} {s s' : Delaying} {x : Served}
    (h : NagleStep cls s x s') (hs : AsAsked s) : AsAsked s' ↔ ¬ x.Slips s := by
  cases h with
  -- a `Receive` that throws has written no option
  | @threw n buf os t hrun =>
    refine iff_of_true (hs.of_kept (Or.inl ?_) ?_) ?_
    · exact (wp_stopped (holds_receive n buf _) hrun).1
    · have hsame := wp_stopped (modes_receive n buf _) hrun
      rw [nodelay_after, hsame.2]
      rfl
    · rintro ⟨pAddr, nPort, backlog, hreq, -⟩
      cases hreq
  | @returned r os ret t has hrun served =>
    by_cases hr : r.sets = true
    · cases r with
      | flush => cases hr
      | writev => cases hr
      | method op =>
        -- none of the four but `Listen` slips
        have hno : ∀ {op : Op}, (∀ pAddr nPort backlog, op ≠ .listen pAddr nPort backlog) →
            ¬ Served.Slips s ⟨.method op, os⟩ := by
          rintro op hop ⟨pAddr, nPort, backlog, hreq, -⟩
          exact hop pAddr nPort backlog (Request.method.inj hreq)
        cases op with
        | initializeSocket =>
          obtain ⟨b, hb, rfl⟩ := call_done hrun
          exact iff_of_true (asAsked_initializeSocket hb) (hno fun _ _ _ => Op.noConfusion)
        | disableNagleAlgoritm =>
          obtain ⟨b, hb, rfl⟩ := call_done hrun
          exact iff_of_true (asAsked_setOption hs hb) (hno fun _ _ _ => Op.noConfusion)
        | enableNagleAlgoritm =>
          obtain ⟨b, hb, rfl⟩ := call_done hrun
          exact iff_of_true (asAsked_setOption hs hb) (hno fun _ _ _ => Op.noConfusion)
        | listen pAddr nPort backlog =>
          obtain ⟨b, hb, rfl⟩ := call_done hrun
          rw [Served.slips_listen]
          refine asAsked_listen hs hb (socket_of_request (fun hreq => ?_) hrun)
          cases hreq
        | _ => cases hr
    · have hr : r.sets = false := Bool.eq_false_iff.mpr hr
      -- what has been asked for changes with the requests of `sets` alone
      have hd : r.disabled ret s.disabled = s.disabled := by
        cases r with
        | method op => cases op <;> first | rfl | cases hr
        | _ => rfl
      rw [hd]
      refine iff_of_true (hs.of_kept (socket_of_request ?_ hrun) ?_) ?_
      · rintro rfl
        cases hr
      · exact nodelay_of_call s.options hr hrun served
      · rintro ⟨pAddr, nPort, backlog, hreq, -⟩
        have hreq : r = .method (.listen pAddr nPort backlog) := hreq
        rw [hreq] at hr
        cases hr

/-- What has been asked for changes with the Nagle operations and `Initialize`. -/
theorem NagleStep.disabled_eq {cls : SocketClass} {s s' : Delaying} {x : Served}
    (h : NagleStep cls s x s') (hx : x.request.asks = false) : s'.disabled = s.disabled := by
  cases h with
  | threw => rfl
  | @returned r os ret t has hrun served =>
    cases r with
    | method op => cases op <;> first | rfl | cases hx
    | _ => rfl

/-- **Only the Nagle operations decide the setting** on a run of one object exactly when none of its
`Listen`s slips. -/
theorem onlyAsked_iff {cls : SocketClass} {raw : CSimpleSocket} {options : Options}
    {steps : List (Taken Delaying Served)} {s : Delaying}
    (hrun : Run (NagleStep cls) ⟨.construct raw .socketTypeTcp, options, false⟩ steps s) :
    (∀ x ∈ steps, OnlyAsked x.pre x.label x.post) ↔ ∀ x ∈ steps, ¬ x.label.Slips x.pre := by
  refine Run.forall_iff AsAsked OnlyAsked (fun s x _ => ¬ x.Slips s) (fun s x s' h hs => ?_)
    (fun _ _ _ h hs hc => (h.asAsked_iff hs).mpr hc) hrun ?_
  · rw [← h.asAsked_iff hs]
    refine ⟨OnlyAsked.asked, fun hs' => ⟨hs', fun hx hvalid hvalid' => ?_⟩⟩
    -- before and after, the option is what was asked for, which this request did not change
    have hiff : nodelay s'.options s'.self.m_socket = true ↔
        nodelay s.options s.self.m_socket = true := by
      rw [hs' hvalid', hs hvalid, h.disabled_eq hx]
    exact Bool.eq_iff_iff.mpr hiff
  · -- a new object has no descriptor
    intro hvalid
    exact absurd rfl (isSocketValid_iff.mp hvalid)

/-! ### A listener -/

/-- The kernel gives out the number 3 and does what it is asked for. -/
def willing : Os := .idle {
  socket := [.ok 3], setsockopt := [.ok (), .ok ()], bind := [.ok ()], listen := [.ok ()] }

/-- The state after an operation on a listener that succeeded. -/
def Delaying.then (s : Delaying) (op : Op) : Delaying where
  self := (call (op.run .passive) s.self willing).state.self
  options := sockOptions.after s.options (call (op.run .passive) s.self willing).state.trace
  disabled := Request.disabled (.bool true) s.disabled (.method op)

theorem Delaying.then_step {s : Delaying} {op : Op} (has : op.ofClass .passive = true)
    (hrun : call (op.run .passive) s.self willing =
      .done (.bool true) (call (op.run .passive) s.self willing).state)
    (served : ∀ e ∈ (call (op.run .passive) s.self willing).state.trace, e.Served) :
    NagleStep .passive s ⟨.method op, willing⟩ (s.then op) := .returned has hrun served

/-- A new listener. -/
def newListener : Delaying := ⟨.construct .zeroed .socketTypeTcp, fun _ _ => .int 0, false⟩

def Delaying.initialized : Delaying := newListener.then .initializeSocket

def Delaying.prompt : Delaying := Delaying.initialized.then .disableNagleAlgoritm

/-- It is initialized. -/
def initializing : Taken Delaying Served :=
  ⟨newListener, ⟨.method .initializeSocket, willing⟩, Delaying.initialized⟩

/-- Nagle's algorithm is disabled before it listens. -/
def listeningPromptly : List (Taken Delaying Served) :=
  [initializing, ⟨Delaying.initialized, ⟨.method .disableNagleAlgoritm, willing⟩, Delaying.prompt⟩,
    ⟨Delaying.prompt, ⟨.method (.listen none 80 5), willing⟩, Delaying.prompt.then (.listen none 80 5)⟩]

/-- It listens right away. -/
def listening : List (Taken Delaying Served) :=
  [initializing, ⟨Delaying.initialized, ⟨.method (.listen none 80 5), willing⟩,
    Delaying.initialized.then (.listen none 80 5)⟩]

theorem step_initializing : NagleStep .passive newListener ⟨.method .initializeSocket, willing⟩
    Delaying.initialized := by
  refine Delaying.then_step rfl rfl ?_
  show ∀ e ∈ [Event.socket 2 1 (.ok 3)], e.Served
  simp [Event.Served]

/-- The calls of its `Listen`. -/
theorem served_listening : ∀ e ∈ ([.setsockopt 3 1 2 (.int 16) (.ok ()),
    .setsockopt 3 6 1 (.int 16) (.ok ()), .bind 3 ⟨2, htons 80, htonl INADDR_ANY⟩ (.ok ()),
    .listen 3 5 (.ok ())] : Trace), e.Served := by
  simp [Event.Served]

/-- The setting of a listener that asked for it first is right throughout. -/
theorem onlyAsked_listeningPromptly :
    Run (NagleStep .passive) newListener listeningPromptly
        (Delaying.prompt.then (.listen none 80 5)) ∧
      ∀ x ∈ listeningPromptly, OnlyAsked x.pre x.label x.post := by
  have hrun : Run (NagleStep .passive) newListener listeningPromptly
      (Delaying.prompt.then (.listen none 80 5)) := by
    refine .cons step_initializing (.cons ?_ (.cons ?_ (.nil _)))
    · refine Delaying.then_step rfl rfl ?_
      show ∀ e ∈ [Event.setsockopt 3 6 1 (.int 1) (.ok ())], e.Served
      simp [Event.Served]
    · exact Delaying.then_step rfl rfl served_listening
  refine ⟨hrun, (onlyAsked_iff hrun).mpr fun x hx => ?_⟩
  rintro ⟨pAddr, nPort, backlog, hreq, -, hd, -⟩
  simp only [listeningPromptly, List.mem_cons, List.not_mem_nil, or_false] at hx
  rcases hx with rfl | rfl | rfl
  · cases hreq
  · cases hreq
  · cases hd

/-- After `Listen` the option is on, and nothing has asked for it. -/
theorem not_onlyAsked_listening :
    Run (NagleStep .passive) newListener listening
        (Delaying.initialized.then (.listen none 80 5)) ∧
      ¬ ∀ x ∈ listening, OnlyAsked x.pre x.label x.post := by
  refine ⟨.cons step_initializing (.cons ?_ (.nil _)), fun h => ?_⟩
  · exact Delaying.then_step rfl rfl served_listening
  · have hlast := (h _ (List.mem_cons_of_mem _ (List.mem_singleton_self _))).asked rfl
    exact absurd (hlast.mp rfl) Bool.false_ne_true

end ClSocket
