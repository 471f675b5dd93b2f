import ClSocket.Connect.Accepting

/-!
# What calls an object makes

A `Licence` says what an object may touch: the descriptors it owns, the kind of socket it is, and
whether it may move data. `Licence.Allows` says of a call whether the licence covers it. An object
is `Held` by the licence when its members agree with it, and `Conduct` is the rule the methods
keep: an object held by the licence makes only calls that the licence covers, is held by it
afterwards, and finds `EINTR` in `errno` only when a call has put it there.

`conduct_run` states it of every operation but two. `Initialize` replaces the descriptor, and what it
does is told apart (`wp_initializeSocket_conduct`). `SendFile` works on descriptors it is handed,
whatever the object is.
-/

namespace ClSocket

open Prog CSimpleSocket

/-! ### Calls -/

/-- The call left `EINTR` in `errno`; `Select` stores the pending error of the socket there. -/
def Event.interrupts : Event → Bool
  | .socket _ _ res | .sendto _ _ _ res | .send _ _ res | .writev _ _ res => res.interrupted
  | .close _ res | .bind _ _ res | .listen _ _ res | .connect _ _ res => res.interrupted
  | .setsockopt _ _ _ _ res | .setfl _ _ res | .shutdown _ _ res | .lseek _ _ res => res.interrupted
  | .getpeername _ res | .getsockname _ res => res.interrupted
  | .recv _ _ _ _ res | .read _ _ res => res.interrupted
  | .accept _ res => res.interrupted
  | .recvfrom _ _ res => res.interrupted
  | .select _ _ _ _ _ res => res.interrupted
  | .getfl _ res => res.interrupted
  | .getsockopt _ _ _ _ (.ok v) => v == EINTR
  | .getsockopt _ _ _ _ (.fail e) => e.1 == EINTR
  | .gethostbyname _ (.failed _ e) => e == EINTR
  | _ => false

/-- The codes the library sets on Linux. -/
def CSocketError.reported : CSocketError → Bool
  | .socketError | .socketInvalidPointer => false
  | _ => true

/-- The translation of `errno` is one of them. -/
@[simp] theorem reported_translateErrno (e : Int) : (translateErrno e).reported = true := by
  unfold translateErrno
  cases h : errnoTable.lookup e with
  | none => rfl
  | some c =>
    obtain ⟨l₁, l₂, htable, -⟩ := List.lookup_eq_some_iff.mp h
    have hall : ∀ p ∈ errnoTable, p.2.reported = true := by decide
    exact hall (e, c) (by rw [htable]; simp)

/-- What an object may touch. -/
structure Licence where
  owns : Int → Prop
  /-- The descriptor of a closed object is nobody's. -/
  invalid : owns (-1)
  nType : CSocketType
  nDomain : Int
  /-- Data may be moved. -/
  moves : Bool

namespace Licence

/-- The calls a licence covers. -/
def Allows (l : Licence) : Event → Prop
  | .socket domain type _ => domain = l.nDomain ∧ type = l.nType.code
  | .close fd _ | .bind fd _ _ | .getpeername fd _ | .getsockname fd _ => l.owns fd
  | .setsockopt fd _ _ _ _ | .getsockopt fd _ _ _ _ | .getfl fd _ | .setfl fd _ _ => l.owns fd
  | .shutdown fd _ _ => l.owns fd
  | .select _ readFds writeFds errorFds _ _ => ∀ fd ∈ readFds ∪ writeFds ∪ errorFds, l.owns fd
  | .listen fd _ _ | .accept fd _ => l.owns fd ∧ l.nType = .socketTypeTcp
  | .connect fd _ _ =>
    l.owns fd ∧ (l.nType = .socketTypeTcp ∨ l.nType = .socketTypeUdp)
  | .send fd _ _ => l.owns fd ∧ l.nType = .socketTypeTcp ∧ l.moves = true
  | .recv fd _ _ flags _ =>
    l.owns fd ∧ l.nType = .socketTypeTcp ∧ l.moves = true ∧ flags = 0
  | .sendto fd _ _ _ | .recvfrom fd _ _ =>
    l.owns fd ∧ l.nType = .socketTypeUdp ∧ l.moves = true
  | .writev fd _ _ => l.owns fd ∧ l.moves = true
  | .lseek _ _ _ | .read _ _ _ => False
  | .gethostbyname _ _ | .alloc _ _ | .free _ => True

/-- The object's members agree with the licence. -/
structure Held (l : Licence) (o : CSimpleSocket) : Prop where
  owned : l.owns o.m_socket
  type : o.m_nSocketType = l.nType
  domain : o.m_nSocketDomain = l.nDomain
  flags : o.m_nFlags = 0
  code : o.m_socketErrno.reported = true

end Licence

/-- Calls were added to the trace, all of them covered, and `EINTR` is accounted for. -/
def Made (l : Licence) (s t : State) : Prop :=
  ∃ calls, t.trace = s.trace ++ calls ∧ (∀ e ∈ calls, l.Allows e) ∧
    (t.os.errno = EINTR → s.os.errno = EINTR ∨ ∃ e ∈ calls, e.interrupts = true)

/-- **The rule of conduct.** -/
def Conduct (l : Licence) (s t : State) : Prop := l.Held s.self → l.Held t.self ∧ Made l s t

section

variable {l : Licence}

theorem Made.refl (s : State) : Made l s s := ⟨[], by simp, by simp, Or.inl⟩

theorem Made.trans {s t u : State} (h₁ : Made l s t) (h₂ : Made l t u) : Made l s u := by
  obtain ⟨calls, ht, hall, herrno⟩ := h₁
  obtain ⟨calls', hu, hall', herrno'⟩ := h₂
  refine ⟨calls ++ calls', by rw [hu, ht, List.append_assoc], fun e he => ?_, fun hintr => ?_⟩
  · exact (List.mem_append.mp he).elim (hall e) (hall' e)
  · rcases herrno' hintr with ht' | ⟨e, he, hi⟩
    · rcases herrno ht' with hs | ⟨e, he, hi⟩
      · exact Or.inl hs
      · exact Or.inr ⟨e, List.mem_append_left _ he, hi⟩
    · exact Or.inr ⟨e, List.mem_append_right _ he, hi⟩

instance : Std.Refl (Conduct l) := ⟨fun s h => ⟨h, Made.refl s⟩⟩

instance : IsTrans State (Conduct l) := ⟨fun _ _ _ h₁ h₂ hs =>
  ⟨(h₂ (h₁ hs).1).1, (h₁ hs).2.trans (h₂ (h₁ hs).1).2⟩⟩

/-! ### Steps -/

/-- What follows on reading the object may rely on its being held. -/
theorem conduct_this {α : Type} {f : CSimpleSocket → M α}
    (hf : ∀ o, l.Held o → Keeps (Conduct l) (f o)) : Keeps (Conduct l) (this >>= f) := by
  intro s
  rw [wp_bind, wp_this]
  by_cases hs : l.Held s.self
  · exact hf s.self hs s
  · exact wp_mono (fun _ _ _ h => absurd h hs) (fun _ _ _ h => absurd h hs) (wp_trivial (f s.self) s)

theorem conduct_assign {f : CSimpleSocket → CSimpleSocket} (hf : ∀ o, l.Held o → l.Held (f o)) :
    Keeps (Conduct l) (assign f) :=
  fun s hs => ⟨hf s.self hs, [], by simp, by simp, Or.inl⟩

theorem conduct_issue {α : Type} {queue : Script → List (Answer α)}
    {put : List (Answer α) → Script → Script} {ev : Answer α → Event} (hall : ∀ a, l.Allows (ev a))
    (hintr : ∀ a : Answer α, a.interrupted = true → (ev a).interrupts = true) :
    Keeps (Conduct l) (issue queue put ev) := by
  intro s
  rw [wp_issue_iff]
  refine ⟨fun _ hs => ⟨hs, Made.refl s⟩, fun a rest _ hs => ⟨hs, [ev a], rfl, ?_, fun he => ?_⟩⟩
  · rw [List.forall_mem_singleton]
    exact hall a
  · cases a with
    | ok a => exact Or.inl he
    | fail e => exact Or.inr ⟨_, List.mem_singleton_self _, hintr _ (beq_iff_eq.mpr he)⟩

theorem conduct_setErrno {e : Int} (he : e ≠ EINTR) : Keeps (Conduct l) (setErrno e) :=
  fun _ hs => ⟨hs, [], by simp, by simp, fun h => absurd h he⟩

theorem conduct_setSocketError {error : CSocketError} (h : error.reported = true) :
    Keeps (Conduct l) (setSocketError error) :=
  conduct_assign fun _ ho => ⟨ho.owned, ho.type, ho.domain, ho.flags, h⟩

theorem conduct_translateSocketError : Keeps (Conduct l) translateSocketError := fun s hs =>
  ⟨⟨hs.owned, hs.type, hs.domain, hs.flags, reported_translateErrno _⟩, [], by simp, by simp, Or.inl⟩

theorem conduct_timerInitialize : Keeps (Conduct l) timerInitialize :=
  conduct_assign fun _ ho => ⟨ho.owned, ho.type, ho.domain, ho.flags, ho.code⟩

theorem conduct_setStartTime : Keeps (Conduct l) setStartTime := fun _ hs =>
  ⟨⟨hs.owned, hs.type, hs.domain, hs.flags, hs.code⟩, [], by simp, by simp, Or.inl⟩

theorem conduct_setEndTime : Keeps (Conduct l) setEndTime := fun _ hs =>
  ⟨⟨hs.owned, hs.type, hs.domain, hs.flags, hs.code⟩, [], by simp, by simp, Or.inl⟩

theorem conduct_deleteBuffer : Keeps (Conduct l) deleteBuffer := by
  refine fun s hs => ⟨⟨hs.owned, hs.type, hs.domain, hs.flags, hs.code⟩, _, rfl, ?_, Or.inl⟩
  intro e he
  obtain ⟨b, -, rfl⟩ := List.mem_map.mp he
  trivial

/-- An option call on the object's descriptor. -/
theorem conduct_setsockopt {o : CSimpleSocket} (ho : l.Held o) (level name : Int) (value : OptVal) :
    Keeps (Conduct l) (sysSetsockopt o.m_socket level name value) :=
  conduct_issue (fun _ => ho.owned) fun _ h => h

theorem conduct_getsockopt {o : CSimpleSocket} (ho : l.Held o) (level name : Int)
    (optlen : Option ℕ) : Keeps (Conduct l) (sysGetsockopt o.m_socket level name optlen) := by
  refine conduct_issue (fun _ => ho.owned) fun a h => ?_
  cases a with
  | ok v => cases h
  | fail e => exact h

/-- What several methods do after a failed call. -/
theorem conduct_translating {α : Type} (a : α) :
    Keeps (Conduct l) (do
      translateSocketError
      return a : M α) :=
  keeps_bind conduct_translateSocketError fun _ => keeps_pure a

/-! ### Options and readiness -/

theorem conduct_shutdown (how : CShutdownMode) : Keeps (Conduct l) (shutdown how) :=
  conduct_this fun _ ho => keeps_bind (conduct_issue (fun _ => ho.owned) fun _ h => h) fun _ =>
    conduct_translating _

theorem conduct_setOption (level name : Int) (value : OptVal) :
    Keeps (Conduct l) (setOption level name value) :=
  conduct_this fun _ ho => keeps_bind (conduct_setsockopt ho _ _ _) fun _ => conduct_translating _

theorem conduct_setOptionLinger (bEnable : Bool) (nTime : UInt16) :
    Keeps (Conduct l) (setOptionLinger bEnable nTime) :=
  keeps_bind (conduct_assign fun _ ho => ⟨ho.owned, ho.type, ho.domain, ho.flags, ho.code⟩) fun _ =>
    conduct_setOption _ _ _

theorem conduct_setTimeoutOption (name : Int) (t : Timeval) :
    Keeps (Conduct l) (setTimeoutOption name t) := by
  refine conduct_this fun _ ho => keeps_bind (conduct_setsockopt ho _ _ _) fun res => ?_
  cases res with
  | ok _ => exact keeps_pure _
  | fail _ => exact conduct_translating _

theorem conduct_setReceiveTimeout (sec usec : Int) : Keeps (Conduct l) (setReceiveTimeout sec usec) :=
  keeps_bind (conduct_assign fun _ ho => ⟨ho.owned, ho.type, ho.domain, ho.flags, ho.code⟩) fun _ =>
    conduct_setTimeoutOption _ _

theorem conduct_setSendTimeout (sec usec : Int) : Keeps (Conduct l) (setSendTimeout sec usec) :=
  keeps_bind (conduct_assign fun _ ho => ⟨ho.owned, ho.type, ho.domain, ho.flags, ho.code⟩) fun _ =>
    conduct_setTimeoutOption _ _

theorem conduct_setConnectTimeout (sec usec : Int) : Keeps (Conduct l) (setConnectTimeout sec usec) :=
  conduct_assign fun _ ho => ⟨ho.owned, ho.type, ho.domain, ho.flags, ho.code⟩

/-- A refusal with a code of its own. -/
theorem conduct_refusing {α : Type} {error : CSocketError} (h : error.reported = true) (a : α) :
    Keeps (Conduct l) (do
      setSocketError error
      return a : M α) :=
  keeps_bind (conduct_setSocketError h) fun _ => keeps_pure a

theorem conduct_inetAddr (cp : String) : Keeps (Conduct l) (inetAddr cp) := fun s hs =>
  ⟨hs, Made.refl s⟩

theorem conduct_bindInterface (pInterface : Option String) :
    Keeps (Conduct l) (bindInterface pInterface) := by
  refine conduct_this fun o ho => keeps_ite ?_ (conduct_refusing rfl _)
  cases pInterface with
  | none => exact keeps_pure _
  | some iface =>
    exact keeps_bind (conduct_inetAddr iface) fun _ =>
      keeps_bind (conduct_setsockopt ho _ _ _) fun _ => keeps_pure _

theorem conduct_setMulticast (bEnable : Bool) (multicastTTL : UInt8) :
    Keeps (Conduct l) (setMulticast bEnable multicastTTL) := by
  refine conduct_this fun o ho => keeps_ite (keeps_bind (conduct_assign fun _ ho =>
    ⟨ho.owned, ho.type, ho.domain, ho.flags, ho.code⟩) fun _ =>
      keeps_bind (conduct_setsockopt ho _ _ _) fun res => ?_) (conduct_refusing rfl _)
  cases res with
  | ok _ => exact keeps_pure _
  | fail _ => exact conduct_translating _

theorem conduct_setSocketDscp (nDscp : Int) : Keeps (Conduct l) (setSocketDscp nDscp) := by
  refine conduct_this fun o ho => keeps_ite (keeps_bind (conduct_setsockopt ho _ _ _) fun res => ?_)
    (keeps_pure _)
  cases res with
  | ok _ => exact keeps_pure _
  | fail _ => exact conduct_translating _

theorem conduct_getSocketDscp : Keeps (Conduct l) getSocketDscp := by
  refine conduct_this fun o ho => keeps_ite (keeps_bind (keeps_bind (conduct_getsockopt ho _ _ _)
    fun res => ?_) fun _ => keeps_pure _) (keeps_pure _)
  cases res with
  | ok _ => exact keeps_pure _
  | fail _ => exact conduct_translating _

theorem conduct_getWindowSize (nOptionName : Int) : Keeps (Conduct l) (getWindowSize nOptionName) := by
  refine conduct_this fun o ho => keeps_ite (keeps_bind (conduct_getsockopt ho _ _ _) fun res =>
    keeps_bind conduct_translateSocketError fun _ => ?_) (conduct_refusing rfl _)
  cases res with
  | ok _ => exact keeps_pure _
  | fail _ => exact keeps_pure _

theorem conduct_setWindowSize (nOptionName nWindowSize : Int) :
    Keeps (Conduct l) (setWindowSize nOptionName nWindowSize) :=
  conduct_this fun _ ho => keeps_ite (keeps_bind (conduct_setsockopt ho _ _ _) fun _ =>
    conduct_translating _) (conduct_refusing rfl _)

theorem conduct_setFlags (change : UInt32 → UInt32) (blocking : Bool) :
    Keeps (Conduct l) (setFlags change blocking) := by
  refine conduct_this fun o ho => keeps_bind (conduct_issue (fun _ => ho.owned) fun _ h => h)
    fun res => ?_
  cases res with
  | fail _ => exact conduct_translating _
  | ok nCurFlags =>
    refine keeps_bind (conduct_issue (fun _ => ho.owned) fun _ h => h) fun res => ?_
    cases res with
    | fail _ => exact conduct_translating _
    | ok _ =>
      exact keeps_bind (conduct_assign fun _ ho =>
        ⟨ho.owned, ho.type, ho.domain, ho.flags, ho.code⟩) fun _ => keeps_pure _

/-- The descriptor is the one in the sets. -/
theorem conduct_selectSets (timeout : Option Timeval) : Keeps (Conduct l) (selectSets timeout) := by
  intro s
  rw [selectSets, wp_bind, wp_fillSets]
  refine ⟨fun _ => ?_, fun _ hs => ⟨hs, Made.refl s⟩⟩
  rw [wp_bind, wp_this, wp_bind, sysSelect, wp_issue_iff]
  refine ⟨fun _ hs => ⟨⟨hs.owned, hs.type, hs.domain, hs.flags, hs.code⟩, [], by simp, by simp,
    Or.inl⟩, fun res rest _ => ?_⟩
  -- the three sets hold the object's own descriptor, and nothing else
  have hallowed : l.Held s.self → ∀ e ∈ [Event.select (s.self.m_socket + 1) {s.self.m_socket}
      {s.self.m_socket} {s.self.m_socket} timeout res], l.Allows e := by
    intro hs
    rw [List.forall_mem_singleton]
    intro fd hfd
    obtain rfl : fd = s.self.m_socket := by simpa using hfd
    exact hs.owned
  cases res with
  | ok r =>
    exact fun hs => ⟨⟨hs.owned, hs.type, hs.domain, hs.flags, hs.code⟩, _, rfl, hallowed hs, Or.inl⟩
  | fail e =>
    exact fun hs => ⟨⟨hs.owned, hs.type, hs.domain, hs.flags, hs.code⟩, _, rfl, hallowed hs,
      fun he => Or.inr ⟨_, List.mem_singleton_self _, beq_iff_eq.mpr he⟩⟩

/-- The pending error `Select` asks for goes to `errno`, with `EINTR` as the call tells of it. -/
theorem conduct_pendingError {o : CSimpleSocket} (ho : l.Held o) :
    Keeps (Conduct l) (do
      match ← sysGetsockopt o.m_socket SOL_SOCKET SO_ERROR (some 4) with
      | .ok nError =>
        setErrno nError
        translateSocketError
        return nError = 0
      | .fail _ =>
        translateSocketError
        return false : M Bool) := by
  intro s
  rw [wp_bind, sysGetsockopt, wp_issue_iff]
  refine ⟨fun _ hs => ⟨hs, Made.refl s⟩, fun res rest _ => ?_⟩
  cases res with
  | ok nError =>
    intro hs
    refine ⟨⟨hs.owned, hs.type, hs.domain, hs.flags, reported_translateErrno _⟩, _, rfl, ?_,
      fun he => Or.inr ⟨_, List.mem_singleton_self _, beq_iff_eq.mpr he⟩⟩
    rw [List.forall_mem_singleton]
    exact ho.owned
  | fail e =>
    intro hs
    refine ⟨⟨hs.owned, hs.type, hs.domain, hs.flags, reported_translateErrno _⟩, _, rfl, ?_,
      fun he => Or.inr ⟨_, List.mem_singleton_self _, beq_iff_eq.mpr he⟩⟩
    rw [List.forall_mem_singleton]
    exact ho.owned

theorem conduct_select (nTimeoutSec nTimeoutUSec : Int) :
    Keeps (Conduct l) (select nTimeoutSec nTimeoutUSec) :=
  keeps_bind (conduct_selectSets _) fun _ => conduct_this fun _ ho =>
    keeps_ite (conduct_refusing rfl _) (keeps_ite (conduct_pendingError ho) (keeps_pure _))

/-! ### Moving data -/

theorem conduct_sendTimed (queue : Script → List (Answer ℕ)) {round : M Unit}
    (hround : Keeps (Conduct l) round) : Keeps (Conduct l) (sendTimed queue round) :=
  keeps_bind conduct_timerInitialize fun _ => keeps_bind conduct_setStartTime fun _ =>
    keeps_bind keeps_script fun _ => keeps_bind
      (keeps_whileInterrupted (fun _ => hround) conduct_translateSocketError _ _) fun _ =>
        conduct_setEndTime

/-- The count is stored. -/
theorem conduct_bytesSent (n : Int) :
    Keeps (Conduct l) (assign fun o => { o with m_nBytesSent := n }) :=
  conduct_assign fun _ ho => ⟨ho.owned, ho.type, ho.domain, ho.flags, ho.code⟩

theorem conduct_deliver (pBuffer : Option Bytes) (offset : Int) (bs : Bytes) :
    Keeps (Conduct l) (deliver pBuffer offset bs) :=
  keeps_bind (keeps_ite (conduct_assign fun _ ho => ⟨ho.owned, ho.type, ho.domain, ho.flags, ho.code⟩)
    (keeps_pure _)) fun _ => keeps_pure _

theorem conduct_provideBuffer (nMaxBytes : Int) : Keeps (Conduct l) (provideBuffer nMaxBytes) := by
  have hnew : Keeps (Conduct l) (newBytes nMaxBytes) := by
    intro s
    rw [wp_newBytes]
    exact ⟨fun _ hs => ⟨hs, Made.refl s⟩, fun _ hs => ⟨⟨hs.owned, hs.type, hs.domain, hs.flags, hs.code⟩,
      _, rfl, by simp [Licence.Allows], Or.inl⟩⟩
  exact keeps_bind keeps_this fun _ => keeps_bind (keeps_ite conduct_deleteBuffer (keeps_pure _))
    fun _ => keeps_bind keeps_this fun _ => keeps_ite (keeps_bind
      (conduct_assign fun _ ho => ⟨ho.owned, ho.type, ho.domain, ho.flags, ho.code⟩) fun _ =>
        keeps_bind hnew fun _ => conduct_assign fun _ ho =>
          ⟨ho.owned, ho.type, ho.domain, ho.flags, ho.code⟩) (keeps_pure _)

section Moving

variable (hmoves : l.moves = true)

include hmoves

theorem conduct_send (pBuf : Option Bytes) (bytesToSend : ℕ) :
    Keeps (Conduct l) (CSimpleSocket.send pBuf bytesToSend) := by
  have hstream : ∀ data, l.nType = .socketTypeTcp → Keeps (Conduct l) (sendRound data) :=
    fun _ htcp => conduct_this fun _ ho => keeps_bind
      (conduct_issue (fun _ => ⟨ho.owned, htcp, hmoves⟩) fun _ h => h) fun _ => conduct_bytesSent _
  have hdatagram : ∀ data, l.nType = .socketTypeUdp → Keeps (Conduct l) (sendtoRound data) :=
    fun _ hudp => conduct_this fun _ ho => keeps_bind
      (conduct_issue (fun _ => ⟨ho.owned, hudp, hmoves⟩) fun _ h => h) fun _ => conduct_bytesSent _
  refine keeps_bind (conduct_setSocketError rfl) fun _ => keeps_bind (conduct_bytesSent _) fun _ =>
    conduct_this fun o ho => keeps_bind ?_ fun _ => keeps_bind keeps_this fun _ => keeps_pure _
  -- the type that is switched on is that of the licence
  by_cases htcp : o.m_nSocketType = .socketTypeTcp
  · rw [if_pos htcp]
    exact keeps_ite (conduct_sendTimed _ (hstream _ (ho.type.symm.trans htcp))) (keeps_pure _)
  · rw [if_neg htcp]
    by_cases hudp : o.m_nSocketType = .socketTypeUdp
    · rw [if_pos hudp]
      exact keeps_ite (conduct_sendTimed _ (hdatagram _ (ho.type.symm.trans hudp)))
        (keeps_pure _)
    · rw [if_neg hudp]
      exact keeps_pure _

theorem conduct_sendVector (items : List Iovec) : Keeps (Conduct l) (sendVector items) :=
  keeps_bind (conduct_setSocketError rfl) fun _ => keeps_bind (conduct_bytesSent _) fun _ =>
    conduct_this fun _ ho => keeps_bind (conduct_issue (fun _ => ⟨ho.owned, hmoves⟩) fun _ h => h)
      fun _ => keeps_bind (conduct_bytesSent _) fun _ =>
        keeps_bind (keeps_ite conduct_translateSocketError (keeps_pure _)) fun _ =>
          keeps_bind keeps_this fun _ => keeps_pure _

theorem conduct_passiveSend (pBuf : Option Bytes) (bytesToSend : ℕ) :
    Keeps (Conduct l) (CPassiveSocket.send pBuf bytesToSend) := by
  have hclient : ∀ data, l.nType = .socketTypeUdp →
      Keeps (Conduct l) (CPassiveSocket.sendtoClient data) := fun _ hudp =>
    keeps_bind conduct_timerInitialize fun _ => keeps_bind conduct_setStartTime fun _ =>
      conduct_this fun _ ho => keeps_bind
        (conduct_issue (fun _ => ⟨ho.owned, hudp, hmoves⟩) fun _ h => h) fun _ =>
          keeps_bind (conduct_bytesSent _) fun _ => keeps_bind conduct_setEndTime fun _ =>
            keeps_ite conduct_translateSocketError (keeps_pure _)
  refine keeps_bind (conduct_setSocketError rfl) fun _ => keeps_bind (conduct_bytesSent _) fun _ =>
    conduct_this fun o ho => keeps_bind ?_ fun _ => keeps_bind keeps_this fun _ => keeps_pure _
  by_cases hudp : o.m_nSocketType = .socketTypeUdp
  · rw [if_pos hudp]
    exact keeps_ite (hclient _ (ho.type.symm.trans hudp)) (keeps_pure _)
  · rw [if_neg hudp]
    exact keeps_ite (keeps_bind (conduct_send hmoves _ _) fun _ => keeps_pure _)
      (conduct_setSocketError rfl)

theorem conduct_virtualSend (cls : SocketClass) (pBuf : Option Bytes) (bytesToSend : ℕ) :
    Keeps (Conduct l) (virtualSend cls pBuf bytesToSend) := by
  cases cls with
  | passive => exact conduct_passiveSend hmoves _ _
  | simple => exact conduct_send hmoves _ _
  | active => exact conduct_send hmoves _ _

theorem conduct_recvRound (htcp : l.nType = .socketTypeTcp) (nMaxBytes : Int) (pBuffer : Option Bytes) :
    Keeps (Conduct l) (recvRound nMaxBytes pBuffer) := by
  refine conduct_this fun o ho => keeps_bind
    (conduct_issue (fun _ => ⟨ho.owned, htcp, hmoves, ho.flags⟩) fun _ h => h) fun res => keeps_bind
      (conduct_assign fun _ ho => ⟨ho.owned, ho.type, ho.domain, ho.flags, ho.code⟩) fun _ => ?_
  cases res with
  | ok bs => exact conduct_deliver _ _ _
  | fail _ => exact keeps_pure _

theorem conduct_recvfromRound (hudp : l.nType = .socketTypeUdp) (nMaxBytes : Int)
    (pBuffer : Option Bytes) : Keeps (Conduct l) (recvfromRound nMaxBytes pBuffer) := by
  refine conduct_this fun o ho => keeps_bind
    (conduct_issue (fun _ => ⟨ho.owned, hudp, hmoves⟩) fun _ h => h) fun res => keeps_bind
      (conduct_assign fun _ ho => ⟨ho.owned, ho.type, ho.domain, ho.flags, ho.code⟩) fun _ => ?_
  cases res with
  | ok d =>
    refine keeps_bind (conduct_assign fun o ho => ?_) fun _ => conduct_deliver _ _ _
    split
    · exact ⟨ho.owned, ho.type, ho.domain, ho.flags, ho.code⟩
    · exact ⟨ho.owned, ho.type, ho.domain, ho.flags, ho.code⟩
  | fail _ => exact keeps_pure _

theorem conduct_receiveLoop (nMaxBytes : Int) (pBuffer : Option Bytes) :
    Keeps (Conduct l) (receiveLoop nMaxBytes pBuffer) := by
  refine conduct_this fun o ho => keeps_bind keeps_script fun sc => ?_
  by_cases htcp : o.m_nSocketType = .socketTypeTcp
  · rw [if_pos htcp]
    exact keeps_whileInterrupted (conduct_recvRound hmoves (ho.type.symm.trans htcp) nMaxBytes)
      conduct_translateSocketError _ _
  · rw [if_neg htcp]
    by_cases hudp : o.m_nSocketType = .socketTypeUdp
    · rw [if_pos hudp]
      exact keeps_whileInterrupted (conduct_recvfromRound hmoves (ho.type.symm.trans hudp) nMaxBytes)
        conduct_translateSocketError _ _
    · rw [if_neg hudp]
      exact keeps_pure _

theorem conduct_receive (nMaxBytes : Int) (pBuffer : Option Bytes) :
    Keeps (Conduct l) (receive nMaxBytes pBuffer) :=
  keeps_bind (conduct_assign fun _ ho => ⟨ho.owned, ho.type, ho.domain, ho.flags, ho.code⟩) fun _ =>
    keeps_bind keeps_this fun _ => keeps_ite (keeps_pure _) <|
      keeps_bind (keeps_ite (conduct_provideBuffer nMaxBytes) (keeps_pure _)) fun _ =>
        keeps_bind (conduct_setSocketError rfl) fun _ => keeps_bind conduct_timerInitialize fun _ =>
          keeps_bind conduct_setStartTime fun _ =>
            keeps_bind (conduct_receiveLoop hmoves nMaxBytes pBuffer) fun _ =>
              keeps_bind conduct_setEndTime fun _ => keeps_bind conduct_translateSocketError fun _ =>
                keeps_bind keeps_this fun _ =>
                  keeps_bind (keeps_ite conduct_deleteBuffer (keeps_pure _)) fun _ => keeps_pure _

end Moving

/-! ### Closing and binding -/

theorem conduct_closeSocket : Keeps (Conduct l) closeSocket := by
  have hhandle : Keeps (Conduct l) closeHandle := by
    refine conduct_this fun o ho => keeps_bind (conduct_issue (fun _ => ho.owned) fun _ h => h)
      fun res => ?_
    cases res with
    | ok _ =>
      exact keeps_bind (conduct_assign fun _ ho =>
        ⟨l.invalid, ho.type, ho.domain, ho.flags, ho.code⟩) fun _ => keeps_pure _
    | fail _ => exact keeps_pure _
  exact keeps_bind conduct_deleteBuffer fun _ => keeps_bind keeps_this fun _ =>
    keeps_bind (keeps_ite hhandle (keeps_pure _)) fun _ => conduct_translating _

/-- The code that is put back is that of an object that was held. -/
theorem conduct_closeKeepingError : Keeps (Conduct l) CPassiveSocket.closeKeepingError :=
  conduct_this fun _ ho => keeps_bind conduct_closeSocket fun _ => conduct_setSocketError ho.code

theorem conduct_bindAddress (pAddr : Option String) :
    Keeps (Conduct l) (CPassiveSocket.bindAddress pAddr) := fun s =>
  (CPassiveSocket.wp_bindAddress pAddr).mpr fun hs => ⟨hs, Made.refl s⟩

theorem conduct_bindMulticast (pInterface : Option String) (pGroup : String) (nPort : UInt16) :
    Keeps (Conduct l) (CPassiveSocket.bindMulticast pInterface pGroup nPort) := by
  have hjoin : Keeps (Conduct l) (CPassiveSocket.joinGroup pGroup) :=
    keeps_bind (conduct_inetAddr pGroup) fun _ => conduct_this fun _ ho =>
      keeps_bind (conduct_setsockopt ho _ _ _) fun _ =>
        keeps_bind conduct_setEndTime fun _ => keeps_pure _
  have hbind : Keeps (Conduct l) (CPassiveSocket.bindAndJoin pGroup) := by
    refine conduct_this fun o ho => keeps_bind (conduct_issue (fun _ => ho.owned) fun _ h => h)
      fun res => ?_
    cases res with
    | ok _ => exact hjoin
    | fail _ => exact keeps_pure _
  exact keeps_bind (conduct_bindAddress pInterface) fun _ => keeps_bind
    (conduct_assign fun _ ho => ⟨ho.owned, ho.type, ho.domain, ho.flags, ho.code⟩) fun _ =>
      keeps_bind hbind fun _ => keeps_bind conduct_timerInitialize fun _ =>
        keeps_bind conduct_setStartTime fun _ => keeps_bind conduct_translateSocketError fun _ =>
          keeps_bind (keeps_ite (keeps_bind conduct_closeSocket fun _ => keeps_pure _) (keeps_pure _))
            fun _ => keeps_pure _

theorem conduct_listen (pAddr : Option String) (nPort : UInt16) (nConnectionBacklog : Int) :
    Keeps (Conduct l) (CPassiveSocket.listen pAddr nPort nConnectionBacklog) := by
  have hoptions : Keeps (Conduct l) CPassiveSocket.listenOptions :=
    conduct_this fun _ ho => keeps_bind (conduct_setsockopt ho _ _ _) fun _ =>
      keeps_bind (conduct_setsockopt ho _ _ _) fun _ => keeps_pure _
  have hbind : Keeps (Conduct l) (CPassiveSocket.bindAndListen nConnectionBacklog) := by
    refine conduct_this fun o ho => keeps_bind (conduct_issue (fun _ => ho.owned) fun _ h => h)
      fun res => ?_
    cases res with
    | fail _ => exact keeps_pure _
    | ok _ =>
      dsimp only
      split
      -- `listen` is called on a stream only
      · rename_i htcp
        exact keeps_bind (conduct_issue (fun _ => ⟨ho.owned, ho.type.symm.trans htcp⟩) fun _ h => h)
          fun _ => keeps_pure _
      · exact keeps_pure _
  exact keeps_bind hoptions fun _ => keeps_bind (conduct_bindAddress pAddr) fun _ => keeps_bind
    (conduct_assign fun _ ho => ⟨ho.owned, ho.type, ho.domain, ho.flags, ho.code⟩) fun _ =>
      keeps_bind conduct_timerInitialize fun _ => keeps_bind conduct_setStartTime fun _ =>
        keeps_bind hbind fun _ => keeps_bind conduct_setEndTime fun _ =>
          keeps_bind conduct_translateSocketError fun _ =>
            keeps_bind (keeps_ite conduct_closeKeepingError (keeps_pure _)) fun _ => keeps_pure _

theorem conduct_destroy (cls : SocketClass) : Keeps (Conduct l) (destroy cls) :=
  keeps_bind (keeps_ite (keeps_bind conduct_closeSocket fun _ => keeps_pure _) (keeps_pure _))
    fun _ => conduct_deleteBuffer

/-! ### Connecting and accepting -/

section

open CActiveSocket

theorem conduct_resolve (pAddr : String) (nPort : UInt16) : Keeps (Conduct l) (resolve pAddr nPort) := by
  have hcall : Keeps (Conduct l) (sysGethostbyname pAddr) := by
    intro s
    rw [wp_sysGethostbyname]
    refine ⟨fun _ hs => ⟨hs, Made.refl s⟩, fun a _ _ hs => ⟨hs, _, rfl, ?_, Or.inl⟩,
      fun h e _ _ hs => ⟨hs, _, rfl, ?_, fun he => Or.inr ?_⟩⟩
    · simp [Licence.Allows]
    · simp [Licence.Allows]
    · exact ⟨_, List.mem_singleton_self _, beq_iff_eq.mpr he⟩
  refine keeps_bind (conduct_assign fun _ ho => ⟨ho.owned, ho.type, ho.domain, ho.flags, ho.code⟩)
    fun _ => keeps_bind hcall fun res => ?_
  cases res with
  | failed h_errno _ =>
    exact keeps_bind (keeps_ite (conduct_setSocketError rfl) (keeps_pure _)) fun _ => keeps_pure _
  | found s_addr =>
    exact keeps_bind (conduct_assign fun _ ho => ⟨ho.owned, ho.type, ho.domain, ho.flags, ho.code⟩)
      fun _ => keeps_ite (conduct_translating _) (keeps_bind (conduct_assign fun _ ho =>
        ⟨ho.owned, ho.type, ho.domain, ho.flags, ho.code⟩) fun _ => keeps_pure _)

theorem conduct_connectServer (htype : l.nType = .socketTypeTcp ∨ l.nType = .socketTypeUdp) :
    Keeps (Conduct l) connectServer :=
  keeps_bind conduct_timerInitialize fun _ => keeps_bind conduct_setStartTime fun _ =>
    conduct_this fun _ ho => conduct_issue (fun _ => ⟨ho.owned, htype⟩) fun _ h => h

theorem conduct_awaitTCP (res : Answer Unit) : Keeps (Conduct l) (awaitTCP res) := by
  refine keeps_bind conduct_translateSocketError fun _ => ?_
  cases res with
  | ok _ => exact keeps_pure _
  | fail _ => exact keeps_bind keeps_this fun _ => keeps_ite (conduct_select _ _) (keeps_pure _)

theorem conduct_storeEndpoints : Keeps (Conduct l) storeEndpoints := by
  have haddr : ∀ f : CSimpleSocket → CSimpleSocket, (∀ o, l.Held o → l.Held (f o)) →
      Keeps (Conduct l) (assign f) := fun _ => conduct_assign
  refine keeps_bind (haddr _ fun _ ho => ⟨ho.owned, ho.type, ho.domain, ho.flags, ho.code⟩) fun _ =>
    conduct_this fun o ho => keeps_bind (conduct_issue (fun _ => ho.owned) fun _ h => h) fun peer =>
      keeps_bind (haddr _ fun _ ho => ?peer) fun _ => keeps_bind
        (haddr _ fun _ ho => ⟨ho.owned, ho.type, ho.domain, ho.flags, ho.code⟩) fun _ => keeps_bind
          (conduct_issue (fun _ => ho.owned) fun _ h => h) fun name => keeps_bind
            (haddr _ fun _ ho => ?name) fun _ => conduct_setSocketError rfl
  case peer =>
    cases peer with
    | ok a => exact ⟨ho.owned, ho.type, ho.domain, ho.flags, ho.code⟩
    | fail _ => exact ho
  case name =>
    cases name with
    | ok a => exact ⟨ho.owned, ho.type, ho.domain, ho.flags, ho.code⟩
    | fail _ => exact ho

theorem conduct_openSocket (pAddr : Option String) (nPort : UInt16) :
    Keeps (Conduct l) (openSocket pAddr nPort) := by
  have htcp : ∀ addr, l.nType = .socketTypeTcp → Keeps (Conduct l) (connectTCP addr nPort) :=
    fun addr h => keeps_bind (conduct_resolve addr nPort) fun _ => keeps_ite
      (keeps_bind (conduct_connectServer (Or.inl h)) fun res => keeps_bind (conduct_awaitTCP res)
        fun _ => keeps_bind conduct_setEndTime fun _ => keeps_pure _) (keeps_pure _)
  have hudp : ∀ addr, l.nType = .socketTypeUdp → Keeps (Conduct l) (connectUDP addr nPort) :=
    fun addr h => keeps_bind (conduct_resolve addr nPort) fun _ => keeps_ite
      (keeps_bind (conduct_connectServer (Or.inr h)) fun _ =>
        keeps_bind conduct_translateSocketError fun _ => keeps_bind conduct_setEndTime fun _ =>
          keeps_pure _) (keeps_pure _)
  refine keeps_bind keeps_this fun _ => keeps_ite (conduct_refusing rfl _) ?_
  cases pAddr with
  | none => exact conduct_refusing rfl _
  | some addr =>
    refine keeps_ite (conduct_refusing rfl _) (keeps_bind (conduct_this fun o ho => ?_) fun _ =>
      keeps_bind (keeps_ite conduct_storeEndpoints (keeps_pure _)) fun _ => keeps_pure _)
    -- the type that decides how to connect is the one the licence is for
    by_cases hs : o.m_nSocketType = .socketTypeTcp
    · rw [if_pos hs]
      exact htcp addr (ho.type.symm.trans hs)
    · rw [if_neg hs]
      by_cases hd : o.m_nSocketType = .socketTypeUdp
      · rw [if_pos hd]
        exact hudp addr (ho.type.symm.trans hd)
      · rw [if_neg hd]
        exact keeps_pure _

end

section

open CPassiveSocket

theorem conduct_storeAccepted (client : CSimpleSocket) : Keeps (Conduct l) (storeAccepted client) := by
  refine conduct_this fun o ho => keeps_bind (conduct_issue (fun _ => ho.owned) fun _ h => h) fun _ =>
    keeps_bind (conduct_issue (fun _ => ho.owned) fun _ h => h) fun name => ?_
  cases name with
  | ok a => exact keeps_pure _
  | fail _ => exact keeps_pure _

theorem conduct_acceptRound (htcp : l.nType = .socketTypeTcp) (client : CSimpleSocket) :
    Keeps (Conduct l) (acceptRound client) := by
  have hgetErrno : Keeps (Conduct l) getErrno := fun s hs => ⟨hs, Made.refl s⟩
  refine keeps_bind (conduct_setErrno (by decide)) fun _ => conduct_this fun o ho => keeps_bind
    (conduct_issue (fun _ => ⟨ho.owned, htcp⟩) fun _ h => h) fun res => ?_
  cases res with
  | ok d =>
    exact keeps_bind (conduct_assign fun _ ho => ⟨ho.owned, ho.type, ho.domain, ho.flags, ho.code⟩)
      fun _ => keeps_bind hgetErrno fun _ => keeps_bind (conduct_storeAccepted _) fun _ =>
        keeps_ite (keeps_pure _) (keeps_pure _)
  | fail _ =>
    exact keeps_bind conduct_translateSocketError fun _ => keeps_bind keeps_this fun _ =>
      keeps_ite (keeps_pure _) (keeps_pure _)

/-- A client that is given up holds no descriptor, and is deleted without a call. -/
theorem conduct_accept (raw : CSimpleSocket) : Keeps (Conduct l) (accept raw) := by
  intro s
  rw [accept, wp_bind, wp_this, wp_ite]
  refine ⟨fun _ => conduct_refusing rfl none s, fun htcp => ?_⟩
  rw [not_not] at htcp
  by_cases hs : l.Held s.self
  · have hloop : Keeps (Conduct l) (iter .waiting acceptRound (s.os.script.accept.length + 1)
        (CSimpleSocket.construct raw .socketTypeTcp)) :=
      keeps_iter (conduct_acceptRound (hs.type.symm.trans htcp)) _ _
    simp only [wp_bind, wp_timerInitialize, wp_setStartTime, wp_script, wp_setEndTime, wp_ite, wp_pure]
    have hstart : Conduct l s (((s.upd fun o => { o with m_timer := .reset }).tick).upd fun o =>
        { o with m_timer := o.m_timer.started (s.os.clock s.os.ticks) s.os.ticks }) := fun hs =>
      ⟨⟨hs.owned, hs.type, hs.domain, hs.flags, hs.code⟩, [], by simp, by simp, Or.inl⟩
    refine wp_mono (fun r t h => ?_) (fun _ t h => IsTrans.trans _ _ _ hstart h.2)
      (wp_conj (wp_acceptLoop raw (s := s) ?listener ?trace _) (hloop _))
    case listener => exact ⟨rfl, rfl, rfl, rfl⟩
    case trace => rfl
    have hdone : Conduct l s (t.tick.upd fun o =>
        { o with m_timer := o.m_timer.ended (t.os.clock t.os.ticks) t.os.ticks }) :=
      IsTrans.trans _ _ _ (IsTrans.trans _ _ _ hstart h.2) fun ht =>
        ⟨⟨ht.owned, ht.type, ht.domain, ht.flags, ht.code⟩, [], by simp, by simp, Or.inl⟩
    refine ⟨fun hgiven => ?_, fun _ => hdone⟩
    -- only a new object that no connection came to is given up
    cases h.1 with
    | rejected =>
      refine wp_mono ?_ (fun _ _ hF => hF.elim) (wp_deleteClient raw _)
      rintro _ _ rfl
      exact hdone
    | accepted => exact absurd rfl hgiven
  · exact wp_mono (fun _ _ _ h => absurd h hs) (fun _ _ _ h => absurd h hs) (wp_trivial _ s)

end

/-! ### All of them -/

/-- The operations that work on the object's own descriptor. -/
def Op.isOwn : Op → Bool
  | .initializeSocket | .sendFile _ _ _ _ => false
  | _ => true

/-- Those of them that move data. -/
def Op.moves : Op → Bool
  | .send _ _ | .sendVector _ | .receive _ _ => true
  | _ => false

/-- **The conduct of an operation.** -/
theorem conduct_run (cls : SocketClass) {op : Op} (hop : op.isOwn = true)
    (hmoves : op.moves = true → l.moves = true) : Keeps (Conduct l) (op.run cls) := by
  cases op with
  -- `Initialize` gets its descriptor only now, and `SendFile`'s two are not its own
  | initializeSocket => cases hop
  | sendFile => cases hop
  | close => exact Keeps.map conduct_closeSocket _
  | shutdown how => exact Keeps.map (conduct_shutdown how) _
  | select sec usec => exact Keeps.map (conduct_select sec usec) _
  -- the operations that move data need a licence for it
  | receive n buf => exact Keeps.map (conduct_receive (hmoves rfl) n buf) _
  | send buf n => exact Keeps.map (conduct_virtualSend (hmoves rfl) cls buf n) _
  | sendVector items => exact Keeps.map (conduct_sendVector (hmoves rfl) items) _
  | setBlocking => exact Keeps.map (conduct_setFlags _ _) _
  | setNonblocking => exact Keeps.map (conduct_setFlags _ _) _
  | setOptionLinger b t => exact Keeps.map (conduct_setOptionLinger b t) _
  | setOptionReuseAddr => exact Keeps.map (conduct_setOption _ _ _) _
  | setConnectTimeout sec usec => exact Keeps.map (conduct_setConnectTimeout sec usec) _
  | setReceiveTimeout sec usec => exact Keeps.map (conduct_setReceiveTimeout sec usec) _
  | setSendTimeout sec usec => exact Keeps.map (conduct_setSendTimeout sec usec) _
  | setMulticast b ttl => exact Keeps.map (conduct_setMulticast b ttl) _
  | bindInterface iface => exact Keeps.map (conduct_bindInterface iface) _
  | setSocketDscp n => exact Keeps.map (conduct_setSocketDscp n) _
  | getSocketDscp => exact Keeps.map conduct_getSocketDscp _
  | getWindowSize name => exact Keeps.map (conduct_getWindowSize name) _
  | setWindowSize name n => exact Keeps.map (conduct_setWindowSize name n) _
  | disableNagleAlgoritm => exact Keeps.map (conduct_setOption _ _ _) _
  | enableNagleAlgoritm => exact Keeps.map (conduct_setOption _ _ _) _
  | openSocket addr port => exact Keeps.map (conduct_openSocket addr port) _
  | listen addr port backlog => exact Keeps.map (conduct_listen addr port backlog) _
  | bindMulticast iface group port => exact Keeps.map (conduct_bindMulticast iface group port) _
  | accept raw => exact Keeps.map (conduct_accept raw) _

/-- `Initialize` makes one call, and its object is held afterwards by a licence that owns what the call
returned. -/
theorem wp_initializeSocket_conduct (s : State) :
    wp initializeSocket (fun _ t => ∃ res, t.trace = s.trace ++
        [.socket s.self.m_nSocketDomain s.self.m_nSocketType.code res] ∧
      t.self.m_socket = res.ret ∧ (∀ l' : Licence, l'.Held
        { s.self with m_socket := res.ret, m_socketErrno := .socketSuccess } → l'.Held t.self) ∧
      (t.os.errno = EINTR → res.interrupted = true)) (fun _ t => t.trace = s.trace) s := by
  simp only [initializeSocket, wp_bind, wp_setErrno, wp_timerInitialize, wp_setStartTime, wp_this,
    sysSocket, wp_issue_iff, wp_assign, wp_setEndTime, wp_translateSocketError, wp_pure]
  refine ⟨fun _ => rfl, fun res rest _ => ⟨res, rfl, rfl, fun l' h => ?_, fun he => ?_⟩⟩
  · exact ⟨h.owned, h.type, h.domain, h.flags, reported_translateErrno _⟩
  · have hclear : (0 : Int) ≠ EINTR := by decide
    cases res with
    | ok fd => exact absurd he hclear
    | fail e => exact beq_iff_eq.mpr he

end

end ClSocket
