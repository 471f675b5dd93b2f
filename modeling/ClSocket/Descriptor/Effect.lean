import ClSocket.Connect.Accepting

/-!
# What an operation does to its descriptor

Of the calls an operation makes, `socket`, `close` and `accept` change which descriptors are
open; they are the `handles` of its trace. An operation either leaves the descriptor alone
(`Kept`), or closes it (`Closed`: one `close`, and the object forgets the descriptor only if
that succeeds), or replaces it by what `socket` returned, or hands out what `accept` returned.

`Op.closes` says, from the operation and the answers ahead of it, whether it closes: `Close`
does, and so do `Listen` and `BindMulticast` when the system makes them fail.
-/

namespace ClSocket

open Prog CSimpleSocket

/-- The calls that open or close a descriptor. -/
def Event.isHandle : Event → Bool
  | .socket _ _ _ | .close _ _ | .accept _ _ => true
  | _ => false

/-- Those of a trace. -/
def handles (t : Trace) : Trace := t.filter Event.isHandle

@[simp] theorem handles_nil : handles [] = [] := rfl

@[simp] theorem handles_append (t u : Trace) : handles (t ++ u) = handles t ++ handles u :=
  List.filter_append ..

@[simp] theorem handles_cons (e : Event) (t : Trace) :
    handles (e :: t) = if e.isHandle then e :: handles t else handles t := List.filter_cons ..

@[simp] theorem handles_bufferDeleted (s : State) :
    handles (bufferDeleted s).trace = handles s.trace :=
  filter_bufferDeleted (fun _ => rfl) s

theorem isHandle_of_not_loud (e : Event) (h : e.isLoud = false) : e.isHandle = false := by
  cases e <;> first | rfl | cases h

/-- The handle calls are among the loud ones. -/
theorem handles_of_loud {t u : Trace} (h : t.filter Event.isLoud = u.filter Event.isLoud) :
    handles t = handles u :=
  filter_of_filter isHandle_of_not_loud h

/-! ### The effects -/

/-- The descriptor is as it was. -/
structure Kept (s t : State) : Prop where
  socket : t.self.m_socket = s.self.m_socket
  handles_eq : handles t.trace = handles s.trace

/-- The descriptor, a valid one, was closed once. -/
structure Closed (s t : State) : Prop where
  valid : s.self.m_socket ≠ -1
  closed : ∃ res, handles t.trace = handles s.trace ++ [.close s.self.m_socket res] ∧
    t.self.m_socket = if res = .ok () then -1 else s.self.m_socket

/-- The effect of closing: an invalid descriptor is not closed. -/
def ClosedIfValid (s t : State) : Prop :=
  (s.self.m_socket = -1 → Kept s t) ∧ (s.self.m_socket ≠ -1 → Closed s t)

/-- Closing after steps that kept the descriptor. -/
theorem ClosedIfValid.after {s t u : State} (h : ClosedIfValid t u) (hk : Kept s t) :
    ClosedIfValid s u := by
  refine ⟨fun hi => ?_, fun hv => ?_⟩
  · obtain ⟨hs, hh⟩ := h.1 (hk.socket.trans hi)
    exact ⟨hs.trans hk.socket, hh.trans hk.handles_eq⟩
  · obtain ⟨-, res, hh, hs⟩ := h.2 fun heq => hv (hk.socket.symm.trans heq)
    rw [hk.socket, hk.handles_eq] at hh
    rw [hk.socket] at hs
    exact ⟨hv, res, hh, hs⟩

/-- Steps after closing that keep the descriptor. -/
theorem ClosedIfValid.before {s t u : State} (h : ClosedIfValid s t) (hk : Kept t u) :
    ClosedIfValid s u := by
  refine ⟨fun hi => ?_, fun hv => ?_⟩
  · exact ⟨hk.socket.trans (h.1 hi).socket, hk.handles_eq.trans (h.1 hi).handles_eq⟩
  · obtain ⟨-, res, hh, hs⟩ := h.2 hv
    exact ⟨hv, res, hk.handles_eq.trans hh, hk.socket.trans hs⟩

/-- The buffer is as it was, or gone. -/
def BufferKept (s t : State) : Prop :=
  t.self.m_pBuffer = s.self.m_pBuffer ∧ t.self.m_nBufferSize = s.self.m_nBufferSize ∨
    t.self.m_pBuffer = none

theorem BufferKept.trans {s t u : State} (h₁ : BufferKept s t) (h₂ : BufferKept t u) :
    BufferKept s u := by
  rcases h₂ with ⟨hb, hs⟩ | hnone
  · rcases h₁ with ⟨hb', hs'⟩ | hnone'
    · exact Or.inl ⟨hb.trans hb', hs.trans hs'⟩
    · exact Or.inr (hb.trans hnone')
  · exact Or.inr hnone

/-- The internal buffer has the size the object thinks it has. -/
def BufferOk (o : CSimpleSocket) : Prop :=
  ∀ b, o.m_pBuffer = some b → (b.data.length : Int) = o.m_nBufferSize

theorem BufferKept.bufferOk {s t : State} (h : BufferKept s t) (hs : BufferOk s.self) :
    BufferOk t.self := by
  intro b hb
  rcases h with ⟨hbuf, hsize⟩ | hnone
  · rw [hsize]
    exact hs b (hbuf ▸ hb)
  · rw [hnone] at hb
    cases hb

/-- Neither the descriptor nor the type nor the buffer has been touched. -/
structure Steady (s t : State) : Prop extends Kept s t where
  type : t.self.m_nSocketType = s.self.m_nSocketType
  buffer : t.self.m_pBuffer = s.self.m_pBuffer
  bufferSize : t.self.m_nBufferSize = s.self.m_nBufferSize

theorem steady_iff {s t : State} : Steady s t ↔ t.self.m_socket = s.self.m_socket ∧
    handles t.trace = handles s.trace ∧ t.self.m_nSocketType = s.self.m_nSocketType ∧
      t.self.m_pBuffer = s.self.m_pBuffer ∧ t.self.m_nBufferSize = s.self.m_nBufferSize :=
  ⟨fun h => ⟨h.socket, h.handles_eq, h.type, h.buffer, h.bufferSize⟩, fun h =>
    ⟨⟨h.1, h.2.1⟩, h.2.2.1, h.2.2.2.1, h.2.2.2.2⟩⟩

instance : Std.Refl Steady := ⟨fun _ => ⟨⟨rfl, rfl⟩, rfl, rfl, rfl⟩⟩

instance : IsTrans State Steady := ⟨fun _ _ _ h₁ h₂ =>
  ⟨⟨h₂.socket.trans h₁.socket, h₂.handles_eq.trans h₁.handles_eq⟩, h₂.type.trans h₁.type,
    h₂.buffer.trans h₁.buffer, h₂.bufferSize.trans h₁.bufferSize⟩⟩

theorem Steady.bufferKept {s t : State} (h : Steady s t) : BufferKept s t :=
  Or.inl ⟨h.buffer, h.bufferSize⟩

theorem Quiet.steady {s t : State} (h : Quiet s t) : Steady s t := by
  obtain ⟨hcore, hloud⟩ := h
  simp only [core, Prod.mk.injEq] at hcore
  exact ⟨⟨hcore.1, handles_of_loud hloud⟩, hcore.2.1, hcore.2.2.1, hcore.2.2.2.1⟩

/-! ### `Initialize` and `Close` -/

theorem wp_initializeSocket (s : State) :
    wp initializeSocket (fun _ t => BufferKept s t ∧ ∃ domain type res,
      handles t.trace = handles s.trace ++ [.socket domain type res] ∧ t.self.m_socket = res.ret)
      (fun _ _ => True) s := by
  simp [initializeSocket, sysSocket, Event.isHandle, BufferKept]

theorem wp_closeHandle {s : State} (hv : s.self.m_socket ≠ -1) :
    wp closeHandle (fun _ t => Closed s t ∧ t.self.m_pBuffer = s.self.m_pBuffer)
      (fun _ _ => True) s := by
  rw [closeHandle, wp_bind, wp_this, wp_bind, sysClose, wp_issue_iff]
  refine ⟨fun _ => trivial, fun res rest _ => ?_⟩
  cases res with
  | ok u => exact ⟨⟨hv, .ok u, by simp [Event.isHandle], rfl⟩, rfl⟩
  | fail e => exact ⟨⟨hv, .fail e, by simp [Event.isHandle], by simp⟩, rfl⟩

theorem wp_closeSocket (s : State) :
    wp closeSocket (fun _ t => BufferKept s t ∧ ClosedIfValid s t) (fun _ _ => True) s := by
  simp only [closeSocket, wp_bind, wp_deleteBuffer, wp_this, wp_ite, wp_pure,
    wp_translateSocketError, isSocketValid_iff, bufferDeleted_self]
  refine ⟨fun hv => ?_, fun hi => ?_⟩
  · refine wp_mono (fun _ t h => ?_) (fun _ _ _ => trivial) (wp_closeHandle hv)
    obtain ⟨⟨-, res, hh, hs⟩, hb⟩ := h
    rw [handles_bufferDeleted] at hh
    exact ⟨Or.inr hb, fun hi => absurd hi hv, fun _ => ⟨hv, res, hh, hs⟩⟩
  · exact ⟨Or.inr rfl, fun _ => ⟨rfl, handles_bufferDeleted s⟩, fun hv => absurd hv hi⟩

/-- `Close` does not hide a failure that `errno` tells of. -/
theorem wp_closeSocket_errno {s : State} (he : s.os.errno ≠ 0) :
    wp closeSocket (fun _ t => t.self.m_socketErrno ≠ .socketSuccess) (fun _ _ => True) s := by
  by_cases h : s.self.m_socket = -1
  · simp [closeSocket, h, he]
  · simp [closeSocket, closeHandle, sysClose, h, he]
    exact fun _ hne _ _ => hne

/-! ### `Open` -/

/-- The descriptor, the type and the buffer. -/
def CSimpleSocket.steadyPart (o : CSimpleSocket) : Int × CSocketType × Option Buffer × Int :=
  (o.m_socket, o.m_nSocketType, o.m_pBuffer, o.m_nBufferSize)

theorem spared_steadyPart : SparedByOpen CSimpleSocket.steadyPart Event.isHandle where
  toSpared := spared_core.coarser (fun a b h => by
    simp only [core, Prod.mk.injEq] at h
    simp only [steadyPart, h]) isHandle_of_not_loud
  server _ _ := rfl
  client _ _ := rfl
  gethostbyname _ _ := rfl
  connect _ _ _ := rfl
  getpeername _ _ := rfl
  getsockname _ _ := rfl

theorem steady_of_frame {s t : State} (h : Frame CSimpleSocket.steadyPart Event.isHandle s t) :
    Steady s t := by
  obtain ⟨hpart, hhandles⟩ := h
  simp only [steadyPart, Prod.mk.injEq] at hpart
  exact ⟨⟨hpart.1, hhandles⟩, hpart.2.1, hpart.2.2.1, hpart.2.2.2⟩

theorem steady_openSocket (pAddr : Option String) (nPort : UInt16) :
    Keeps Steady (CActiveSocket.openSocket pAddr nPort) := fun s =>
  wp_mono (fun _ _ h => steady_of_frame h) (fun _ _ h => steady_of_frame h)
    (frame_openSocket spared_steadyPart pAddr nPort s)

/-! ### `Receive` -/

/-- The type and the server address: how a datagram is sent, and where. -/
def CSimpleSocket.aim (o : CSimpleSocket) : CSocketType × SockaddrIn :=
  (o.m_nSocketType, o.m_stServerSockaddr)

/-- The descriptor is as it was, so is the aim, and the buffer is still right. -/
def Holds (s t : State) : Prop :=
  t.self.m_socket = s.self.m_socket ∧ handles t.trace = handles s.trace ∧
    t.self.aim = s.self.aim ∧ (BufferOk s.self → BufferOk t.self)

instance : Std.Refl Holds := ⟨fun _ => ⟨rfl, rfl, rfl, id⟩⟩

instance : IsTrans State Holds := ⟨fun _ _ _ h₁ h₂ =>
  ⟨h₂.1.trans h₁.1, h₂.2.1.trans h₁.2.1, h₂.2.2.1.trans h₁.2.2.1, h₂.2.2.2 ∘ h₁.2.2.2⟩⟩

theorem Quiet.aim_eq {s t : State} (h : Quiet s t) : t.self.aim = s.self.aim := by
  obtain ⟨hcore, -⟩ := h
  simp only [core, Prod.mk.injEq] at hcore
  exact congrArg₂ _ hcore.2.1 hcore.2.2.2.2.1

theorem Quiet.holds {s t : State} (h : Quiet s t) : Holds s t :=
  ⟨h.steady.socket, h.steady.handles_eq, h.aim_eq, h.steady.bufferKept.bufferOk⟩

theorem holds_of_quiet {α : Type} {x : M α} (h : Keeps Quiet x) : Keeps Holds x := fun s =>
  wp_mono (fun _ _ h => h.holds) (fun _ _ h => h.holds) (h s)

theorem holds_deleteBuffer : Keeps Holds deleteBuffer := fun s =>
  ⟨rfl, handles_bufferDeleted s, rfl, fun _ _ hb => by cases hb⟩

theorem holds_provideBuffer (nMaxBytes : Int) : Keeps Holds (provideBuffer nMaxBytes) := by
  refine keeps_bind keeps_this fun o => keeps_bind (keeps_ite holds_deleteBuffer (keeps_pure _))
    fun _ => fun s => ?_
  simp only [wp_bind, wp_this, wp_when, wp_assign, wp_newBytes]
  refine ⟨fun hnone => ⟨fun _ => ⟨rfl, rfl, rfl, fun _ b hb => ?_⟩,
    fun hn => ⟨rfl, ?_, rfl, fun _ b hb => ?_⟩⟩, fun _ => ⟨rfl, rfl, rfl, id⟩⟩
  · rw [State.upd_self, hnone] at hb
    cases hb
  · simp [Event.isHandle]
  · obtain rfl : _ = b := Option.some.inj hb
    simp
    omega

theorem holds_deliver (pBuffer : Option Bytes) (offset : Int) (bs : Bytes) :
    Keeps Holds (deliver pBuffer offset bs) := by
  intro s
  simp only [deliver, wp_bind, wp_when, wp_assign, wp_pure]
  refine ⟨fun _ => ⟨rfl, rfl, rfl, fun h b hb => ?_⟩, fun _ => ⟨rfl, rfl, rfl, id⟩⟩
  obtain ⟨b', hb', rfl⟩ : ∃ b', s.self.m_pBuffer = some b' ∧
      { b' with data := writeAt b'.data offset bs } = b := by simpa using hb
  simpa [writeAt] using h b' hb'

theorem holds_recvRound (nMaxBytes : Int) (pBuffer : Option Bytes) :
    Keeps Holds (recvRound nMaxBytes pBuffer) := by
  refine keeps_bind keeps_this fun o => keeps_bind ?call fun res => keeps_bind ?count fun _ => ?_
  case call =>
    intro s
    simp [sysRecv, Event.isHandle, Holds]
  case count => exact fun s => ⟨rfl, rfl, rfl, id⟩
  cases res with
  | ok bs => exact holds_deliver _ _ _
  | fail _ => exact keeps_pure _

theorem holds_recvfromRound (nMaxBytes : Int) (pBuffer : Option Bytes) :
    Keeps Holds (recvfromRound nMaxBytes pBuffer) := by
  refine keeps_bind keeps_this fun o => keeps_bind ?call fun res => keeps_bind ?count fun _ => ?_
  case call =>
    intro s
    simp [sysRecvfrom, Event.isHandle, Holds]
  case count => exact fun s => ⟨rfl, rfl, rfl, id⟩
  cases res with
  | ok d =>
    refine keeps_bind (fun s => ?_) fun _ => holds_deliver _ _ _
    rw [wp_assign]
    cases h : s.self.m_bIsMulticast <;> simp [Holds, BufferOk, CSimpleSocket.aim, h]
  | fail _ => exact keeps_pure _

theorem holds_receive (nMaxBytes : Int) (pBuffer : Option Bytes) :
    Keeps Holds (receive nMaxBytes pBuffer) := by
  have hquiet : ∀ {α : Type} {x : M α}, Keeps Quiet x → Keeps Holds x := holds_of_quiet
  have hloop : Keeps Holds (receiveLoop nMaxBytes pBuffer) :=
    keeps_bind keeps_this fun _ => keeps_bind (hquiet quiet_script) fun _ => keeps_ite
      (keeps_whileInterrupted (holds_recvRound nMaxBytes) (hquiet quiet_translateSocketError) _ _)
      (keeps_ite (keeps_whileInterrupted (holds_recvfromRound nMaxBytes)
        (hquiet quiet_translateSocketError) _ _) (keeps_pure _))
  refine keeps_bind (fun s => ⟨rfl, rfl, rfl, id⟩) fun _ => keeps_bind keeps_this fun _ =>
    keeps_ite (keeps_pure _) ?_
  exact keeps_bind (keeps_ite (holds_provideBuffer nMaxBytes) (keeps_pure _)) fun _ =>
    keeps_bind (hquiet (quiet_setSocketError _)) fun _ =>
      keeps_bind (hquiet quiet_timerInitialize) fun _ =>
        keeps_bind (hquiet quiet_setStartTime) fun _ => keeps_bind hloop fun _ =>
          keeps_bind (hquiet quiet_setEndTime) fun _ =>
            keeps_bind (hquiet quiet_translateSocketError) fun _ => keeps_bind keeps_this fun _ =>
              keeps_bind (keeps_ite holds_deleteBuffer (keeps_pure _)) fun _ => keeps_pure _

/-! ### `Listen` and `BindMulticast` -/

/-- The next call of this kind is going to fail. -/
def headFails {α : Type} : List (Answer α) → Bool
  | .fail _ :: _ => true
  | _ => false

@[simp] theorem headFails_nil {α : Type} : headFails ([] : List (Answer α)) = false := rfl

@[simp] theorem headFails_ok {α : Type} (a : α) (q : List (Answer α)) :
    headFails (.ok a :: q) = false := rfl

@[simp] theorem headFails_fail {α : Type} (e : Errno) (q : List (Answer α)) :
    headFails (.fail e :: q) = true := rfl

/-- The system makes `Listen` fail: `bind` fails, or `listen` of a stream. -/
def listenFails (o : CSimpleSocket) (sc : Script) : Bool :=
  headFails sc.bind || (o.m_nSocketType == .socketTypeTcp && headFails sc.listen)

/-- The system makes `BindMulticast` fail: `bind` fails, or the membership. -/
def bindMulticastFails (sc : Script) : Bool := headFails sc.bind || headFails sc.setsockopt

theorem wp_listenOptions (s : State) :
    wp CPassiveSocket.listenOptions (fun _ t => t.self = s.self ∧ handles t.trace = handles s.trace ∧
      t.os.script.bind = s.os.script.bind ∧ t.os.script.listen = s.os.script.listen ∧
      t.os.inet_addr = s.os.inet_addr) (fun _ _ => True) s := by
  simp [CPassiveSocket.listenOptions, sysSetsockopt, Event.isHandle]

/-- What `bindAndListen` returns is whether a call failed, and then `errno` has its number. -/
theorem wp_bindAndListen (nConnectionBacklog : Int) (s : State) :
    wp (CPassiveSocket.bindAndListen nConnectionBacklog) (fun r t =>
      r = !listenFails s.self s.os.script ∧ (r = false → t.os.errno ≠ 0) ∧ t.self = s.self ∧
        handles t.trace = handles s.trace) (fun _ _ => True) s := by
  rw [CPassiveSocket.bindAndListen, wp_bind, wp_this, wp_bind, sysBind, wp_issue_iff]
  refine ⟨fun _ => trivial, fun res rest hbind => ?_⟩
  cases res with
  | fail e => simp [listenFails, hbind, Event.isHandle, e.2]
  | ok u =>
    by_cases htcp : s.self.m_nSocketType = .socketTypeTcp
    · simp only [htcp, if_true, wp_bind, sysListen, wp_issue_iff]
      refine ⟨fun _ => trivial, fun res' rest' hlisten => ?_⟩
      cases res' with
      | fail e => simp_all [listenFails, Event.isHandle, e.2]
      | ok u => simp_all [listenFails, Event.isHandle]
    · simp [htcp, listenFails, hbind, Event.isHandle]

theorem wp_closeKeepingError (s : State) :
    wp CPassiveSocket.closeKeepingError (fun _ t => BufferKept s t ∧ ClosedIfValid s t ∧
      t.self.m_socketErrno = s.self.m_socketErrno) (fun _ _ => True) s := by
  simp only [CPassiveSocket.closeKeepingError, wp_bind, wp_this, wp_setSocketError]
  refine wp_mono (fun _ t h => ?_) (fun _ _ h => h) (wp_closeSocket s)
  exact ⟨h.1, h.2.before ⟨rfl, rfl⟩, rfl⟩

/-- **`Listen`** fails when the system makes it, with a code that says so, and then closes. -/
theorem wp_listen (pAddr : Option String) (nPort : UInt16) (nConnectionBacklog : Int)
    (s : State) :
    wp (CPassiveSocket.listen pAddr nPort nConnectionBacklog) (fun r t =>
      r = !listenFails s.self s.os.script ∧ BufferKept s t ∧
        (r = true → Kept s t) ∧
        (r = false → ClosedIfValid s t ∧ t.self.m_socketErrno ≠ .socketSuccess))
      (fun _ _ => True) s := by
  rw [CPassiveSocket.listen, wp_bind]
  refine wp_mono (fun _ s₁ h₁ => ?_) (fun _ _ h => h) (wp_listenOptions s)
  obtain ⟨hself₁, hh₁, hb₁, hl₁, -⟩ := h₁
  simp only [wp_bind, CPassiveSocket.wp_bindAddress, wp_assign, wp_timerInitialize, wp_setStartTime]
  refine wp_mono (fun r s₂ h₂ => ?_) (fun _ _ h => h) (wp_bindAndListen nConnectionBacklog _)
  obtain ⟨hr, herr, hself₂, hh₂⟩ := h₂
  simp only [wp_setEndTime, wp_translateSocketError, wp_when, wp_pure]
  -- the options and the address change nothing that `bind` and `listen` depend on
  have hfails : r = !listenFails s.self s.os.script := by
    rw [hr]
    simp [listenFails, hself₁, hb₁, hl₁]
  have hsocket : s₂.self.m_socket = s.self.m_socket := by rw [hself₂, ← hself₁]; rfl
  have hbuffer : s₂.self.m_pBuffer = s.self.m_pBuffer := by rw [hself₂, ← hself₁]; rfl
  have hsize : s₂.self.m_nBufferSize = s.self.m_nBufferSize := by rw [hself₂, ← hself₁]; rfl
  have hhandles : handles s₂.trace = handles s.trace := hh₂.trans hh₁
  refine ⟨fun hfalse => ?_, fun htrue => ?_⟩
  · refine wp_mono (fun _ t h => ?_) (fun _ _ h => h) (wp_closeKeepingError _)
    obtain ⟨hb, hc, he⟩ := h
    refine ⟨hfails, BufferKept.trans (Or.inl ⟨hbuffer, hsize⟩) hb, fun ht => ?_, fun _ => ⟨?_, ?_⟩⟩
    · rw [hfalse] at ht
      cases ht
    · exact hc.after ⟨hsocket, hhandles⟩
    · rw [he]
      exact fun h0 => herr hfalse (translateErrno_eq_success.mp h0)
  · exact ⟨hfails, Or.inl ⟨hbuffer, hsize⟩, fun _ => ⟨hsocket, hhandles⟩,
      fun hf => absurd hf htrue⟩

theorem wp_joinGroup (pGroup : String) (s : State) :
    wp (CPassiveSocket.joinGroup pGroup) (fun r t => r = !headFails s.os.script.setsockopt ∧
      (r = false → t.os.errno ≠ 0) ∧ Steady s t) (fun _ _ => True) s := by
  rw [CPassiveSocket.joinGroup, wp_bind, wp_inetAddr, wp_bind, wp_this, wp_bind, sysSetsockopt,
    wp_issue_iff]
  refine ⟨fun _ => trivial, fun res rest hq => ?_⟩
  cases res with
  | ok u => simp [hq, steady_iff, Event.isHandle]
  | fail e => simp [hq, steady_iff, Event.isHandle, e.2]

/-- The two calls of `BindMulticast` that decide. -/
theorem wp_bindAndJoin (pGroup : String) (s : State) :
    wp (CPassiveSocket.bindAndJoin pGroup) (fun r t => r = !bindMulticastFails s.os.script ∧
      (r = false → t.os.errno ≠ 0) ∧ Steady s t) (fun _ _ => True) s := by
  rw [CPassiveSocket.bindAndJoin, wp_bind, wp_this, wp_bind, sysBind, wp_issue_iff]
  refine ⟨fun _ => trivial, fun res rest hbind => ?_⟩
  cases res with
  | fail e => simp [bindMulticastFails, hbind, steady_iff, Event.isHandle, e.2]
  | ok u =>
    refine wp_mono (fun r t h => ?_) (fun _ _ h => h) (wp_joinGroup pGroup _)
    obtain ⟨hr, herr, ht⟩ := h
    refine ⟨?_, herr, ⟨⟨ht.socket, ?_⟩, ht.type, ht.buffer, ht.bufferSize⟩⟩
    · simpa [bindMulticastFails, hbind] using hr
    · simpa [Event.isHandle] using ht.handles_eq

/-- **`BindMulticast`**, in the same way. -/
theorem wp_bindMulticast (pInterface : Option String) (pGroup : String) (nPort : UInt16)
    (s : State) :
    wp (CPassiveSocket.bindMulticast pInterface pGroup nPort) (fun r t =>
      r = !bindMulticastFails s.os.script ∧ BufferKept s t ∧
        (r = true → Kept s t) ∧
        (r = false → ClosedIfValid s t ∧ t.self.m_socketErrno ≠ .socketSuccess))
      (fun _ _ => True) s := by
  simp only [CPassiveSocket.bindMulticast, wp_bind, CPassiveSocket.wp_bindAddress, wp_assign]
  refine wp_mono (fun r s₂ h₂ => ?_) (fun _ _ h => h) (wp_bindAndJoin pGroup _)
  obtain ⟨hr, herr, hs₂⟩ := h₂
  simp only [wp_timerInitialize, wp_setStartTime, wp_translateSocketError, wp_when, wp_bind, wp_pure]
  refine ⟨fun hfalse => ?_, fun htrue => ?_⟩
  · have herrno : s₂.os.errno ≠ 0 := herr hfalse
    refine wp_mono (fun _ t h => ?_) (fun _ _ h => h)
      (wp_and (wp_closeSocket _) (wp_closeSocket_errno herrno))
    obtain ⟨⟨hb, hc⟩, he⟩ := h
    refine ⟨hr, BufferKept.trans hs₂.bufferKept hb, fun ht => ?_, fun _ => ⟨?_, he⟩⟩
    · rw [hfalse] at ht
      cases ht
    · exact hc.after ⟨hs₂.socket, hs₂.handles_eq⟩
  · exact ⟨hr, hs₂.bufferKept, fun _ => ⟨hs₂.socket, hs₂.handles_eq⟩, fun hf => absurd hf htrue⟩

/-! ### All operations -/

/-- The operation closes the descriptor of the object, if that is valid. -/
def Op.closes (o : CSimpleSocket) (sc : Script) : Op → Bool
  | .close => true
  | .listen _ _ _ => listenFails o sc
  | .bindMulticast _ _ _ => bindMulticastFails sc
  | _ => false

/-- The object a call hands out. -/
def Ret.client : Ret → Option CSimpleSocket
  | .object client => client
  | _ => none

/-- **The effect of an operation** on the descriptor of its object: the handle calls it
made, the descriptor the object has now, and the object handed out. -/
inductive Effect (o : CSimpleSocket) (sc : Script) :
    Op → Trace → Int → Option CSimpleSocket → Prop where
  | kept {op : Op} (keeps : op.closes o sc = true → o.m_socket = -1)
      (other : op ≠ .initializeSocket) : Effect o sc op [] o.m_socket none
  | closed {op : Op} (closes : op.closes o sc = true) (valid : o.m_socket ≠ -1)
      (res : Answer Unit) : Effect o sc op [.close o.m_socket res]
        (if res = .ok () then -1 else o.m_socket) none
  | acquired (domain type : Int) (res : Answer ℕ) :
      Effect o sc .initializeSocket [.socket domain type res] res.ret none
  | rejected (raw : CSimpleSocket) (fails : List Errno) :
      Effect o sc (.accept raw) (CPassiveSocket.rejections o.m_socket fails) o.m_socket none
  | accepted (raw : CSimpleSocket) (fails : List Errno) (fd : ℕ) (peer : SockaddrIn)
      (name : Answer SockaddrIn) :
      Effect o sc (.accept raw) (CPassiveSocket.rejections o.m_socket fails ++
        [.accept o.m_socket (.ok (fd, peer))]) o.m_socket
        (some (CPassiveSocket.accepted raw fd peer name))

section

variable {o : CSimpleSocket} {os : Os} {t : State} {op : Op}

theorem effect_kept (h : Kept ⟨o, os, []⟩ t) (hk : op.closes o os.script = true → o.m_socket = -1)
    (hop : op ≠ .initializeSocket) :
    Effect o os.script op (handles t.trace) t.self.m_socket none := by
  rw [h.handles_eq, h.socket]
  exact .kept hk hop

theorem effect_closed (h : ClosedIfValid ⟨o, os, []⟩ t) (hc : op.closes o os.script = true)
    (hop : op ≠ .initializeSocket) :
    Effect o os.script op (handles t.trace) t.self.m_socket none := by
  by_cases hv : o.m_socket = -1
  · exact effect_kept (h.1 hv) (fun _ => hv) hop
  · obtain ⟨-, res, hh, hs⟩ := h.2 hv
    rw [hh, hs]
    exact .closed hc hv res

theorem call_done {α : Type} {x : M α} {f : α → Ret} {ret : Ret}
    (hrun : call (f <$> x) o os = .done ret t) : ∃ a, call x o os = .done a t ∧ f a = ret := by
  have h : wp (f <$> x) (fun r u => ∃ a, call x o os = .done a u ∧ f a = r) (fun _ _ => True)
      ⟨o, os, []⟩ := by
    rw [wp_map]
    unfold wp call
    cases x ⟨o, os, []⟩ with
    | done a u => exact ⟨a, rfl, rfl⟩
    | stop e u => trivial
  exact wp_call h hrun

/-- A quiet operation hands nothing out. -/
theorem client_of_quiet {cls : SocketClass} {ret : Ret} (hq : op.isQuiet = true)
    (hrun : call (op.run cls) o os = .done ret t) : ret.client = none := by
  cases op <;> first
    | exact absurd hq Bool.false_ne_true
    | obtain ⟨a, -, rfl⟩ := call_done hrun; rfl

theorem closes_of_quiet (hq : op.isQuiet = true) : op.closes o os.script = false := by
  cases op <;> first
    | exact absurd hq Bool.false_ne_true
    | rfl

/-- **Every operation has one of the effects.** -/
theorem effect_of_call {cls : SocketClass} {ret : Ret}
    (hrun : call (op.run cls) o os = .done ret t) :
    Effect o os.script op (handles t.trace) t.self.m_socket ret.client := by
  by_cases hq : op.isQuiet = true
  · have hquiet := wp_call (quiet_run cls hq ⟨o, os, []⟩) hrun
    rw [client_of_quiet hq hrun]
    refine effect_kept hquiet.steady.toKept (fun hc => ?_) fun hop => ?_
    · rw [closes_of_quiet hq] at hc
      cases hc
    · rw [hop] at hq
      cases hq
  cases op with
  | initializeSocket =>
    obtain ⟨r, hr, rfl⟩ := call_done hrun
    obtain ⟨-, domain, type, res, hh, hs⟩ := wp_call (wp_initializeSocket _) hr
    rw [hh, hs]
    exact .acquired domain type res
  | close =>
    obtain ⟨r, hr, rfl⟩ := call_done hrun
    exact effect_closed (wp_call (wp_closeSocket _) hr).2 rfl (by simp)
  | receive n buf =>
    obtain ⟨r, hr, rfl⟩ := call_done hrun
    obtain ⟨hs, hh, -⟩ := wp_call (holds_receive n buf _) hr
    exact effect_kept ⟨hs, hh⟩ (by simp [Op.closes]) (by simp)
  | openSocket addr port =>
    obtain ⟨r, hr, rfl⟩ := call_done hrun
    have hsteady := wp_call (steady_openSocket addr port _) hr
    exact effect_kept hsteady.toKept (by simp [Op.closes]) (by simp)
  -- a `Listen` that fails closes, and so does a `BindMulticast`
  | listen addr port backlog =>
    obtain ⟨r, hr, rfl⟩ := call_done hrun
    obtain ⟨hfails, -, htrue, hfalse⟩ := wp_call (wp_listen addr port backlog _) hr
    cases r with
    | true => exact effect_kept (htrue rfl) (by simp_all [Op.closes]) (by simp)
    | false => exact effect_closed (hfalse rfl).1 (by simp_all [Op.closes]) (by simp)
  | bindMulticast iface group port =>
    obtain ⟨r, hr, rfl⟩ := call_done hrun
    obtain ⟨hfails, -, htrue, hfalse⟩ := wp_call (wp_bindMulticast iface group port _) hr
    cases r with
    | true => exact effect_kept (htrue rfl) (by simp_all [Op.closes]) (by simp)
    | false => exact effect_closed (hfalse rfl).1 (by simp_all [Op.closes]) (by simp)
  | accept raw =>
    obtain ⟨r, hr, rfl⟩ := call_done hrun
    obtain ⟨hl, fails, h⟩ := wp_call (CPassiveSocket.wp_accept raw _) hr
    rw [hl.socket]
    -- the refused calls are all descriptor operations
    have hrej : handles (CPassiveSocket.rejections o.m_socket fails) =
        CPassiveSocket.rejections o.m_socket fails := by
      refine List.filter_eq_self.mpr fun e he => ?_
      obtain ⟨f, -, rfl⟩ := List.mem_map.mp he
      rfl
    cases r with
    | none =>
      obtain ⟨-, ht⟩ := h
      rw [ht, handles_append, hrej]
      exact .rejected raw fails
    | some client =>
      obtain ⟨fd, peer, name', name, rfl, ht⟩ := h
      rw [ht, handles_append, handles_append, hrej]
      exact .accepted raw fails fd peer name
  | _ => exact absurd rfl hq

/-- Only `Initialize` takes a descriptor; another operation keeps it or gives it up. -/
theorem socket_of_call {cls : SocketClass} {ret : Ret} (hop : op ≠ .initializeSocket)
    (hrun : call (op.run cls) o os = .done ret t) :
    t.self.m_socket = o.m_socket ∨ t.self.m_socket = -1 := by
  have heffect := effect_of_call hrun
  generalize handles t.trace = calls at heffect
  generalize ret.client = client at heffect
  generalize t.self.m_socket = fd at heffect ⊢
  cases heffect with
  | kept => exact Or.inl rfl
  | closed _ _ res =>
    split
    · exact Or.inr rfl
    · exact Or.inl rfl
  | acquired => exact absurd rfl hop
  | rejected => exact Or.inl rfl
  | accepted => exact Or.inl rfl

end

end ClSocket
