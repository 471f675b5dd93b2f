import ClSocket.Method.Frame

/-!
# Methods that leave an object's core alone

Most methods do not change which descriptor the object holds, its kind, its two addresses or its
buffer (`CSimpleSocket.core`), and they make none of the calls that open, close, connect, receive
or allocate (`Event.isLoud`). `Quiet` is this frame condition: the plain methods spare the core
(`spared_core`), and so do those that set a mode or an option of TCP. `quiet_run` states it of all
these operations at once. The others, of which every invariant has to speak, are
`initializeSocket`, `close`, `receive`, `openSocket`, `listen`, `bindMulticast` and `accept`.
-/

namespace ClSocket

open Prog

/-- The calls that decide who holds a descriptor, what is on the heap, where an object is
connected and what it has received. -/
def Event.isLoud : Event → Bool
  | .socket _ _ _ | .close _ _ | .accept _ _ | .connect _ _ _ => true
  | .recv _ _ _ _ _ | .recvfrom _ _ _ | .alloc _ _ | .free _ => true
  | _ => false

/-- The descriptor, the kind, the addresses and the buffer of an object. -/
def CSimpleSocket.core (o : CSimpleSocket) :
    Int × CSocketType × Option Buffer × Int × SockaddrIn × SockaddrIn :=
  (o.m_socket, o.m_nSocketType, o.m_pBuffer, o.m_nBufferSize, o.m_stServerSockaddr,
    o.m_stClientSockaddr)

/-- The core of the object and the loud calls are as they were. -/
def Quiet (s t : State) : Prop :=
  t.self.core = s.self.core ∧ t.trace.filter Event.isLoud = s.trace.filter Event.isLoud

instance : Std.Refl Quiet := ⟨fun _ => ⟨rfl, rfl⟩⟩

instance : IsTrans State Quiet := ⟨fun _ _ _ h₁ h₂ => ⟨h₂.1.trans h₁.1, h₂.2.trans h₁.2⟩⟩

/-- The core is nothing the plain methods write, and their calls are not loud. -/
theorem spared_core : Spared CSimpleSocket.core Event.isLoud where
  code _ _ := rfl
  timer _ _ := rfl
  bytesSent _ _ := rfl
  linger _ _ := rfl
  connectTimeout _ _ := rfl
  recvTimeout _ _ := rfl
  sendTimeout _ _ := rfl
  fds _ _ _ _ := rfl
  shutdown _ _ _ := rfl
  setsockopt _ _ _ _ _ _ := rfl
  getsockopt _ _ _ _ _ := rfl
  select _ _ _ _ _ _ := rfl
  send _ _ _ := rfl
  sendto _ _ _ _ := rfl
  writev _ _ _ := rfl
  lseek _ _ _ := rfl
  read _ _ _ := rfl

/-! ### Steps -/

theorem quiet_assign {f : CSimpleSocket → CSimpleSocket} (h : ∀ o, (f o).core = o.core) :
    Keeps Quiet (assign f) := frame_assign h

theorem quiet_issue {α : Type} {queue : Script → List (Answer α)}
    {put : List (Answer α) → Script → Script} {ev : Answer α → Event}
    (h : ∀ a, (ev a).isLoud = false) : Keeps Quiet (issue queue put ev) := frame_issue h

theorem quiet_this : Keeps Quiet this := keeps_this

theorem quiet_script : Keeps Quiet script := keeps_script

namespace CSimpleSocket

theorem quiet_setSocketError (error : CSocketError) : Keeps Quiet (setSocketError error) :=
  frame_setSocketError spared_core error

theorem quiet_translateSocketError : Keeps Quiet translateSocketError :=
  frame_translateSocketError spared_core

theorem quiet_timerInitialize : Keeps Quiet timerInitialize := frame_timerInitialize spared_core

theorem quiet_setStartTime : Keeps Quiet setStartTime := frame_setStartTime spared_core

theorem quiet_setEndTime : Keeps Quiet setEndTime := frame_setEndTime spared_core

theorem quiet_virtualSend (cls : SocketClass) (pBuf : Option Bytes) (bytesToSend : ℕ) :
    Keeps Quiet (virtualSend cls pBuf bytesToSend) := frame_virtualSend spared_core cls _ _

theorem quiet_setOption (level name : Int) (value : OptVal) :
    Keeps Quiet (setOption level name value) := frame_setOption spared_core fun _ _ => rfl

theorem quiet_setMulticast (bEnable : Bool) (multicastTTL : UInt8) :
    Keeps Quiet (setMulticast bEnable multicastTTL) := by
  refine keeps_bind quiet_this fun o => keeps_ite (keeps_bind (quiet_assign fun _ => rfl) fun _ =>
    keeps_bind (quiet_issue fun _ => rfl) fun res => ?_)
    (keeps_bind (quiet_setSocketError _) fun _ => keeps_pure _)
  cases res with
  | ok _ => exact keeps_pure _
  | fail _ => exact keeps_bind quiet_translateSocketError fun _ => keeps_pure _

theorem quiet_setFlags (change : UInt32 → UInt32) (blocking : Bool) :
    Keeps Quiet (setFlags change blocking) := by
  refine keeps_bind quiet_this fun o => keeps_bind (quiet_issue fun _ => rfl) fun res => ?_
  cases res with
  | fail _ => exact keeps_bind quiet_translateSocketError fun _ => keeps_pure _
  | ok nCurFlags =>
    refine keeps_bind (quiet_issue fun _ => rfl) fun res => ?_
    cases res with
    | fail _ => exact keeps_bind quiet_translateSocketError fun _ => keeps_pure _
    | ok _ => exact keeps_bind (quiet_assign fun _ => rfl) fun _ => keeps_pure _

end CSimpleSocket

/-! ### All of them -/

/-- The operations that are quiet. -/
def Op.isQuiet : Op → Bool
  | .initializeSocket | .close | .receive _ _ | .openSocket _ _ => false
  | .listen _ _ _ | .bindMulticast _ _ _ | .accept _ => false
  | _ => true

open CSimpleSocket in
/-- **The frame of the quiet operations.** -/
theorem quiet_run (cls : SocketClass) {op : Op} (h : op.isQuiet = true) :
    Keeps Quiet (op.run cls) := by
  by_cases hplain : op.isPlain = true
  · exact frame_run spared_core cls hplain
  cases op with
  | setBlocking => exact Keeps.map (quiet_setFlags _ _) _
  | setNonblocking => exact Keeps.map (quiet_setFlags _ _) _
  | setMulticast b ttl => exact Keeps.map (quiet_setMulticast b ttl) _
  | disableNagleAlgoritm => exact Keeps.map (quiet_setOption _ _ _) _
  | enableNagleAlgoritm => exact Keeps.map (quiet_setOption _ _ _) _
  | initializeSocket => cases h
  | close => cases h
  | receive => cases h
  | openSocket => cases h
  | listen => cases h
  | bindMulticast => cases h
  | accept => cases h
  | _ => exact absurd rfl hplain

end ClSocket
