import ClSocket.Model.Os

/-!
# `CSimpleSocket`: life cycle, options and readiness

The methods of `SimpleSocket.cpp` other than the data path, one definition a method, in
the source's order of assignments and calls. A local `bRetVal` is the value its block
returns. The macros of `Host.h` are those of a Linux build.
-/

namespace ClSocket

open Prog

namespace CSimpleSocket

/-! ### Errors, timer and buffer -/

/-- `SetSocketError`. -/
def setSocketError (error : CSocketError) : M Unit :=
  assign fun o => { o with m_socketErrno := error }

/-- `TranslateSocketError`. -/
def translateSocketError : M Unit := do
  let errno ← getErrno
  setSocketError (translateErrno errno)

/-- A reading of the clock, `GET_CLOCK_COUNT`, and its number. -/
def getClockCount : M (Timeval × ℕ) := fun s => .done (s.os.clock s.os.ticks, s.os.ticks) s.tick

/-- `m_timer.Initialize()`. -/
def timerInitialize : M Unit := assign fun o => { o with m_timer := .reset }

/-- `m_timer.SetStartTime()`. -/
def setStartTime : M Unit := do
  let (t, reading) ← getClockCount
  assign fun o => { o with m_timer := o.m_timer.started t reading }

/-- `m_timer.SetEndTime()`. -/
def setEndTime : M Unit := do
  let (t, reading) ← getClockCount
  assign fun o => { o with m_timer := o.m_timer.ended t reading }

/-- The state after the buffer has been freed. -/
def bufferDeleted (s : State) : State :=
  { s with
    self := { s.self with m_pBuffer := none }
    trace := s.trace ++ s.self.m_pBuffer.toList.map fun b => .free b.id }

/-- `if (m_pBuffer != NULL) { delete [] m_pBuffer; m_pBuffer = NULL; }`. -/
def deleteBuffer : M Unit := modify bufferDeleted

@[simp] theorem bufferDeleted_self (s : State) :
    (bufferDeleted s).self = { s.self with m_pBuffer := none } := rfl

@[simp] theorem bufferDeleted_os (s : State) : (bufferDeleted s).os = s.os := rfl

/-- Freeing adds no other events than `free`. -/
theorem filter_bufferDeleted {p : Event → Bool} (h : ∀ id, p (.free id) = false) (s : State) :
    (bufferDeleted s).trace.filter p = s.trace.filter p := by
  rw [bufferDeleted, List.filter_append]
  cases s.self.m_pBuffer <;> simp [h]

/-- What is read off other events than `free` is as it was. -/
theorem filterMap_bufferDeleted {γ : Type} {log : Event → Option γ} (h : ∀ id, log (.free id) = none)
    (s : State) : (bufferDeleted s).trace.filterMap log = s.trace.filterMap log := by
  rw [bufferDeleted, List.filterMap_append]
  cases s.self.m_pBuffer <;> simp [h]

section

variable {B : Stop → State → Prop} {s : State}

@[simp] theorem wp_setSocketError {Q : Unit → State → Prop} (error : CSocketError) :
    wp (setSocketError error) Q B s ↔
      Q () (s.upd fun o => { o with m_socketErrno := error }) := Iff.rfl

@[simp] theorem wp_translateSocketError {Q : Unit → State → Prop} :
    wp translateSocketError Q B s ↔
      Q () (s.upd fun o => { o with m_socketErrno := translateErrno s.os.errno }) := Iff.rfl

@[simp] theorem wp_getClockCount {Q : Timeval × ℕ → State → Prop} :
    wp getClockCount Q B s ↔ Q (s.os.clock s.os.ticks, s.os.ticks) s.tick := Iff.rfl

@[simp] theorem wp_timerInitialize {Q : Unit → State → Prop} :
    wp timerInitialize Q B s ↔ Q () (s.upd fun o => { o with m_timer := .reset }) := Iff.rfl

@[simp] theorem wp_setStartTime {Q : Unit → State → Prop} :
    wp setStartTime Q B s ↔ Q () (s.tick.upd fun o =>
      { o with m_timer := o.m_timer.started (s.os.clock s.os.ticks) s.os.ticks }) := Iff.rfl

@[simp] theorem wp_setEndTime {Q : Unit → State → Prop} :
    wp setEndTime Q B s ↔ Q () (s.tick.upd fun o =>
      { o with m_timer := o.m_timer.ended (s.os.clock s.os.ticks) s.os.ticks }) := Iff.rfl

@[simp] theorem wp_deleteBuffer {Q : Unit → State → Prop} :
    wp deleteBuffer Q B s ↔ Q () (bufferDeleted s) := Iff.rfl

end

/-! ### Life cycle -/

/-- `Initialize`. -/
def initializeSocket : M Bool := do
  setErrno 0
  timerInitialize
  setStartTime
  let o ← this
  let fd ← sysSocket o.m_nSocketDomain o.m_nSocketType.code
  -- the descriptor there was is not closed
  assign fun o => { o with m_socket := fd.ret }
  setEndTime
  translateSocketError
  let o ← this
  return o.isSocketValid

/-- `if (CLOSE(m_socket) != SocketError) { m_socket = INVALID_SOCKET; bRetVal = true; }`. -/
def closeHandle : M Bool := do
  let o ← this
  match ← sysClose o.m_socket with
  | .ok _ =>
    assign fun o => { o with m_socket := INVALID_SOCKET }
    return true
  | .fail _ => return false

/-- `Close`. -/
def closeSocket : M Bool := do
  deleteBuffer
  let o ← this
  let bRetVal ← (if o.isSocketValid then closeHandle else pure false : M Bool)
  -- also without a descriptor, when `errno` is not of this call
  translateSocketError
  return bRetVal

/-- What `memcpy` reads of the first `n` bytes of a block, `none` when they are not all in it. -/
def memcpyBytes (pBuffer : Option Buffer) (n : Int) : Option Bytes :=
  match pBuffer with
  | none => if n = 0 then some [] else none
  | some b => if n ≤ b.data.length then some (b.data.take n.toNat) else none

/-- A new block of the size `socket` remembers, with a copy of its bytes. It says whether the
`memcpy` read inside the source's block; what it reads outside is undefined. -/
def copyBuffer (socket : CSimpleSocket) : M Bool := do
  let b ← newBytes socket.m_nBufferSize
  assign fun o => { o with m_pBuffer := some b, m_nBufferSize := socket.m_nBufferSize }
  match memcpyBytes socket.m_pBuffer socket.m_nBufferSize with
  | none => return false
  | some bs =>
    assign fun o => { o with m_pBuffer := some { b with data := writeAt b.data 0 bs } }
    return true

/-- The copy constructor, on the storage of the new object. -/
def copyConstruct (socket : CSimpleSocket) : M Bool := copyBuffer socket

/-- `operator=`. It deletes the old block, and takes a new one, when the sizes differ only. -/
def operatorAssign (socket : CSimpleSocket) : M Bool := do
  let o ← this
  if o.m_nBufferSize ≠ socket.m_nBufferSize then
    match o.m_pBuffer with
    | some b => deleteBytes b
    | none => pure ()
    copyBuffer socket
  -- equal sizes: nothing is copied, whatever the buffers hold
  else return true

/-- `Shutdown`. -/
def shutdown (nShutdown : CShutdownMode) : M Bool := do
  let o ← this
  let nRetVal ← sysShutdown o.m_socket nShutdown
  translateSocketError
  return nRetVal = .ok ()

/-! ### Options -/

/-- The body the options without a field of their own share: set, translate, report. -/
def setOption (level name : Int) (value : OptVal) : M Bool := do
  let o ← this
  let res ← sysSetsockopt o.m_socket level name value
  translateSocketError
  return res = .ok ()

/-- `DisableNagleAlgoritm`. -/
def disableNagleAlgoritm : M Bool := setOption IPPROTO_TCP TCP_NODELAY (.int 1)

/-- `EnableNagleAlgoritm`. -/
def enableNagleAlgoritm : M Bool := setOption IPPROTO_TCP TCP_NODELAY (.int 0)

/-- `SetOptionReuseAddr`. -/
def setOptionReuseAddr : M Bool := setOption SOL_SOCKET SO_REUSEADDR (.int IPTOS_LOWDELAY)

/-- `SetOptionLinger`. -/
def setOptionLinger (bEnable : Bool) (nTime : UInt16) : M Bool := do
  let linger : Linger := ⟨if bEnable then 1 else 0, nTime.toNat⟩
  assign fun o => { o with m_stLinger := linger }
  setOption SOL_SOCKET SO_LINGER (.linger linger)

/-- What the two timeout setters share: the option call translates only a failure. -/
def setTimeoutOption (name : Int) (t : Timeval) : M Bool := do
  let o ← this
  match ← sysSetsockopt o.m_socket SOL_SOCKET name (.timeval t) with
  | .ok _ => return true
  | .fail _ =>
    translateSocketError
    return false

/-- `SetReceiveTimeout`. -/
def setReceiveTimeout (nRecvTimeoutSec nRecvTimeoutUsec : Int) : M Bool := do
  let t : Timeval := ⟨nRecvTimeoutSec, nRecvTimeoutUsec⟩
  assign fun o => { o with m_stRecvTimeout := t }
  setTimeoutOption SO_RCVTIMEO t

/-- `SetSendTimeout`. -/
def setSendTimeout (nSendTimeoutSec nSendTimeoutUsec : Int) : M Bool := do
  let t : Timeval := ⟨nSendTimeoutSec, nSendTimeoutUsec⟩
  assign fun o => { o with m_stSendTimeout := t }
  setTimeoutOption SO_SNDTIMEO t

/-- `SetConnectTimeout`. -/
def setConnectTimeout (nConnectTimeoutSec nConnectTimeoutUsec : Int) : M Unit :=
  assign fun o => { o with m_stConnectTimeout := ⟨nConnectTimeoutSec, nConnectTimeoutUsec⟩ }

/-- `BindInterface`. -/
def bindInterface (pInterface : Option String) : M Bool := do
  let o ← this
  if o.m_bIsMulticast then
    match pInterface with
    | none => return false
    | some iface =>
      let stInterfaceAddr ← inetAddr iface
      let res ← sysSetsockopt o.m_socket IPPROTO_IP IP_MULTICAST_IF (.addr stInterfaceAddr)
      -- a failure sets no code
      return res = .ok ()
  else
    setSocketError .socketProtocolError
    return false

/-- `SetMulticast`. -/
def setMulticast (bEnable : Bool) (multicastTTL : UInt8) : M Bool := do
  let o ← this
  if o.m_nSocketType = .socketTypeUdp then
    -- written first, and kept if the call fails
    assign fun o => { o with m_bIsMulticast := bEnable }
    match ← sysSetsockopt o.m_socket IPPROTO_IP IP_MULTICAST_TTL (.byte multicastTTL) with
    | .ok _ => return true
    | .fail _ =>
      translateSocketError
      return false
  else
    setSocketError .socketProtocolError
    return false

/-- `SetSocketDscp`; the shift and the division are those of a 32-bit two's complement
machine. -/
def setSocketDscp (nDscp : Int) : M Bool := do
  let nTempVal := (narrow (nDscp * 16)).tdiv 4
  let o ← this
  if o.isSocketValid then
    match ← sysSetsockopt o.m_socket IPPROTO_IP IP_TOS (.int nTempVal) with
    | .ok _ => return true
    | .fail _ =>
      translateSocketError
      return false
  else return true

/-- What `getsockopt` leaves in a zeroed `int32` of the caller: the low `optlen` bytes of
the value. -/
def copyOut (optlen : ℕ) (value : Int) : Int :=
  if 4 ≤ optlen then value else value % 256 ^ optlen

/-- `GetSocketDscp`; it passes `nLen = 0`. -/
def getSocketDscp : M Int := do
  let o ← this
  if o.isSocketValid then
    let nTempVal ← (do
      match ← sysGetsockopt o.m_socket IPPROTO_IP IP_TOS (some 0) with
      | .ok v => pure (copyOut 0 v)
      | .fail _ =>
        translateSocketError
        pure 0 : M Int)
    return narrow (nTempVal * 4) / 16
  else return 0

/-- `GetWindowSize`. -/
def getWindowSize (nOptionName : Int) : M Int := do
  let o ← this
  if o.m_socket ≠ -1 then
    let res ← sysGetsockopt o.m_socket SOL_SOCKET nOptionName (some 4)
    translateSocketError
    match res with
    | .ok v => return copyOut 4 v
    | .fail _ => return 0
  else
    setSocketError .socketInvalidSocket
    return 0

/-- `SetWindowSize`. -/
def setWindowSize (nOptionName nWindowSize : Int) : M Int := do
  let o ← this
  if o.m_socket ≠ -1 then
    let _ ← sysSetsockopt o.m_socket SOL_SOCKET nOptionName (.int nWindowSize)
    translateSocketError
  else
    setSocketError .socketInvalidSocket
  return nWindowSize

/-- The body of `SetBlocking` and `SetNonblocking`: read the flags, change them, write
them back, and remember the mode once both calls have succeeded. -/
def setFlags (change : UInt32 → UInt32) (blocking : Bool) : M Bool := do
  let o ← this
  match ← sysGetfl o.m_socket with
  | .fail _ =>
    translateSocketError
    return false
  | .ok nCurFlags =>
    match ← sysSetfl o.m_socket (change nCurFlags) with
    | .fail _ =>
      translateSocketError
      return false
    | .ok _ =>
      assign fun o => { o with m_bIsBlocking := blocking }
      return true

/-- `SetNonblocking`. -/
def setNonblocking : M Bool := setFlags (fun fl => fl ||| O_NONBLOCK) false

/-- `SetBlocking`. -/
def setBlocking : M Bool := setFlags (fun fl => fl &&& ~~~O_NONBLOCK) true

/-! ### Readiness -/

/-- The `FD_ZERO` and the `FD_SET` of each of the three sets, all with the object's descriptor. -/
def fillSets : M Unit := do
  let o ← this
  let fds ← fdSet o.m_socket
  assign fun o => { o with m_errorFds := fds, m_readFds := fds, m_writeFds := fds }

/-- `SELECT` on the three sets, once they are filled. A failing call leaves them as they were; a
successful one clears them (nothing ready) or reduces them to what is ready. -/
def selectSets (timeout : Option Timeval) : M (Answer Selected) := do
  fillSets
  let o ← this
  let res ← sysSelect (o.m_socket + 1) o.m_readFds o.m_writeFds o.m_errorFds timeout
  match res with
  | .fail _ => return res
  | .ok r =>
    assign fun o => { o with
      m_readFds := if r.count = 0 then ∅ else o.m_readFds ∩ r.readFds
      m_writeFds := if r.count = 0 then ∅ else o.m_writeFds ∩ r.writeFds
      m_errorFds := if r.count = 0 then ∅ else o.m_errorFds ∩ r.errorFds }
    return res

@[simp] theorem wp_fillSets {Q : Unit → State → Prop} {B : Stop → State → Prop} {s : State} :
    wp fillSets Q B s ↔
      (0 ≤ s.self.m_socket ∧ s.self.m_socket < FD_SETSIZE → Q () (s.upd fun o => { o with
        m_errorFds := {s.self.m_socket}
        m_readFds := {s.self.m_socket}
        m_writeFds := {s.self.m_socket} })) ∧
      (¬ (0 ≤ s.self.m_socket ∧ s.self.m_socket < FD_SETSIZE) → B .undefined s) := by
  rw [fillSets, wp_bind, wp_this, wp_bind, wp_fdSet]
  rfl

/-- The value of `select`. -/
def numDescriptors : Answer Selected → Int
  | .ok r => r.count
  | .fail _ => -1

/-- `Select(int32, int32)`. -/
def select (nTimeoutSec nTimeoutUSec : Int) : M Bool := do
  let pTimeout : Option Timeval :=
    if nTimeoutSec > 0 ∨ nTimeoutUSec > 0 then some ⟨nTimeoutSec, nTimeoutUSec⟩ else none
  let res ← selectSets pTimeout
  let o ← this
  if numDescriptors res = 0 then
    setSocketError .socketTimedout
    return false
  -- a failed `select` has left the sets full, and comes here too
  else if o.m_socket ∈ o.m_readFds ∨ o.m_socket ∈ o.m_writeFds then
    match ← sysGetsockopt o.m_socket SOL_SOCKET SO_ERROR (some 4) with
    | .ok nError =>
      -- `errno = nError`: zero clears what it held
      setErrno nError
      translateSocketError
      return nError = 0
    | .fail _ =>
      translateSocketError
      return false
  else return false

end CSimpleSocket

end ClSocket
