import ClSocket.Model.SimpleSocket

/-!
# Sending and receiving

`Send` of both classes, `Send(iovec)`, `Flush`, `Writev`, `Receive` and `SendFile`. The
loops that go on `while (GetSocketError() == SocketInterrupted)` are `whileInterrupted`: a
round calls, stores the count, translates `errno`, and goes round again when the object's
error code says that the call was interrupted. A round takes an answer off the queue of
its call, so the length of the queue bounds the rounds that can be finished.

`Send` is virtual, and `Flush` and `Writev` call it on the object they were called on: the
dispatch is `virtualSend`.
-/

namespace ClSocket

open Prog

/-- The script ahead. -/
def script : M Script := fun s => .done s.os.script s

@[simp] theorem wp_script {Q : Script → State → Prop} {B : Stop → State → Prop} {s : State} :
    wp script Q B s ↔ Q s.os.script s := Iff.rfl

/-- A signed 32-bit sum; an overflow is undefined. -/
def addInt32 (a b : Int) : M Int := if InInt32 (a + b) then pure (a + b) else stop .overflow

/-- A signed 32-bit difference. -/
def subInt32 (a b : Int) : M Int := if InInt32 (a - b) then pure (a - b) else stop .overflow

section

variable {Q : Int → State → Prop} {B : Stop → State → Prop} {s : State}

@[simp] theorem wp_addInt32 (a b : Int) : wp (addInt32 a b) Q B s ↔
    (InInt32 (a + b) → Q (a + b) s) ∧ (¬ InInt32 (a + b) → B .overflow s) := wp_ite _ _ _

@[simp] theorem wp_subInt32 (a b : Int) : wp (subInt32 a b) Q B s ↔
    (InInt32 (a - b) → Q (a - b) s) ∧ (¬ InInt32 (a - b) → B .overflow s) := wp_ite _ _ _

end

/-- An element of the vector of `writev`. -/
structure Iovec where
  iov_base : Option Bytes
  iov_len : ℕ
  deriving DecidableEq, Repr

/-- The block an element stands for. -/
def Iovec.bytes (v : Iovec) : Bytes := (v.iov_base.getD []).take v.iov_len

namespace CSimpleSocket

/-- `do { body; TranslateSocketError(); } while (GetSocketError() == SocketInterrupted);` -/
def whileInterrupted {β : Type} (rounds : ℕ) (body : β → M β) (b : β) : M β :=
  iter .waiting (fun b => do
    let b' ← body b
    translateSocketError
    let o ← this
    if o.m_socketErrno = .socketInterrupted then return .again b' else return .leave b')
    rounds b

/-! ### Sending -/

/-- The round of the TCP loop of `Send`. -/
def sendRound (data : Bytes) : M Unit := do
  let o ← this
  let res ← sysSend o.m_socket data
  assign fun o => { o with m_nBytesSent := narrow res.ret }

/-- The round of the UDP loop of `Send`. -/
def sendtoRound (data : Bytes) : M Unit := do
  let o ← this
  let res ← sysSendto o.m_socket data o.m_stServerSockaddr
  assign fun o => { o with m_nBytesSent := narrow res.ret }

/-- The timed retry loop both socket types run in `Send`. -/
def sendTimed (queue : Script → List (Answer ℕ)) (round : M Unit) : M Unit := do
  timerInitialize
  setStartTime
  let sc ← script
  whileInterrupted ((queue sc).length + 1) (fun _ => round) ()
  setEndTime

/-- `Send(const uint8 *, size_t)`. -/
def send (pBuf : Option Bytes) (bytesToSend : ℕ) : M Int := do
  setSocketError .socketSuccess
  assign fun o => { o with m_nBytesSent := 0 }
  let o ← this
  let data := (pBuf.getD []).take bytesToSend
  (if o.m_nSocketType = .socketTypeTcp then
      when (o.isSocketValid = true ∧ 0 < bytesToSend ∧ pBuf ≠ none)
        (sendTimed Script.send (sendRound data))
    else if o.m_nSocketType = .socketTypeUdp then
      when (o.isSocketValid = true ∧ 0 < bytesToSend ∧ pBuf ≠ none)
        (sendTimed Script.sendto (sendtoRound data))
    else pure () : M Unit)
  let o ← this
  return o.m_nBytesSent

/-- `Send(const struct iovec *, int32)` over the native `writev`. -/
def sendVector (sendVector : List Iovec) : M Int := do
  setSocketError .socketSuccess
  assign fun o => { o with m_nBytesSent := 0 }
  let o ← this
  -- called once: an interruption is reported like any failure
  let res ← sysWritev o.m_socket (sendVector.map Iovec.bytes)
  assign fun o => { o with m_nBytesSent := narrow res.ret }
  when (narrow res.ret = -1) translateSocketError
  let o ← this
  return o.m_nBytesSent

end CSimpleSocket

namespace CPassiveSocket

open CSimpleSocket

/-- The UDP block of `CPassiveSocket::Send`: one call, and `errno` only after a failure. -/
def sendtoClient (data : Bytes) : M Unit := do
  timerInitialize
  setStartTime
  let o ← this
  let res ← sysSendto o.m_socket data o.m_stClientSockaddr
  assign fun o => { o with m_nBytesSent := narrow res.ret }
  setEndTime
  when (narrow res.ret = -1) translateSocketError

/-- `CPassiveSocket::Send`. -/
def send (pBuf : Option Bytes) (bytesToSend : ℕ) : M Int := do
  setSocketError .socketSuccess
  assign fun o => { o with m_nBytesSent := 0 }
  let o ← this
  let data := (pBuf.getD []).take bytesToSend
  (if o.m_nSocketType = .socketTypeUdp then
      when (o.isSocketValid = true ∧ 0 < bytesToSend ∧ pBuf ≠ none) (sendtoClient data)
    else if o.m_nSocketType = .socketTypeTcp then do
      let _ ← CSimpleSocket.send pBuf bytesToSend
    else setSocketError .socketProtocolError : M Unit)
  let o ← this
  return o.m_nBytesSent

end CPassiveSocket

/-- The virtual `Send(const uint8 *, size_t)`. -/
def virtualSend (cls : SocketClass) (pBuf : Option Bytes) (bytesToSend : ℕ) : M Int :=
  match cls with
  | .passive => CPassiveSocket.send pBuf bytesToSend
  | _ => CSimpleSocket.send pBuf bytesToSend

namespace CSimpleSocket

/-! ### Vectored sending without `writev` -/

/-- The inner block of `Flush`, `TCP_NODELAY` having been switched on. -/
def flushEmpty (cls : SocketClass) : M Bool := do
  let sent ← virtualSend cls (some [0]) 0
  translateSocketError
  return sent ≠ -1

/-- `Flush`. The length argument of its `getsockopt` is the number 4 in place of a pointer. -/
def flush (cls : SocketClass) : M Bool := do
  let o ← this
  match ← sysGetsockopt o.m_socket IPPROTO_TCP TCP_NODELAY none with
  | .fail _ => return false
  | .ok nCurFlags =>
    let res ← sysSetsockopt o.m_socket IPPROTO_TCP TCP_NODELAY (.int 1)
    let bRetVal ← (if res = .ok () then flushEmpty cls else pure false : M Bool)
    -- whatever came of it, the option is put back
    let _ ← sysSetsockopt o.m_socket IPPROTO_TCP TCP_NODELAY (.int nCurFlags)
    return bRetVal

/-- The loop of `Writev`: the bytes sent so far, and whether an item has gone through. -/
def writevLoop (cls : SocketClass) : List Iovec → Int → Bool → M (Int × Bool)
  | [], nBytesSent, started => pure (nBytesSent, started)
  | v :: vs, nBytesSent, started => do
    let nBytes ← virtualSend cls v.iov_base v.iov_len
    -- a failure ends the loop, and is not returned
    if nBytes = -1 then return (nBytesSent, started)
    else
      let nBytesSent' ← addInt32 nBytesSent nBytes
      writevLoop cls vs nBytesSent' true

/-- `Writev`. -/
def writev (cls : SocketClass) (pVector : List Iovec) (nCount : ℕ) : M Int := do
  let (nBytesSent, started) ← writevLoop cls (pVector.take (narrow nCount).toNat) 0 false
  when (started = true) (do let _ ← flush cls)
  return nBytesSent

/-! ### Receiving -/

/-- The internal buffer is freed when its size does not fit, and allocated when there is
none. -/
def provideBuffer (nMaxBytes : Int) : M Unit := do
  let o ← this
  when (o.m_pBuffer ≠ none ∧ nMaxBytes ≠ o.m_nBufferSize) deleteBuffer
  let o ← this
  when (o.m_pBuffer = none) (do
    assign fun o => { o with m_nBufferSize := nMaxBytes }
    -- the size is the new one also if `new` throws
    let b ← newBytes nMaxBytes
    assign fun o => { o with m_pBuffer := some b })

/-- Bytes arrive in the work buffer: the caller's one, which is handed on, or the internal one. -/
def deliver (pBuffer : Option Bytes) (offset : Int) (bs : Bytes) : M (Option Bytes) := do
  when (pBuffer = none) (assign fun o =>
    { o with m_pBuffer := o.m_pBuffer.map fun b => { b with data := writeAt b.data offset bs } })
  return pBuffer.map fun b => writeAt b offset bs

/-- The round of the TCP loop of `Receive`; the count of the round before is the offset. -/
def recvRound (nMaxBytes : Int) (pBuffer : Option Bytes) : M (Option Bytes) := do
  let o ← this
  -- at `pWorkBuffer + m_nBytesReceived`, for up to `nMaxBytes` bytes in every round
  let res ← sysRecv o.m_socket o.m_nBytesReceived nMaxBytes o.m_nFlags
  assign fun o => { o with m_nBytesReceived := narrow (res.count List.length).ret }
  match res with
  | .ok bs => deliver pBuffer o.m_nBytesReceived bs
  | .fail _ => return pBuffer

/-- The round of the UDP loops of `Receive`; the sender goes to the group in multicast
mode and to the client otherwise. -/
def recvfromRound (nMaxBytes : Int) (pBuffer : Option Bytes) : M (Option Bytes) := do
  let o ← this
  let res ← sysRecvfrom o.m_socket nMaxBytes
  assign fun o => { o with
    m_nBytesReceived := narrow (res.count fun d => d.1.length).ret }
  match res with
  | .ok (bs, src) =>
    assign fun o => if o.m_bIsMulticast then { o with m_stMulticastGroup := src }
      else { o with m_stClientSockaddr := src }
    deliver pBuffer 0 bs
  | .fail _ => return pBuffer

/-- The `switch` of `Receive`. -/
def receiveLoop (nMaxBytes : Int) (pBuffer : Option Bytes) : M (Option Bytes) := do
  let o ← this
  let sc ← script
  if o.m_nSocketType = .socketTypeTcp then
    whileInterrupted (sc.recv.length + 1) (recvRound nMaxBytes) pBuffer
  else if o.m_nSocketType = .socketTypeUdp then
    whileInterrupted (sc.recvfrom.length + 1) (recvfromRound nMaxBytes) pBuffer
  else return pBuffer

/-- What `Receive` does once there is a buffer. -/
def receiveTimed (nMaxBytes : Int) (pBuffer : Option Bytes) : M (Int × Option Bytes) := do
  setSocketError .socketSuccess
  timerInitialize
  setStartTime
  let pBuffer' ← receiveLoop nMaxBytes pBuffer
  setEndTime
  translateSocketError
  let o ← this
  -- the size of the buffer stays
  when (o.m_nBytesReceived = -1) deleteBuffer
  return (o.m_nBytesReceived, pBuffer')

/-- `Receive`. The second component is what the caller's buffer holds on return. -/
def receive (nMaxBytes : Int) (pBuffer : Option Bytes) : M (Int × Option Bytes) := do
  assign fun o => { o with m_nBytesReceived := 0 }
  let o ← this
  if o.isSocketValid = false then return (0, pBuffer)
  else
    when (pBuffer = none) (provideBuffer nMaxBytes)
    receiveTimed nMaxBytes pBuffer

/-- `Receive` gives up on an invalid socket, and else sees to a buffer first. -/
theorem wp_receive_iff {Q : Int × Option Bytes → State → Prop} {B : Stop → State → Prop} {s : State}
    (nMaxBytes : Int) (pBuffer : Option Bytes) : wp (receive nMaxBytes pBuffer) Q B s ↔
      (s.self.isSocketValid = false →
        Q (0, pBuffer) (s.upd fun o => { o with m_nBytesReceived := 0 })) ∧
      (s.self.isSocketValid = true →
        (pBuffer = none → wp (provideBuffer nMaxBytes)
          (fun _ t => wp (receiveTimed nMaxBytes none) Q B t) B
          (s.upd fun o => { o with m_nBytesReceived := 0 })) ∧
        (pBuffer ≠ none → wp (receiveTimed nMaxBytes pBuffer) Q B
          (s.upd fun o => { o with m_nBytesReceived := 0 }))) := by
  rw [receive, wp_bind, wp_assign, wp_bind, wp_this, wp_ite]
  refine and_congr Iff.rfl (imp_congr (Bool.not_eq_false _).to_iff ?_)
  rw [wp_bind, wp_when]
  refine and_congr_left fun _ => forall_congr' fun hnone => ?_
  subst hnone
  exact Iff.rfl

/-! ### Sending a file -/

def SOCKET_SENDFILE_BLOCKSIZE : Int := 8192

/-- The state after bytes have arrived at the front of `szData`. -/
def dataFilled (bs : Bytes) (s : State) : State :=
  { s with os := { s.os with szData := bs ++ s.os.szData.drop bs.length } }

/-- Bytes arrive at the front of `szData`. -/
def fillData (bs : Bytes) : M Unit := modify (dataFilled bs)

/-- The bytes at the front of `szData`. -/
def frontData (n : Int) : M Bytes := fun s => .done (s.os.szData.take n.toNat) s

section

variable {B : Stop → State → Prop} {s : State} (bs : Bytes)

@[simp] theorem dataFilled_self : (dataFilled bs s).self = s.self := rfl
@[simp] theorem dataFilled_trace : (dataFilled bs s).trace = s.trace := rfl
@[simp] theorem dataFilled_errno : (dataFilled bs s).os.errno = s.os.errno := rfl
@[simp] theorem dataFilled_script : (dataFilled bs s).os.script = s.os.script := rfl
@[simp] theorem dataFilled_szData :
    (dataFilled bs s).os.szData = bs ++ s.os.szData.drop bs.length := rfl

@[simp] theorem wp_fillData {Q : Unit → State → Prop} :
    wp (fillData bs) Q B s ↔ Q () (dataFilled bs s) := Iff.rfl

@[simp] theorem wp_frontData {Q : Bytes → State → Prop} (n : Int) :
    wp (frontData n) Q B s ↔ Q (s.os.szData.take n.toNat) s := Iff.rfl

end

/-- One round of the loop of `SendFile`: `none` is the `return -1` of the source. -/
def sendFileRound (nOutFd nInFd nCount nOutCount : Int) : M (Round Int (Option Int)) := do
  if nOutCount < nCount then
    let left ← subInt32 nCount nOutCount
    let nInCount := if left < SOCKET_SENDFILE_BLOCKSIZE then left else SOCKET_SENDFILE_BLOCKSIZE
    match ← sysRead nInFd nInCount with
    | .fail _ => return .leave none
    | .ok bs =>
      fillData bs
      -- fewer bytes than asked for count as a failure, here and of `send`
      if (bs.length : Int) ≠ nInCount then return .leave none
      else
        let data ← frontData nInCount
        let res ← sysSend nOutFd data
        if res.ret ≠ nInCount then return .leave none
        else
          let nOutCount' ← addInt32 nOutCount nInCount
          return .again nOutCount'
  else return .leave (some nOutCount)

/-- `SendFile`. The second component is `*pOffset` on return. -/
def sendFile (nOutFd nInFd pOffset nCount : Int) : M (Int × Int) := do
  match ← sysLseek nInFd pOffset with
  | .fail _ => return (-1, pOffset)
  | .ok _ =>
    let sc ← script
    -- `nOutCount` starts at -1, so that it counts up to `nCount` after one byte more
    match ← iter .waiting (sendFileRound nOutFd nInFd nCount) (sc.read.length + 1) (-1) with
    | none => return (-1, pOffset)
    | some nOutCount =>
      -- the only way out on which `errno` is translated and `*pOffset` moved
      translateSocketError
      return (nOutCount, pOffset + nOutCount)

end CSimpleSocket

end ClSocket
