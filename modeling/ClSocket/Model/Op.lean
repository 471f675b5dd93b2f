import ClSocket.Model.PassiveSocket

/-!
# The public operations of an object

`Op` lists the operations a program can call on a live object, `Op.run` is the method each
stands for, and `destroy` is the destructor of a class. A call starts with an empty trace
(`Op.call`), so the trace it ends with is what the call did.
-/

namespace ClSocket

open Prog

/-- A call on a socket object, with its arguments. -/
inductive Op where
  | initializeSocket
  | close
  | shutdown (nShutdown : CShutdownMode)
  | select (nTimeoutSec nTimeoutUSec : Int)
  | receive (nMaxBytes : Int) (pBuffer : Option Bytes)
  | send (pBuf : Option Bytes) (bytesToSend : ℕ)
  | sendVector (sendVector : List Iovec)
  | sendFile (nOutFd nInFd pOffset nCount : Int)
  | setBlocking
  | setNonblocking
  | setOptionLinger (bEnable : Bool) (nTime : UInt16)
  | setOptionReuseAddr
  | setConnectTimeout (sec usec : Int)
  | setReceiveTimeout (sec usec : Int)
  | setSendTimeout (sec usec : Int)
  | setMulticast (bEnable : Bool) (multicastTTL : UInt8)
  | bindInterface (pInterface : Option String)
  | setSocketDscp (nDscp : Int)
  | getSocketDscp
  | getWindowSize (nOptionName : Int)
  | setWindowSize (nOptionName nWindowSize : Int)
  | disableNagleAlgoritm
  | enableNagleAlgoritm
  /-- `CActiveSocket::Open`. -/
  | openSocket (pAddr : Option String) (nPort : UInt16)
  /-- `CPassiveSocket::Listen`. -/
  | listen (pAddr : Option String) (nPort : UInt16) (nConnectionBacklog : Int)
  /-- `CPassiveSocket::BindMulticast`. -/
  | bindMulticast (pInterface : Option String) (pGroup : String) (nPort : UInt16)
  /-- `CPassiveSocket::Accept`; `raw` is what the new object's storage holds. -/
  | accept (raw : CSimpleSocket)

/-- What a call returns. -/
inductive Ret where
  | unit
  | bool (b : Bool)
  | int (n : Int)
  /-- The return of `Receive`, with the caller's buffer. -/
  | received (n : Int) (pBuffer : Option Bytes)
  /-- The return of `SendFile`, with `*pOffset`. -/
  | sentFile (n pOffset : Int)
  /-- The return of `Accept`. -/
  | object (client : Option CSimpleSocket)

/-- Whether objects of a class have the operation. -/
def Op.ofClass : Op → SocketClass → Bool
  | .openSocket _ _, cls => cls == .active
  | .listen _ _ _, cls => cls == .passive
  | .bindMulticast _ _ _, cls => cls == .passive
  | .accept _, cls => cls == .passive
  | _, _ => true

/-- The method an operation of an object of class `cls` runs. -/
def Op.run (cls : SocketClass) : Op → M Ret
  | .initializeSocket => Ret.bool <$> CSimpleSocket.initializeSocket
  | .close => Ret.bool <$> CSimpleSocket.closeSocket
  | .shutdown how => Ret.bool <$> CSimpleSocket.shutdown how
  | .select sec usec => Ret.bool <$> CSimpleSocket.select sec usec
  | .receive n buf => (fun r => Ret.received r.1 r.2) <$> CSimpleSocket.receive n buf
  | .send buf n => Ret.int <$> virtualSend cls buf n
  | .sendVector items => Ret.int <$> CSimpleSocket.sendVector items
  | .sendFile out inp off n => (fun r => Ret.sentFile r.1 r.2) <$> CSimpleSocket.sendFile out inp off n
  | .setBlocking => Ret.bool <$> CSimpleSocket.setBlocking
  | .setNonblocking => Ret.bool <$> CSimpleSocket.setNonblocking
  | .setOptionLinger b t => Ret.bool <$> CSimpleSocket.setOptionLinger b t
  | .setOptionReuseAddr => Ret.bool <$> CSimpleSocket.setOptionReuseAddr
  | .setConnectTimeout sec usec => (fun _ => Ret.unit) <$> CSimpleSocket.setConnectTimeout sec usec
  | .setReceiveTimeout sec usec => Ret.bool <$> CSimpleSocket.setReceiveTimeout sec usec
  | .setSendTimeout sec usec => Ret.bool <$> CSimpleSocket.setSendTimeout sec usec
  | .setMulticast b ttl => Ret.bool <$> CSimpleSocket.setMulticast b ttl
  | .bindInterface iface => Ret.bool <$> CSimpleSocket.bindInterface iface
  | .setSocketDscp n => Ret.bool <$> CSimpleSocket.setSocketDscp n
  | .getSocketDscp => Ret.int <$> CSimpleSocket.getSocketDscp
  | .getWindowSize name => Ret.int <$> CSimpleSocket.getWindowSize name
  | .setWindowSize name n => Ret.int <$> CSimpleSocket.setWindowSize name n
  | .disableNagleAlgoritm => Ret.bool <$> CSimpleSocket.disableNagleAlgoritm
  | .enableNagleAlgoritm => Ret.bool <$> CSimpleSocket.enableNagleAlgoritm
  | .openSocket addr port => Ret.bool <$> CActiveSocket.openSocket addr port
  | .listen addr port backlog => Ret.bool <$> CPassiveSocket.listen addr port backlog
  | .bindMulticast iface group port => Ret.bool <$> CPassiveSocket.bindMulticast iface group port
  | .accept raw => Ret.object <$> CPassiveSocket.accept raw

/-- The destructor: the derived classes call `Close`, the base class frees the buffer. -/
def destroy (cls : SocketClass) : M Unit := do
  when (cls ≠ .simple) (do let _ ← CSimpleSocket.closeSocket)
  CSimpleSocket.deleteBuffer

/-- A call of a method on an object: it starts with nothing in its trace. -/
def call {α : Type} (x : M α) (o : CSimpleSocket) (os : Os) : Outcome State Stop α := x ⟨o, os, []⟩

/-- What is known of the returns of a method is known of a call that returned. -/
theorem wp_call {α : Type} {x : M α} {Q : α → State → Prop} {B : Stop → State → Prop}
    {o : CSimpleSocket} {os : Os} {a : α} {t : State} (h : wp x Q B ⟨o, os, []⟩)
    (hrun : call x o os = .done a t) : Q a t := wp_done h hrun

/-! ### Starting points -/

/-- Storage filled with zeros. -/
def CSimpleSocket.zeroed : CSimpleSocket where
  m_socket := 0
  m_socketErrno := .socketSuccess
  m_pBuffer := none
  m_nBufferSize := 0
  m_nSocketDomain := 0
  m_nSocketType := .socketTypeInvalid
  m_nBytesReceived := 0
  m_nBytesSent := 0
  m_nFlags := 0
  m_bIsBlocking := false
  m_bIsMulticast := false
  m_stConnectTimeout := ⟨0, 0⟩
  m_stRecvTimeout := ⟨0, 0⟩
  m_stSendTimeout := ⟨0, 0⟩
  m_stServerSockaddr := .zero
  m_stClientSockaddr := .zero
  m_stMulticastGroup := .zero
  m_stLinger := ⟨0, 0⟩
  m_timer := .reset
  m_writeFds := ∅
  m_readFds := ∅
  m_errorFds := ∅

/-- An object constructed in such storage and holding the descriptor `fd`. -/
def CSimpleSocket.holding (nType : CSocketType) (fd : Int) : CSimpleSocket :=
  { CSimpleSocket.construct .zeroed nType with m_socket := fd }

/-- A process in which nothing has happened, with these answers ahead. -/
def Os.idle (script : Script) : Os where
  errno := 0
  h_errno := 0
  script := script
  clock := fun _ => ⟨0, 0⟩
  ticks := 0
  nextAlloc := 0
  garbage := fun _ => 0
  szData := List.replicate 8192 0
  inet_addr := fun _ => INADDR_NONE

end ClSocket
