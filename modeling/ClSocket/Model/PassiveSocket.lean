import ClSocket.Model.ActiveSocket

/-!
# `CPassiveSocket`

`BindMulticast`, `Listen` and `Accept`. The address argument of the first two is read by
one rule, `bindAddress`; a string that `inet_addr` rejects is passed over, and what the
`memset` left stands.

`Accept` works on two objects, the listener and the client it is about to return. The
client is the loop variable; the listener is the object of the running method.
-/

namespace ClSocket

open Prog

namespace CPassiveSocket

open CSimpleSocket

/-- The address to bind: `htonl(INADDR_ANY)` for a null or empty string, the address a
string stands for, and otherwise the zero the structure was cleared to. -/
def bindAddress (pAddr : Option String) : M UInt32 := do
  match pAddr with
  | none => return htonl INADDR_ANY
  | some addr =>
    if addr = "" then return htonl INADDR_ANY
    else
      let inAddr ← inetAddr addr
      if inAddr ≠ INADDR_NONE then return inAddr else return 0

/-- The value of `bindAddress`. -/
def boundAddress (inet_addr : String → UInt32) : Option String → UInt32
  | none => htonl INADDR_ANY
  | some addr =>
    if addr = "" then htonl INADDR_ANY
    else if inet_addr addr ≠ INADDR_NONE then inet_addr addr else 0

@[simp] theorem wp_bindAddress {Q : UInt32 → State → Prop} {B : Stop → State → Prop} {s : State}
    (pAddr : Option String) :
    wp (bindAddress pAddr) Q B s ↔ Q (boundAddress s.os.inet_addr pAddr) s := by
  cases pAddr with
  | none => exact Iff.rfl
  | some addr =>
    by_cases h₁ : addr = ""
    · simp [bindAddress, boundAddress, h₁]
    · by_cases h₂ : s.os.inet_addr addr = INADDR_NONE
      · simp [bindAddress, boundAddress, h₁, h₂]
      · simp [bindAddress, boundAddress, h₁, h₂]

/-- The multicast membership of `BindMulticast`, after a successful `bind`. -/
def joinGroup (pGroup : String) : M Bool := do
  let imr_multiaddr ← inetAddr pGroup
  let o ← this
  let res ← sysSetsockopt o.m_socket IPPROTO_IP IP_ADD_MEMBERSHIP
    (.mreq imr_multiaddr o.m_stMulticastGroup.sin_addr)
  -- reached only after a successful `bind`
  setEndTime
  return res = .ok ()

/-- `bind` to the group's address and, if that succeeds, the membership. -/
def bindAndJoin (pGroup : String) : M Bool := do
  let o ← this
  match ← sysBind o.m_socket o.m_stMulticastGroup with
  | .ok _ => joinGroup pGroup
  | .fail _ => return false

/-- `BindMulticast`. -/
def bindMulticast (pInterface : Option String) (pGroup : String) (nPort : UInt16) : M Bool := do
  let s_addr ← bindAddress pInterface
  assign fun o => { o with m_stMulticastGroup := ⟨AF_INET, htons nPort, s_addr⟩ }
  let bRetVal ← bindAndJoin pGroup
  -- the timer is cleared and started here, after what it was to time
  timerInitialize
  setStartTime
  translateSocketError
  -- `Close` translates `errno` again, over the code of the cause
  when (bRetVal = false) (do let _ ← closeSocket)
  return bRetVal

/-- The two option calls `Listen` starts with; their answers are not looked at. -/
def listenOptions : M Unit := do
  let o ← this
  let _ ← sysSetsockopt o.m_socket SOL_SOCKET SO_REUSEADDR (.int IPTOS_LOWDELAY)
  let _ ← sysSetsockopt o.m_socket IPPROTO_TCP IP_TOS (.int IPTOS_LOWDELAY)

/-- `bind` and, for a stream, `listen`. -/
def bindAndListen (nConnectionBacklog : Int) : M Bool := do
  let o ← this
  match ← sysBind o.m_socket o.m_stServerSockaddr with
  | .fail _ => return false
  | .ok _ =>
    -- a datagram socket is ready once it is bound
    if o.m_nSocketType = .socketTypeTcp then
      let res ← sysListen o.m_socket nConnectionBacklog
      return res = .ok ()
    else return true

/-- The clean-up of a failed `Listen`, which keeps the error code. -/
def closeKeepingError : M Unit := do
  let o ← this
  let _ ← closeSocket
  setSocketError o.m_socketErrno

/-- `Listen`. -/
def listen (pAddr : Option String) (nPort : UInt16) (nConnectionBacklog : Int) : M Bool := do
  listenOptions
  let s_addr ← bindAddress pAddr
  assign fun o => { o with m_stServerSockaddr := ⟨AF_INET, htons nPort, s_addr⟩ }
  timerInitialize
  setStartTime
  let bRetVal ← bindAndListen nConnectionBacklog
  setEndTime
  translateSocketError
  when (bRetVal = false) closeKeepingError
  return bRetVal

/-! ### Accepting -/

/-- Run a method on another object. -/
def onObject {α : Type} (o : CSimpleSocket) (x : M α) : M (α × CSimpleSocket) := fun s =>
  match x { s with self := o } with
  | .done a s' => .done (a, s'.self) { s' with self := s.self }
  | .stop e s' => .stop e { s' with self := s.self }

@[simp] theorem wp_onObject {α : Type} {Q : α × CSimpleSocket → State → Prop}
    {B : Stop → State → Prop} {s : State} (o : CSimpleSocket) (x : M α) :
    wp (onObject o x) Q B s ↔ wp x (fun a s' => Q (a, s'.self) { s' with self := s.self })
      (fun e s' => B e { s' with self := s.self }) { s with self := o } := by
  unfold wp onObject
  cases x { s with self := o } <;> exact Iff.rfl

/-- The addresses of an accepted connection: `getpeername` writes the client's address, the
`memcpy` overwrites it with what `accept` stored, and `getsockname` of the listening
descriptor fills the server's address, which was cleared. -/
def storeAccepted (client : CSimpleSocket) : M CSimpleSocket := do
  let o ← this
  let _ ← sysGetpeername o.m_socket
  let client := { client with
    m_stClientSockaddr := o.m_stClientSockaddr
    m_stServerSockaddr := .zero }
  match ← sysGetsockname o.m_socket with
  | .ok a => return { client with m_stServerSockaddr := a }
  | .fail _ => return client

/-- One round of the loop of `Accept`. -/
def acceptRound (client : CSimpleSocket) : M (Round CSimpleSocket (CSimpleSocket × CSocketError)) := do
  setErrno 0
  let o ← this
  match ← sysAccept o.m_socket with
  | .ok (fd, peer) =>
    assign fun o => { o with m_stClientSockaddr := peer }
    -- the code of a connection taken is the client's; the listener keeps the one it has
    let errno ← getErrno
    let socketErrno := translateErrno errno
    let client ← storeAccepted
      { client with m_socket := fd, m_socketErrno := socketErrno }
    if socketErrno = .socketInterrupted then return .again client
    else return .leave (client, socketErrno)
  | .fail _ =>
    -- that of a failure is the listener's
    translateSocketError
    let o ← this
    if o.m_socketErrno = .socketInterrupted then return .again client
    else return .leave (client, o.m_socketErrno)

/-- `Accept`; `raw` is what the storage of the new object holds. A client that is given
up is deleted, which runs `Close` in its destructor. -/
def accept (raw : CSimpleSocket) : M (Option CSimpleSocket) := do
  let o ← this
  if o.m_nSocketType ≠ .socketTypeTcp then
    setSocketError .socketProtocolError
    return none
  else
    timerInitialize
    setStartTime
    let sc ← script
    let (client, socketErrno) ← iter .waiting acceptRound (sc.accept.length + 1)
      (CSimpleSocket.construct raw .socketTypeTcp)
    setEndTime
    if socketErrno ≠ .socketSuccess then
      let _ ← onObject client (do let _ ← closeSocket)
      return none
    else return some client

end CPassiveSocket

end ClSocket
