import ClSocket.Model.Transfer

/-!
# `CActiveSocket`

`Open` and the three `Connect…` helpers. The helpers agree up to the `connect` call, which
is `resolve`: clear the server address, look the name up, store what was found. They differ
in what they do with the answer of `connect`.
-/

namespace ClSocket

open Prog

namespace CActiveSocket

open CSimpleSocket

/-- What the helpers do before they connect. It stores the destination in
`m_stServerSockaddr` step by step and says whether there is one. -/
def resolve (pAddr : String) (nPort : UInt16) : M Bool := do
  assign fun o => { o with m_stServerSockaddr := { SockaddrIn.zero with sin_family := AF_INET } }
  match ← sysGethostbyname pAddr with
  | .failed h_errno _ =>
    -- other resolver errors set no code
    when (h_errno = HOST_NOT_FOUND) (setSocketError .socketInvalidAddress)
    return false
  | .found s_addr =>
    assign fun o => { o with
      m_stServerSockaddr := { o.m_stServerSockaddr with sin_addr := s_addr } }
    -- the broadcast address reads as `-1`
    if s_addr = 0xffffffff then
      translateSocketError
      return false
    else
      assign fun o => { o with
        m_stServerSockaddr := { o.m_stServerSockaddr with sin_port := htons nPort } }
      return true

/-- The `connect` of the helpers, with the timer started. -/
def connectServer : M (Answer Unit) := do
  timerInitialize
  setStartTime
  let o ← this
  sysConnect o.m_socket o.m_stServerSockaddr

/-- What `ConnectTCP` makes of the answer of `connect`: a pending connection of a
non-blocking socket is waited for with `Select`. -/
def awaitTCP (res : Answer Unit) : M Bool := do
  translateSocketError
  match res with
  | .ok _ => return true
  | .fail _ =>
    let o ← this
    if o.isNonblocking = true ∧ (o.m_socketErrno = .socketEwouldblock ∨
        o.m_socketErrno = .socketEinprogress) then
      -- the result of `Select` is that of the connection
      select o.m_stConnectTimeout.tv_sec o.m_stConnectTimeout.tv_usec
    else return false

/-- `ConnectTCP`. -/
def connectTCP (pAddr : String) (nPort : UInt16) : M Bool := do
  if ← resolve pAddr nPort then
    let res ← connectServer
    let bRetVal ← awaitTCP res
    setEndTime
    return bRetVal
  else return false

/-- `ConnectUDP`. -/
def connectUDP (pAddr : String) (nPort : UInt16) : M Bool := do
  if ← resolve pAddr nPort then
    let res ← connectServer
    translateSocketError
    setEndTime
    return res = .ok ()
  else return false

/-- What `Open` does after a successful connect: the addresses of both ends. A call that
fails leaves the cleared address. -/
def storeEndpoints : M Unit := do
  assign fun o => { o with m_stServerSockaddr := .zero }
  let o ← this
  let peer ← sysGetpeername o.m_socket
  assign fun o => match peer with
    | .ok a => { o with m_stServerSockaddr := a }
    | .fail _ => o
  assign fun o => { o with m_stClientSockaddr := .zero }
  let name ← sysGetsockname o.m_socket
  assign fun o => match name with
    | .ok a => { o with m_stClientSockaddr := a }
    | .fail _ => o
  setSocketError .socketSuccess

/-- The `switch` of `Open`. -/
def connectByType (pAddr : String) (nPort : UInt16) : M Bool := do
  let o ← this
  if o.m_nSocketType = .socketTypeTcp then connectTCP pAddr nPort
  else if o.m_nSocketType = .socketTypeUdp then connectUDP pAddr nPort
  -- the other types are not connected, and no code is set
  else return false

/-- `Open`. -/
def openSocket (pAddr : Option String) (nPort : UInt16) : M Bool := do
  let o ← this
  if o.isSocketValid = false then
    setSocketError .socketInvalidSocket
    return false
  else
    match pAddr with
    | none =>
      setSocketError .socketInvalidAddress
      return false
    | some addr =>
      if nPort = 0 then
        setSocketError .socketInvalidPort
        return false
      else
        let bRetVal ← connectByType addr nPort
        when (bRetVal = true) storeEndpoints
        return bRetVal

end CActiveSocket

end ClSocket
