import ClSocket.Connect.Accepting
import ClSocket.Connect.Opening

/-!
# The endpoints of a connection

`Open` and `Accept` fill the same two members in ways of their own. `Open` asks for the peer
and the name of the connected descriptor. `Accept` copies the address `accept` gave it, and asks
for the name of the listening descriptor, which is the address that one is bound to; the
getters turn the members into a string and a port.

`endpoints_iff` says when all eight getters tell the connection's endpoints: the listener is bound
to the very address the connection came in on, not to the wildcard, and the two bytes of the
client's port are equal, because `GetClientPort` does not swap them.
-/

namespace ClSocket

open Prog CSimpleSocket CActiveSocket CPassiveSocket

/-- An IPv4 address, and a port in host byte order. -/
structure Endpoint where
  addr : UInt32
  port : UInt16

/-- The endpoint as the system stores it. -/
def Endpoint.sockaddr (e : Endpoint) : SockaddrIn := ⟨AF_INET, htons e.port, e.addr⟩

/-- A TCP connection. -/
structure Connection where
  client : Endpoint
  server : Endpoint

namespace Connection

variable (c : Connection)

/-- What the system tells the client of its connected descriptor. -/
structure TellsClient (t : Trace) : Prop where
  peer : ∀ fd res, Event.getpeername fd res ∈ t → res = .ok c.server.sockaddr
  name : ∀ fd res, Event.getsockname fd res ∈ t → res = .ok c.client.sockaddr

/-- What it tells the server: the client's address with the connection, no peer of the listening
descriptor, and as its name the address `bound` that it is bound to. -/
structure TellsListener (bound : UInt32) (t : Trace) : Prop where
  accepted : ∀ lfd fd peer, Event.accept lfd (.ok (fd, peer)) ∈ t → peer = c.client.sockaddr
  peer : ∀ fd res, Event.getpeername fd res ∈ t → ∃ e, res = .fail e ∧ e.1 = ENOTCONN
  name : ∀ fd res, Event.getsockname fd res ∈ t →
    res = .ok (Endpoint.sockaddr ⟨bound, c.server.port⟩)

/-- **The getters of the object tell the endpoints** of the connection. -/
structure ToldBy (o : CSimpleSocket) : Prop where
  clientAddr : o.getClientAddr = inet_ntoa c.client.addr
  clientPort : o.getClientPort = c.client.port
  serverAddr : o.getServerAddr = inet_ntoa c.server.addr
  serverPort : o.getServerPort = c.server.port

variable {c}

/-- What an object has to store for that. -/
theorem toldBy_iff {o : CSimpleSocket} {bound : UInt32}
    (hclient : o.m_stClientSockaddr = c.client.sockaddr)
    (hserver : o.m_stServerSockaddr = Endpoint.sockaddr ⟨bound, c.server.port⟩) :
    c.ToldBy o ↔ htons c.client.port = c.client.port ∧ bound = c.server.addr := by
  constructor
  · rintro ⟨-, hport, haddr, -⟩
    rw [getClientPort, hclient] at hport
    rw [getServerAddr, hserver, inet_ntoa_inj] at haddr
    exact ⟨hport, haddr⟩
  · rintro ⟨hport, haddr⟩
    refine ⟨?_, ?_, ?_, ?_⟩
    · rw [getClientAddr, hclient]
      rfl
    · rw [getClientPort, hclient]
      exact hport
    · rw [getServerAddr, hserver, inet_ntoa_inj]
      exact haddr
    · rw [getServerPort, hserver]
      exact htons_htons c.server.port

/-- The object that `Open` connected. -/
theorem of_open {s t : State} {pAddr : Option String} {nPort : UInt16}
    (h : OpenCase s pAddr nPort true t) (tells : c.TellsClient t.trace) :
    t.self.m_stClientSockaddr = c.client.sockaddr ∧
      t.self.m_stServerSockaddr = c.server.sockaddr := by
  cases h with
  | opened _ addr _ _ a _ _ evs _ peer name _ hserver hclient htrace =>
    have hpeer := tells.peer s.self.m_socket peer (by rw [htrace]; simp)
    have hname := tells.name s.self.m_socket name (by rw [htrace]; simp)
    rw [hserver, hclient, hpeer, hname]
    exact ⟨rfl, rfl⟩

/-- The object that `Accept` returned. -/
theorem of_accept {l raw client : CSimpleSocket} {os : Os} {t : State} {bound : UInt32}
    (hrun : call (accept raw) l os = .done (some client) t)
    (tells : c.TellsListener bound t.trace) :
    client.m_stClientSockaddr = c.client.sockaddr ∧
      client.m_stServerSockaddr = Endpoint.sockaddr ⟨bound, c.server.port⟩ := by
  obtain ⟨-, fails, fd, peer, name', name, rfl, htrace⟩ := wp_call (wp_accept raw _) hrun
  have hpeer := tells.accepted l.m_socket fd peer (by rw [htrace]; simp [acceptance])
  have hname := tells.name l.m_socket name (by rw [htrace]; simp [acceptance])
  rw [hpeer, hname]
  exact ⟨rfl, rfl⟩

end Connection

/-- **Both ends tell the endpoints of their connection** exactly when the listener is bound to the
server's own address and the client's port reads the same in either byte order. -/
theorem endpoints_iff (c : Connection) (bound : UInt32) {o l raw client : CSimpleSocket}
    {os os' : Os} {pAddr : Option String} {nPort : UInt16} {t t' : State}
    (hopen : call (openSocket pAddr nPort) o os = .done true t) (htold : c.TellsClient t.trace)
    (haccept : call (accept raw) l os' = .done (some client) t')
    (htold' : c.TellsListener bound t'.trace) :
    c.ToldBy t.self ∧ c.ToldBy client ↔
      htons c.client.port = c.client.port ∧ bound = c.server.addr := by
  obtain ⟨hclient, hserver⟩ := Connection.of_open (wp_call (wp_openSocket pAddr nPort _) hopen) htold
  obtain ⟨hclient', hserver'⟩ := Connection.of_accept haccept htold'
  rw [Connection.toldBy_iff hclient' hserver', Connection.toldBy_iff hclient hserver]
  exact ⟨fun h => h.2, fun h => ⟨⟨h.1, rfl⟩, h⟩⟩

/-! ### Two connections -/

namespace Connection

variable (c : Connection) (bound : UInt32)

/-- The answers to an `Open` that makes the connection. -/
def opening : Os := .idle {
  gethostbyname := [.found c.server.addr], connect := [.ok ()],
  getpeername := [.ok c.server.sockaddr], getsockname := [.ok c.client.sockaddr] }

/-- The end of that `Open`, of a TCP object with the descriptor 3. -/
def opened : State :=
  (call (openSocket (some "host") c.server.port) (.holding .socketTypeTcp 3) c.opening).state

/-- The answers to the `Accept` of a listener bound to `bound`. -/
def accepting : Os := .idle {
  accept := [.ok (4, c.client.sockaddr)], getpeername := [.fail ⟨ENOTCONN, by decide⟩],
  getsockname := [.ok (Endpoint.sockaddr ⟨bound, c.server.port⟩)] }

/-- The end of that `Accept`, of a listener with the descriptor 3. -/
def answered : State :=
  (call (accept .zeroed) (.holding .socketTypeTcp 3) (c.accepting bound)).state

theorem tellsClient_opened (htrace : c.opened.trace =
    [.gethostbyname "host" (.found c.server.addr), .connect 3 c.server.sockaddr (.ok ()),
      .getpeername 3 (.ok c.server.sockaddr), .getsockname 3 (.ok c.client.sockaddr)]) :
    c.TellsClient c.opened.trace := by
  rw [htrace]
  exact ⟨by simp, by simp⟩

theorem accept_answered : ∃ client, call (accept .zeroed) (.holding .socketTypeTcp 3)
    (c.accepting bound) = .done (some client) (c.answered bound) := ⟨_, rfl⟩

theorem tellsListener_answered : c.TellsListener bound (c.answered bound).trace := by
  have htrace : (c.answered bound).trace = [.accept 3 (.ok (4, c.client.sockaddr)),
      .getpeername 3 (.fail ⟨ENOTCONN, by decide⟩),
      .getsockname 3 (.ok (Endpoint.sockaddr ⟨bound, c.server.port⟩))] := rfl
  rw [htrace]
  refine ⟨by simp, fun fd res h => ?_, by simp⟩
  obtain ⟨-, rfl⟩ : fd = 3 ∧ res = .fail ⟨ENOTCONN, by decide⟩ := by simpa using h
  exact ⟨_, rfl, rfl⟩

end Connection

/-- A connection from a port whose two bytes are equal. -/
def palindrome : Connection := ⟨⟨16777343, 257⟩, ⟨33554559, 80⟩⟩

/-- A listener that is bound to the server's address. -/
theorem endpoints_palindrome : ∃ client,
    call (openSocket (some "host") 80) (.holding .socketTypeTcp 3) palindrome.opening =
        .done true palindrome.opened ∧
      call (accept .zeroed) (.holding .socketTypeTcp 3)
          (palindrome.accepting palindrome.server.addr) =
        .done (some client) (palindrome.answered palindrome.server.addr) ∧
      palindrome.ToldBy palindrome.opened.self ∧ palindrome.ToldBy client := by
  obtain ⟨client, haccept⟩ := palindrome.accept_answered palindrome.server.addr
  have hopen : call (openSocket (some "host") 80) (.holding .socketTypeTcp 3) palindrome.opening =
      .done true palindrome.opened := rfl
  exact ⟨client, hopen, haccept, (endpoints_iff palindrome palindrome.server.addr hopen
    (palindrome.tellsClient_opened rfl) haccept (palindrome.tellsListener_answered _)).mpr
      ⟨by decide, rfl⟩⟩

/-- A connection from the port 1000. -/
def ordinary : Connection := ⟨⟨16777343, 1000⟩, ⟨33554559, 80⟩⟩

/-- A listener that is bound to the wildcard: neither end tells the client's port, and the object
`Accept` returns has no server address. -/
theorem endpoints_wildcard : ∃ client,
    call (openSocket (some "host") 80) (.holding .socketTypeTcp 3) ordinary.opening =
        .done true ordinary.opened ∧
      ordinary.TellsClient ordinary.opened.trace ∧
      call (accept .zeroed) (.holding .socketTypeTcp 3) (ordinary.accepting INADDR_ANY) =
        .done (some client) (ordinary.answered INADDR_ANY) ∧
      ordinary.TellsListener INADDR_ANY (ordinary.answered INADDR_ANY).trace ∧
      ordinary.opened.self.getClientPort = 59395 ∧ client.getClientPort = 59395 ∧
      client.getServerAddr ≠ ordinary.opened.self.getServerAddr ∧
      ¬ (ordinary.ToldBy ordinary.opened.self ∧ ordinary.ToldBy client) := by
  refine ⟨_, rfl, ordinary.tellsClient_opened rfl, rfl, ordinary.tellsListener_answered _, by decide,
    by decide, ?_, fun h => ?_⟩
  · intro haddr
    exact absurd (inet_ntoa_inj.mp haddr) (by decide)
  · exact absurd h.1.clientPort (by decide)

end ClSocket
