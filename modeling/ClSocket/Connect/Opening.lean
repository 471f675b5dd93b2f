import ClSocket.Connect.Selecting
import ClSocket.Model.ActiveSocket

/-!
# What `Open` does

`OpenCase` lists the ways `CActiveSocket::Open` can go, with the calls it makes, the addresses
and the error code it leaves: an argument is refused, the type has no connect, the name does
not resolve, the connection is not made, or it is made and both endpoints are stored.
`wp_openSocket` says that it goes one of these ways.

The connection itself is an `Attempt`: the answer of `connect` decides, except on a non-blocking
TCP socket whose `connect` is pending (`Pending`), where `Select` does.
-/

namespace ClSocket

open Prog

/-- The failures of `connect` that `ConnectTCP` waits for on a non-blocking socket. -/
def Pending (o : CSimpleSocket) (e : Errno) : Prop :=
  o.m_nSocketType = .socketTypeTcp ∧ o.isNonblocking = true ∧
    (e.1 = EWOULDBLOCK ∨ e.1 = EINPROGRESS)

/-- The result of the `Select` that is waited with, and its calls. -/
inductive Waited (s : State) : Bool → Trace → Prop where
  | no (timeout : Option Timeval) (r : Selected)
      (answer : s.os.script.select.head? = some (.ok r))
      (out : ¬ (Answer.ok r).leavesSet s.self.m_socket) :
      Waited s false [.selecting s.self.m_socket timeout (.ok r)]
  | asked (timeout : Option Timeval) (sel : Answer Selected) (error : Answer Int)
      (answer : s.os.script.select.head? = some sel)
      (query : s.os.script.getsockopt.head? = some error)
      (inSet : sel.leavesSet s.self.m_socket) :
      Waited s (error = .ok 0) [.selecting s.self.m_socket timeout sel,
        .getsockopt s.self.m_socket SOL_SOCKET SO_ERROR (some 4) error]

/-- The result of the attempt to connect to `dest`, and its calls. -/
inductive Attempt (s : State) (dest : SockaddrIn) : Bool → Trace → Prop where
  | connected (answer : s.os.script.connect.head? = some (.ok ())) :
      Attempt s dest true [.connect s.self.m_socket dest (.ok ())]
  | refused (e : Errno) (answer : s.os.script.connect.head? = some (.fail e))
      (final : ¬ Pending s.self e) : Attempt s dest false [.connect s.self.m_socket dest (.fail e)]
  | waited {r : Bool} {evs : Trace} (e : Errno)
      (answer : s.os.script.connect.head? = some (.fail e)) (pending : Pending s.self e)
      (wait : Waited s r evs) :
      Attempt s dest r (.connect s.self.m_socket dest (.fail e) :: evs)

/-- The arguments `Open` goes on with. -/
structure Accepted (o : CSimpleSocket) (pAddr : Option String) (nPort : UInt16) (addr : String) :
    Prop where
  valid : o.m_socket ≠ -1
  addr_eq : pAddr = some addr
  port : nPort ≠ 0

/-- The address a helper connects to. -/
def destination (s_addr : UInt32) (nPort : UInt16) : SockaddrIn := ⟨AF_INET, htons nPort, s_addr⟩

/-- The address a `getpeername` or `getsockname` leaves in a cleared member. -/
def endpoint : Answer SockaddrIn → SockaddrIn
  | .ok a => a
  | .fail _ => .zero

/-- The code of a name that does not resolve, the broadcast address included. -/
def unresolvedCode (s : State) : HostAnswer → CSocketError
  | .failed h_errno _ =>
    if h_errno = HOST_NOT_FOUND then .socketInvalidAddress else s.self.m_socketErrno
  | .found _ => translateErrno s.os.errno

/-- **The outcomes of `Open`.** -/
inductive OpenCase (s : State) (pAddr : Option String) (nPort : UInt16) : Bool → State → Prop where
  | invalid (t : State) (why : s.self.m_socket = -1 ∨ pAddr = none ∨ nPort = 0)
      (failed : t.self.m_socketErrno ≠ .socketSuccess)
      (socket : t.self.m_socket = s.self.m_socket)
      (server : t.self.m_stServerSockaddr = s.self.m_stServerSockaddr)
      (client : t.self.m_stClientSockaddr = s.self.m_stClientSockaddr)
      (trace_eq : t.trace = s.trace) : OpenCase s pAddr nPort false t
  | unsupported (addr : String) (accepted : Accepted s.self pAddr nPort addr)
      (type : s.self.m_nSocketType ≠ .socketTypeTcp ∧ s.self.m_nSocketType ≠ .socketTypeUdp) :
      OpenCase s pAddr nPort false s
  | unresolved (t : State) (addr : String) (accepted : Accepted s.self pAddr nPort addr)
      (type : s.self.m_nSocketType = .socketTypeTcp ∨ s.self.m_nSocketType = .socketTypeUdp)
      (h : HostAnswer) (answer : s.os.script.gethostbyname.head? = some h)
      (none : ∀ a, h = .found a → a = 0xffffffff)
      (code : t.self.m_socketErrno = unresolvedCode s h)
      (socket : t.self.m_socket = s.self.m_socket)
      (server : t.self.m_stServerSockaddr.sin_port = 0)
      (trace_eq : t.trace = s.trace ++ [.gethostbyname addr h]) : OpenCase s pAddr nPort false t
  | failed (t : State) (addr : String) (accepted : Accepted s.self pAddr nPort addr)
      (type : s.self.m_nSocketType = .socketTypeTcp ∨ s.self.m_nSocketType = .socketTypeUdp)
      (a : UInt32) (answer : s.os.script.gethostbyname.head? = some (.found a))
      (host : a ≠ 0xffffffff) (evs : Trace) (attempt : Attempt s (destination a nPort) false evs)
      (code : t.self.m_socketErrno ≠ .socketSuccess)
      (socket : t.self.m_socket = s.self.m_socket)
      (server : t.self.m_stServerSockaddr = destination a nPort)
      (client : t.self.m_stClientSockaddr = s.self.m_stClientSockaddr)
      (trace_eq : t.trace = s.trace ++ .gethostbyname addr (.found a) :: evs) :
      OpenCase s pAddr nPort false t
  | opened (t : State) (addr : String) (accepted : Accepted s.self pAddr nPort addr)
      (type : s.self.m_nSocketType = .socketTypeTcp ∨ s.self.m_nSocketType = .socketTypeUdp)
      (a : UInt32) (answer : s.os.script.gethostbyname.head? = some (.found a))
      (host : a ≠ 0xffffffff) (evs : Trace) (attempt : Attempt s (destination a nPort) true evs)
      (peer name : Answer SockaddrIn)
      (socket : t.self.m_socket = s.self.m_socket)
      (server : t.self.m_stServerSockaddr = endpoint peer)
      (client : t.self.m_stClientSockaddr = endpoint name)
      (trace_eq : t.trace = s.trace ++ .gethostbyname addr (.found a) :: evs ++
        [.getpeername s.self.m_socket peer, .getsockname s.self.m_socket name]) :
      OpenCase s pAddr nPort true t

namespace CActiveSocket

open CSimpleSocket

/-! ### The helpers -/

/-- What the steps before the connect leave alone. -/
structure ResolveFrame (s t : State) : Prop where
  socket : t.self.m_socket = s.self.m_socket
  type : t.self.m_nSocketType = s.self.m_nSocketType
  blocking : t.self.m_bIsBlocking = s.self.m_bIsBlocking
  client : t.self.m_stClientSockaddr = s.self.m_stClientSockaddr
  connect : t.os.script.connect = s.os.script.connect
  select : t.os.script.select = s.os.script.select
  getsockopt : t.os.script.getsockopt = s.os.script.getsockopt

/-- The outcomes of `resolve`. -/
inductive ResolveCase (s : State) (addr : String) (nPort : UInt16) : Bool → State → Prop where
  | unresolved (t : State) (h : HostAnswer) (frame : ResolveFrame s t)
      (answer : s.os.script.gethostbyname.head? = some h) (none : ∀ a, h = .found a → a = 0xffffffff)
      (code : t.self.m_socketErrno = unresolvedCode s h)
      (server : t.self.m_stServerSockaddr.sin_port = 0)
      (trace_eq : t.trace = s.trace ++ [.gethostbyname addr h]) : ResolveCase s addr nPort false t
  | resolved (t : State) (a : UInt32) (frame : ResolveFrame s t)
      (answer : s.os.script.gethostbyname.head? = some (.found a)) (host : a ≠ 0xffffffff)
      (server : t.self.m_stServerSockaddr = destination a nPort)
      (trace_eq : t.trace = s.trace ++ [.gethostbyname addr (.found a)]) :
      ResolveCase s addr nPort true t

theorem wp_resolve (addr : String) (nPort : UInt16) (s : State) :
    wp (resolve addr nPort) (ResolveCase s addr nPort) (fun _ _ => True) s := by
  rw [resolve, wp_bind, wp_assign, wp_bind, wp_sysGethostbyname]
  refine ⟨fun _ => trivial, fun a rest hq => ?found, fun h e rest hq => ?failed⟩
  -- of the resolver errors `HOST_NOT_FOUND` alone has a code
  case failed =>
    have hanswer : s.os.script.gethostbyname.head? = some (.failed h e) := by
      rw [State.upd_os] at hq
      rw [hq]
      rfl
    rw [wp_bind, wp_when]
    refine ⟨fun hnf => ?_, fun hnf => ?_⟩
    · exact .unresolved _ (.failed h e) ⟨rfl, rfl, rfl, rfl, rfl, rfl, rfl⟩ hanswer
        (fun a ha => by cases ha) (if_pos hnf).symm rfl rfl
    · exact .unresolved _ (.failed h e) ⟨rfl, rfl, rfl, rfl, rfl, rfl, rfl⟩ hanswer
        (fun a ha => by cases ha) (if_neg hnf).symm rfl rfl
  case found =>
    have hanswer : s.os.script.gethostbyname.head? = some (.found a) := by
      rw [State.upd_os] at hq
      rw [hq]
      rfl
    -- the broadcast address is taken for `INADDR_NONE`
    rw [wp_bind, wp_assign, wp_ite]
    refine ⟨fun hb => ?_, fun hne => ?_⟩
    · exact .unresolved _ (.found a) ⟨rfl, rfl, rfl, rfl, rfl, rfl, rfl⟩ hanswer
        (fun a' ha => by cases ha; exact hb) rfl rfl rfl
    · exact .resolved _ a ⟨rfl, rfl, rfl, rfl, rfl, rfl, rfl⟩ hanswer hne rfl rfl

/-- What the call of `connect` leaves alone. -/
structure ConnectFrame (s t : State) : Prop where
  socket : t.self.m_socket = s.self.m_socket
  type : t.self.m_nSocketType = s.self.m_nSocketType
  blocking : t.self.m_bIsBlocking = s.self.m_bIsBlocking
  server : t.self.m_stServerSockaddr = s.self.m_stServerSockaddr
  client : t.self.m_stClientSockaddr = s.self.m_stClientSockaddr
  select : t.os.script.select = s.os.script.select
  getsockopt : t.os.script.getsockopt = s.os.script.getsockopt

theorem wp_connectServer (s : State) :
    wp connectServer (fun res t => ConnectFrame s t ∧ s.os.script.connect.head? = some res ∧
      t.os.errno = res.errno s.os.errno ∧
      t.trace = s.trace ++ [.connect s.self.m_socket s.self.m_stServerSockaddr res])
      (fun _ _ => True) s := by
  rw [connectServer, wp_bind, wp_timerInitialize, wp_bind, wp_setStartTime, wp_bind, wp_this,
    sysConnect, wp_issue_iff]
  refine ⟨fun _ => trivial, fun res rest hq => ⟨⟨rfl, rfl, rfl, rfl, rfl, rfl, rfl⟩, ?_, rfl, rfl⟩⟩
  rw [State.upd_os, State.tick_script, State.upd_os] at hq
  rw [hq]
  rfl

/-- What a helper leaves behind once it knows where to connect to. -/
structure Attempted (s : State) (r : Bool) (t : State) : Prop where
  socket : t.self.m_socket = s.self.m_socket
  server : t.self.m_stServerSockaddr = s.self.m_stServerSockaddr
  client : t.self.m_stClientSockaddr = s.self.m_stClientSockaddr
  code : r = false → t.self.m_socketErrno ≠ .socketSuccess
  attempt : ∃ evs, Attempt s s.self.m_stServerSockaddr r evs ∧ t.trace = s.trace ++ evs

/-- The wait of a pending connection is that of `Select`. -/
theorem Attempted.of_select {s u t : State} {e : Errno} {r : Bool} {timeout : Option Timeval}
    (frame : ConnectFrame s u) (answer : s.os.script.connect.head? = some (.fail e))
    (pending : Pending s.self e) (hcode : u.self.m_socketErrno ≠ .socketSuccess)
    (htrace : u.trace = s.trace ++ [.connect s.self.m_socket s.self.m_stServerSockaddr (.fail e)])
    (h : SelectCase u timeout r t) : Attempted s r t := by
  have hwaited : ∀ {evs}, Waited s r evs → t.trace = u.trace ++ evs →
      ∃ evs, Attempt s s.self.m_stServerSockaddr r evs ∧ t.trace = s.trace ++ evs :=
    fun hw ht => ⟨_, .waited e answer pending hw, by rw [ht, htrace, List.append_assoc]; rfl⟩
  have hsocket := frame.socket
  cases h with
  -- no descriptor became ready in time, and the code says so
  | timedOut _ r hf ha hnone hc ht =>
    rw [frame.select] at ha
    rw [hsocket] at ht
    exact ⟨hf.socket.trans hsocket, hf.server.trans frame.server, hf.client.trans frame.client,
      fun _ => by rw [hc]; simp, hwaited (.no timeout r ha fun hin => hin.1 hnone) ht⟩
  | notReady _ r hf ha hsome hout hc ht =>
    rw [frame.select] at ha
    rw [hsocket] at ht hout
    exact ⟨hf.socket.trans hsocket, hf.server.trans frame.server, hf.client.trans frame.client,
      fun _ => by rw [hc]; exact hcode, hwaited (.no timeout r ha hout) ht⟩
  -- `SO_ERROR` decides
  | asked _ sel error hf ha hq hin hc ht =>
    rw [frame.select] at ha
    rw [frame.getsockopt] at hq
    rw [hsocket] at ht hin
    exact ⟨hf.socket.trans hsocket, hf.server.trans frame.server, hf.client.trans frame.client,
      fun hr => hc (of_decide_eq_false hr), hwaited (.asked timeout sel error ha hq hin) ht⟩

/-- `connect` and what `ConnectTCP` makes of it. -/
theorem wp_attemptTCP {s : State} (htcp : s.self.m_nSocketType = .socketTypeTcp) :
    wp (do
      let res ← connectServer
      let bRetVal ← awaitTCP res
      setEndTime
      return bRetVal) (Attempted s) (fun _ _ => True) s := by
  rw [wp_bind]
  refine wp_mono (fun res u h => ?_) (fun _ _ h => h) (wp_connectServer s)
  obtain ⟨hf, hanswer, herrno, htrace⟩ := h
  rw [wp_bind]
  unfold awaitTCP
  rw [wp_bind, wp_translateSocketError]
  cases res with
  | ok _ =>
    rw [wp_pure, wp_bind, wp_setEndTime, wp_pure]
    exact ⟨hf.socket, hf.server, hf.client, fun h => absurd h (by simp), _, .connected hanswer,
      htrace⟩
  | fail e =>
    -- `connect` failed: in progress on a non-blocking socket, it is waited for
    have he : u.os.errno = e.1 := herrno
    have hcode : translateErrno u.os.errno ≠ .socketSuccess := he ▸ translateErrno_ne_success e
    rw [wp_bind, wp_this, wp_ite]
    refine ⟨fun hwait => ?_, fun hno => ?_⟩
    · have hpending : Pending s.self e := by
        refine ⟨htcp, ?_, ?_⟩
        · have := hwait.1
          rwa [State.upd_self, isNonblocking, hf.blocking] at this
        · simpa [he] using hwait.2
      refine wp_mono (fun r t h => ?_) (fun _ _ h => h) (wp_select _ _ _)
      rw [wp_bind, wp_setEndTime, wp_pure]
      have hattempted := Attempted.of_select (s := s)
        (u := u.upd fun o => { o with m_socketErrno := translateErrno u.os.errno })
        ⟨hf.socket, hf.type, hf.blocking, hf.server, hf.client, hf.select, hf.getsockopt⟩
        hanswer hpending hcode htrace h
      exact ⟨hattempted.1, hattempted.2, hattempted.3, hattempted.4, hattempted.5⟩
    · have hfinal : ¬ Pending s.self e := by
        rintro ⟨-, hnb, hpend⟩
        refine hno ⟨?_, by simpa [he] using hpend⟩
        rwa [State.upd_self, isNonblocking, hf.blocking]
      rw [wp_pure, wp_bind, wp_setEndTime, wp_pure]
      exact ⟨hf.socket, hf.server, hf.client, fun _ => hcode, _, .refused e hanswer hfinal, htrace⟩

/-- `connect` and what `ConnectUDP` makes of it. -/
theorem wp_attemptUDP {s : State} (htcp : s.self.m_nSocketType ≠ .socketTypeTcp) :
    wp (do
      let res ← connectServer
      translateSocketError
      setEndTime
      return (res = .ok () : Bool)) (Attempted s) (fun _ _ => True) s := by
  rw [wp_bind]
  refine wp_mono (fun res u h => ?_) (fun _ _ h => h) (wp_connectServer s)
  obtain ⟨hf, hanswer, herrno, htrace⟩ := h
  rw [wp_bind, wp_translateSocketError, wp_bind, wp_setEndTime, wp_pure]
  cases res with
  | ok _ =>
    exact ⟨hf.socket, hf.server, hf.client, fun h => absurd h (by simp), _, .connected hanswer,
      htrace⟩
  | fail e =>
    have he : u.os.errno = e.1 := herrno
    exact ⟨hf.socket, hf.server, hf.client, fun _ => he ▸ translateErrno_ne_success e, _,
      .refused e hanswer fun hp => htcp hp.1, htrace⟩

/-- The outcomes of a helper. -/
inductive ConnectCase (s : State) (addr : String) (nPort : UInt16) : Bool → State → Prop where
  | unresolved (t : State) (h : ResolveCase s addr nPort false t) : ConnectCase s addr nPort false t
  | attempted (r : Bool) (u t : State) (h : ResolveCase s addr nPort true u)
      (attempted : Attempted u r t) : ConnectCase s addr nPort r t

/-- An attempt is made once the name is resolved, which leaves the type as it is. -/
theorem wp_onceResolved (addr : String) (nPort : UInt16) {attempt : M Bool} {s : State}
    (hattempt : ∀ u, u.self.m_nSocketType = s.self.m_nSocketType →
      wp attempt (Attempted u) (fun _ _ => True) u) :
    wp (do if ← resolve addr nPort then attempt else return false) (ConnectCase s addr nPort)
      (fun _ _ => True) s := by
  rw [wp_bind]
  refine wp_mono (fun b u h => ?_) (fun _ _ h => h) (wp_resolve addr nPort s)
  cases b with
  | false => exact .unresolved u h
  | true =>
    have htype : u.self.m_nSocketType = s.self.m_nSocketType := by
      cases h with
      | resolved _ a hf => exact hf.type
    exact wp_mono (fun r t ha => .attempted r u t h ha) (fun _ _ h => h) (hattempt u htype)

theorem wp_connectTCP (addr : String) (nPort : UInt16) {s : State}
    (htcp : s.self.m_nSocketType = .socketTypeTcp) :
    wp (connectTCP addr nPort) (ConnectCase s addr nPort) (fun _ _ => True) s :=
  wp_onceResolved addr nPort fun _ htype => wp_attemptTCP (htype.trans htcp)

theorem wp_connectUDP (addr : String) (nPort : UInt16) {s : State}
    (htcp : s.self.m_nSocketType ≠ .socketTypeTcp) :
    wp (connectUDP addr nPort) (ConnectCase s addr nPort) (fun _ _ => True) s :=
  wp_onceResolved addr nPort fun _ htype => wp_attemptUDP (by rwa [htype])

/-! ### `Open` -/

theorem wp_storeEndpoints (s : State) :
    wp storeEndpoints (fun _ t => ∃ peer name,
      t.self.m_socket = s.self.m_socket ∧ t.self.m_stServerSockaddr = endpoint peer ∧
      t.self.m_stClientSockaddr = endpoint name ∧ t.trace = s.trace ++
        [.getpeername s.self.m_socket peer, .getsockname s.self.m_socket name])
      (fun _ _ => True) s := by
  rw [storeEndpoints, wp_bind, wp_assign, wp_bind, wp_this, wp_bind, sysGetpeername, wp_issue_iff]
  refine ⟨fun _ => trivial, fun peer rest _ => ?_⟩
  rw [wp_bind, wp_assign, wp_bind, wp_assign, wp_bind, sysGetsockname, wp_issue_iff]
  refine ⟨fun _ => trivial, fun name rest' _ => ?_⟩
  rw [wp_bind, wp_assign, wp_setSocketError]
  refine ⟨peer, name, ?_⟩
  cases peer <;> cases name <;> simp [endpoint]

/-- The `switch` of `Open` on a type that connects. -/
theorem wp_connectByType (addr : String) (nPort : UInt16) {s : State}
    (htype : s.self.m_nSocketType = .socketTypeTcp ∨ s.self.m_nSocketType = .socketTypeUdp) :
    wp (connectByType addr nPort) (ConnectCase s addr nPort) (fun _ _ => True) s := by
  rw [connectByType, wp_bind, wp_this, wp_ite]
  refine ⟨fun htcp => wp_connectTCP addr nPort htcp, fun htcp => ?_⟩
  rw [wp_ite]
  exact ⟨fun _ => wp_connectUDP addr nPort htcp,
    fun hudp => absurd htype (not_or.mpr ⟨htcp, hudp⟩)⟩

/-- An attempt made after the name was resolved is one of the object `Open` was called on. -/
theorem Attempt.of_resolved {s u : State} {r : Bool} {dest : SockaddrIn} {evs : Trace}
    (hf : ResolveFrame s u) (h : Attempt u dest r evs) : Attempt s dest r evs := by
  have hpending : ∀ e, Pending u.self e ↔ Pending s.self e := fun e => by
    unfold Pending isNonblocking
    rw [hf.type, hf.blocking]
  -- the lookup has left the descriptor, the mode and the answers ahead as they were
  cases h with
  | connected answer =>
    rw [hf.socket]
    exact .connected (hf.connect ▸ answer)
  | refused e answer final =>
    rw [hf.socket]
    exact .refused e (hf.connect ▸ answer) fun hp => final ((hpending e).mpr hp)
  | waited e answer pending wait =>
    rw [hf.socket]
    refine .waited e (hf.connect ▸ answer) ((hpending e).mp pending) ?_
    cases wait with
    | no timeout r answer out =>
      rw [hf.socket] at out ⊢
      exact .no timeout r (hf.select ▸ answer) out
    | asked timeout sel error answer query inSet =>
      rw [hf.socket] at inSet ⊢
      exact .asked timeout sel error (hf.select ▸ answer) (hf.getsockopt ▸ query) inSet

/-- What a helper that returned `false` leaves is what `Open` leaves. -/
theorem OpenCase.of_failure {s t : State} {pAddr : Option String} {addr : String} {nPort : UInt16}
    (hacc : Accepted s.self pAddr nPort addr)
    (htype : s.self.m_nSocketType = .socketTypeTcp ∨ s.self.m_nSocketType = .socketTypeUdp)
    (h : ConnectCase s addr nPort false t) : OpenCase s pAddr nPort false t := by
  cases h with
  | unresolved _ h =>
    cases h with
    | unresolved _ h hf ha hn hc hs ht =>
      exact .unresolved t addr hacc htype h ha hn hc hf.socket hs ht
  | attempted _ u _ h hatt =>
    cases h with
    | resolved _ a hf ha hhost hserver htr =>
      obtain ⟨hsock, hsrv, hcl, hcode, evs, hattempt, ht⟩ := hatt
      rw [hserver] at hattempt hsrv
      refine .failed t addr hacc htype a ha hhost evs (Attempt.of_resolved hf hattempt) (hcode rfl)
        (hsock.trans hf.socket) hsrv (hcl.trans hf.client) ?_
      rw [ht, htr]
      simp

/-- A helper that returned `true` and the endpoints stored after it. -/
theorem OpenCase.of_success {s t u : State} {pAddr : Option String} {addr : String}
    {nPort : UInt16} {peer name : Answer SockaddrIn} (hacc : Accepted s.self pAddr nPort addr)
    (htype : s.self.m_nSocketType = .socketTypeTcp ∨ s.self.m_nSocketType = .socketTypeUdp)
    (h : ConnectCase s addr nPort true u) (hsock : t.self.m_socket = u.self.m_socket)
    (hserver : t.self.m_stServerSockaddr = endpoint peer)
    (hclient : t.self.m_stClientSockaddr = endpoint name)
    (htrace : t.trace = u.trace ++
      [.getpeername u.self.m_socket peer, .getsockname u.self.m_socket name]) :
    OpenCase s pAddr nPort true t := by
  cases h with
  | attempted _ v _ h hatt =>
    cases h with
    | resolved _ a hf ha hhost hdest htr =>
      obtain ⟨hs, -, -, -, evs, hattempt, ht⟩ := hatt
      rw [hdest] at hattempt
      have hu : u.self.m_socket = s.self.m_socket := hs.trans hf.socket
      refine .opened t addr hacc htype a ha hhost evs (Attempt.of_resolved hf hattempt) peer name
        (hsock.trans hu) hserver hclient ?_
      rw [htrace, ht, htr, hu]
      simp

/-- **`Open`** goes one of these ways. -/
theorem wp_openSocket (pAddr : Option String) (nPort : UInt16) (s : State) :
    wp (openSocket pAddr nPort) (OpenCase s pAddr nPort) (fun _ _ => True) s := by
  have hinvalid : ∀ {err}, (s.self.m_socket = -1 ∨ pAddr = none ∨ nPort = 0) → err ≠
      .socketSuccess → OpenCase s pAddr nPort false
        (s.upd fun o => { o with m_socketErrno := err }) := fun hwhy herr =>
    .invalid _ hwhy herr rfl rfl rfl rfl
  unfold openSocket
  rw [wp_bind, wp_this, wp_ite]
  refine ⟨fun hinv => ?_, fun hvalid => ?_⟩
  · rw [wp_bind, wp_setSocketError, wp_pure]
    refine hinvalid (Or.inl ?_) (by simp)
    simpa [isSocketValid] using hinv
  have hvalid : s.self.m_socket ≠ -1 := by simpa [isSocketValid] using hvalid
  cases pAddr with
  | none =>
    rw [wp_bind, wp_setSocketError, wp_pure]
    exact hinvalid (Or.inr (Or.inl rfl)) (by simp)
  | some addr =>
    rw [wp_ite]
    refine ⟨fun hport => ?_, fun hport => ?_⟩
    · rw [wp_bind, wp_setSocketError, wp_pure]
      exact hinvalid (Or.inr (Or.inr hport)) (by simp)
    have hacc : Accepted s.self (some addr) nPort addr := ⟨hvalid, rfl, hport⟩
    -- the `switch` has no branch for the other types, and returns `false` for them
    by_cases htype : s.self.m_nSocketType = .socketTypeTcp ∨ s.self.m_nSocketType = .socketTypeUdp
    · rw [wp_bind]
      refine wp_mono (fun r u h => ?_) (fun _ _ h => h) (wp_connectByType addr nPort htype)
      rw [wp_bind, wp_when]
      refine ⟨fun htrue => ?_, fun hfalse => ?_⟩
      · subst htrue
        refine wp_mono (fun _ t ht => ?_) (fun _ _ h => h) (wp_storeEndpoints u)
        obtain ⟨peer, name, hsock, hserver, hclient, htrace⟩ := ht
        exact OpenCase.of_success hacc htype h hsock hserver hclient htrace
      · obtain rfl : r = false := by simpa using hfalse
        exact OpenCase.of_failure hacc htype h
    · rw [not_or] at htype
      rw [wp_bind, connectByType, wp_bind, wp_this, if_neg htype.1, if_neg htype.2, wp_pure,
        wp_bind, wp_when]
      exact ⟨fun h => absurd h (by simp), fun _ => .unsupported addr hacc htype⟩

end CActiveSocket

end ClSocket
