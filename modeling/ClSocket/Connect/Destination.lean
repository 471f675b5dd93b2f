import ClSocket.Connect.Opening
import ClSocket.Descriptor.Effect
import ClSocket.Framework.Transition
import ClSocket.Transfer.Sending

/-!
# Where a datagram goes

`Send` on a UDP object passes `m_stServerSockaddr` to `sendto`. `Open` may be called again and
again to choose the destination, and it keeps its work in that very member: `ConnectUDP` clears
it before the name is looked up and has overwritten it before `connect` says yes or no. So an
`Open` that fails can leave the object aimed elsewhere.

`undisturbed_iff` says on which runs after a successful `Open` this cannot be seen: every
`Open` whose arguments pass the checks resolves the name, and then either connects or was
aimed where the object is aimed already (`OpenKeeps`). On all others some failed `Open` changes
the endpoints.
-/

namespace ClSocket

open Prog CSimpleSocket CActiveSocket

/-- A UDP object in use: the address and port of its last `Open` that returned `true`. -/
structure Associated where
  self : CSimpleSocket
  opened : SockaddrIn

/-- A call that returned, with the answers it met and the calls it made. -/
structure Use where
  op : Op
  os : Os
  ret : Option Ret
  trace : Trace

/-- What `Open` has resolved its arguments to. -/
def resolved (os : Os) (nPort : UInt16) : SockaddrIn :=
  match os.script.gethostbyname.head? with
  | some (.found a) => destination a nPort
  | _ => .zero

/-- Of a connected descriptor the system tells the address it is connected to, and a name. -/
structure TellsPeer (dest : SockaddrIn) (t : Trace) : Prop where
  peer : ∀ fd res, Event.getpeername fd res ∈ t → res = .ok dest
  name : ∀ fd res, Event.getsockname fd res ∈ t → ∃ a, res = .ok a

/-- The uses of an active object: `Open`, and every other operation. `Receive` may throw. -/
inductive Uses : Associated → Use → Associated → Prop where
  | opened {o : CSimpleSocket} {d : SockaddrIn} {pAddr : Option String} {nPort : UInt16} {os : Os}
      {r : Bool} {t : State} (hrun : call (openSocket pAddr nPort) o os = .done r t)
      (tells : TellsPeer (resolved os nPort) t.trace) :
      Uses ⟨o, d⟩ ⟨.openSocket pAddr nPort, os, some (.bool r), t.trace⟩
        ⟨t.self, if r = true then resolved os nPort else d⟩
  | other {o : CSimpleSocket} {d : SockaddrIn} {op : Op} {os : Os} {ret : Ret} {t : State}
      (has : op.ofClass .active = true) (hopen : ∀ pAddr nPort, op ≠ .openSocket pAddr nPort)
      (hrun : call (op.run .active) o os = .done ret t) :
      Uses ⟨o, d⟩ ⟨op, os, some ret, t.trace⟩ ⟨t.self, d⟩
  | threw {o : CSimpleSocket} {d : SockaddrIn} {nMaxBytes : Int} {pBuffer : Option Bytes}
      {os : Os} {t : State} (hrun : call (receive nMaxBytes pBuffer) o os = .stop .threw t) :
      Uses ⟨o, d⟩ ⟨.receive nMaxBytes pBuffer, os, none, t.trace⟩ ⟨t.self, d⟩

/-- **The property**: `Send` aims where the last successful `Open` did, and an `Open` that
fails leaves both endpoints as they were. -/
structure Undisturbed (s : Associated) (u : Use) (s' : Associated) : Prop where
  aimed : ∀ buf n, u.op = .send buf n → ∀ fd data dest res,
    Event.sendto fd data dest res ∈ u.trace → dest = s.opened
  kept : ∀ pAddr nPort, u.op = .openSocket pAddr nPort → u.ret = some (.bool false) →
    s'.self.m_stServerSockaddr = s.self.m_stServerSockaddr ∧
      s'.self.m_stClientSockaddr = s.self.m_stClientSockaddr

/-- **The condition**: an `Open` that passes the checks of its arguments resolves the name, and
it connects unless the object is aimed there already. -/
def OpenKeeps (s : Associated) (u : Use) : Prop :=
  ∀ pAddr nPort, u.op = .openSocket pAddr nPort →
    s.self.m_socket = -1 ∨ pAddr = none ∨ nPort = 0 ∨
      ∃ a, u.os.script.gethostbyname.head? = some (.found a) ∧ a ≠ 0xffffffff ∧
        (u.os.script.connect.head? = some (.ok ()) ∨ destination a nPort = s.opened)

/-- The object is aimed where its last successful `Open` went. -/
structure Aimed (s : Associated) : Prop where
  udp : s.self.m_nSocketType = .socketTypeUdp
  server : s.self.m_stServerSockaddr = s.opened
  port : s.opened.sin_port ≠ 0

/-! ### Sending -/

/-- `Send` on a UDP object passes its server address to every `sendto`. -/
theorem wp_send_dest (buf : Option Bytes) (n : ℕ) {s : State}
    (hudp : s.self.m_nSocketType = .socketTypeUdp) (hs : s.trace = []) :
    wp (send buf n) (fun _ t => ∀ fd data dest res, Event.sendto fd data dest res ∈ t.trace →
      dest = s.self.m_stServerSockaddr) (fun _ _ => True) s := by
  -- the loop runs, and its calls are those of a datagram; or nothing is sent
  by_cases hgo : s.self.isSocketValid = true ∧ 0 < n ∧ buf ≠ none
  · obtain ⟨hvalid, hn, hbuf⟩ := hgo
    obtain ⟨bytes, rfl⟩ := Option.ne_none_iff_exists'.mp hbuf
    refine wp_mono (fun r t h => ?_) (fun _ _ _ => trivial)
      (wp_send bytes n hvalid (Or.inr hudp) hn)
    obtain ⟨-, hsent, -⟩ := h
    intro fd data dest res hmem
    rw [hsent.trace_eq, hs, hudp] at hmem
    obtain ⟨a, -, heq⟩ := List.mem_map.mp hmem
    simp only [SendCall.ofType, SendCall.datagram] at heq
    cases heq
    rfl
  · have hno : ∀ u : State, u.trace = [] → wp (when (s.self.isSocketValid = true ∧ 0 < n ∧
        buf ≠ none) (sendTimed Script.sendto (sendtoRound ((buf.getD []).take n))))
        (fun _ t => t.trace = []) (fun _ _ => True) u := fun u hu => by
      rw [wp_when]
      exact ⟨fun h => absurd h hgo, fun _ => hu⟩
    simp only [send, wp_bind, wp_setSocketError, wp_assign, wp_this, wp_ite, wp_pure, State.upd_self]
    refine ⟨fun htcp => ?_, fun _ => ⟨fun _ => ?_, fun h => absurd hudp h⟩⟩
    · rw [hudp] at htcp
      cases htcp
    · refine wp_mono (fun _ t ht => ?_) (fun _ _ h => h) (hno _ hs)
      simp [ht]

/-! ### The other operations -/

theorem wp_initializeSocket_aim (s : State) :
    wp initializeSocket (fun _ t => t.self.aim = s.self.aim) (fun _ _ => True) s := by
  simp [initializeSocket, sysSocket, aim]

theorem wp_closeSocket_aim (s : State) :
    wp closeSocket (fun _ t => t.self.aim = s.self.aim) (fun _ _ => True) s := by
  by_cases h : s.self.m_socket = -1
  · simp [closeSocket, h, aim]
  · simp [closeSocket, closeHandle, sysClose, h, aim]

/-- Only `Open` aims an active object. -/
theorem aim_of_call {op : Op} {o : CSimpleSocket} {os : Os} {ret : Ret} {t : State}
    (has : op.ofClass .active = true) (hopen : ∀ pAddr nPort, op ≠ .openSocket pAddr nPort)
    (hrun : call (op.run .active) o os = .done ret t) : t.self.aim = o.aim := by
  by_cases hq : op.isQuiet = true
  · exact (wp_call (quiet_run .active hq _) hrun).aim_eq
  cases op with
  | initializeSocket =>
    obtain ⟨r, hr, rfl⟩ := call_done hrun
    exact wp_call (wp_initializeSocket_aim _) hr
  | close =>
    obtain ⟨r, hr, rfl⟩ := call_done hrun
    exact wp_call (wp_closeSocket_aim _) hr
  | receive n buf =>
    obtain ⟨r, hr, rfl⟩ := call_done hrun
    exact (wp_call (holds_receive n buf _) hr).2.2.1
  | openSocket addr port => exact absurd rfl (hopen addr port)
  -- a `CActiveSocket` has none of these
  | listen => cases has
  | bindMulticast => cases has
  | accept => cases has
  | _ => exact absurd rfl hq

/-! ### One use -/

/-- Of a UDP socket `connect` alone decides. -/
theorem Attempt.of_udp {s : State} {dest : SockaddrIn} {r : Bool} {evs : Trace}
    (h : Attempt s dest r evs) (hudp : s.self.m_nSocketType = .socketTypeUdp) :
    r = true ↔ s.os.script.connect.head? = some (.ok ()) := by
  cases h with
  | connected answer => simp [answer]
  | refused e answer => simp [answer]
  | waited e answer pending =>
    have htcp := pending.1
    rw [hudp] at htcp
    cases htcp

/-- **`Open` keeps the aim** under the condition, and only then. -/
theorem OpenCase.kept_iff {s : Associated} {pAddr : Option String} {nPort : UInt16}
    {os : Os} {r : Bool} {t : State} (h : OpenCase ⟨s.self, os, []⟩ pAddr nPort r t)
    (hs : Aimed s) : (r = false → t.self.m_stServerSockaddr = s.self.m_stServerSockaddr ∧
      t.self.m_stClientSockaddr = s.self.m_stClientSockaddr) ↔
    s.self.m_socket = -1 ∨ pAddr = none ∨ nPort = 0 ∨
      ∃ a, os.script.gethostbyname.head? = some (.found a) ∧ a ≠ 0xffffffff ∧
        (os.script.connect.head? = some (.ok ()) ∨ destination a nPort = s.opened) := by
  -- past the checks only the name and the connection are left to go wrong
  have hpast : ∀ {addr P}, Accepted s.self pAddr nPort addr →
      ((s.self.m_socket = -1 ∨ pAddr = none ∨ nPort = 0 ∨ P) ↔ P) := by
    intro addr P hacc
    simp [hacc.valid, hacc.addr_eq, hacc.port]
  cases h with
  | invalid _ why _ _ hserver hclient =>
    refine iff_of_true (fun _ => ⟨hserver, hclient⟩) ?_
    rcases why with h | h | h
    · exact Or.inl h
    · exact Or.inr (Or.inl h)
    · exact Or.inr (Or.inr (Or.inl h))
  | unsupported _ _ htype => exact absurd hs.udp htype.2
  -- the server address has been cleared, and its port is zero
  | unresolved _ addr hacc _ h answer none _ _ hserver =>
    rw [hpast hacc]
    refine iff_of_false (fun h => hs.port ?_) ?_
    · rw [← hs.server, ← (h rfl).1, hserver]
    · rintro ⟨a, ha, hne, -⟩
      rw [answer] at ha
      exact hne (none a (Option.some.inj ha))
  -- the server address is where the attempt went, and `connect` failed
  | failed _ addr hacc _ a answer host evs attempt _ _ hserver hclient =>
    rw [hpast hacc]
    have hno : ¬ os.script.connect.head? = some (.ok ()) := fun hok =>
      absurd ((attempt.of_udp hs.udp).mpr hok) (by simp)
    rw [hserver, hclient, hs.server]
    constructor
    · intro h
      exact ⟨a, answer, host, Or.inr (h rfl).1⟩
    · rintro ⟨a', ha', -, hok | hdest⟩ -
      · exact absurd hok hno
      · rw [answer] at ha'
        cases ha'
        exact ⟨hdest, rfl⟩
  | opened _ addr hacc _ a answer host evs attempt =>
    rw [hpast hacc]
    refine iff_of_true (fun h => by cases h) ?_
    exact ⟨a, answer, host, Or.inl ((attempt.of_udp hs.udp).mp rfl)⟩

/-- After an `Open` that returned `true` the object is aimed where it went. -/
theorem OpenCase.aimed {s t : State} {pAddr : Option String} {nPort : UInt16}
    (h : OpenCase s pAddr nPort true t) (htype : t.self.m_nSocketType = .socketTypeUdp)
    (tells : TellsPeer (resolved s.os nPort) t.trace) : Aimed ⟨t.self, resolved s.os nPort⟩ := by
  cases h with
  | opened _ addr hacc _ a answer host evs attempt peer name _ hserver _ htrace =>
    have hdest : resolved s.os nPort = destination a nPort := by
      unfold resolved
      rw [answer]
    -- `Open` stores what `getpeername` tells, which the kernel makes the destination
    have hpeer : peer = .ok (resolved s.os nPort) :=
      tells.peer s.self.m_socket peer (by rw [htrace]; simp)
    refine ⟨htype, ?_, ?_⟩
    · rw [hserver, hpeer]
      rfl
    · simpa [hdest, destination] using hacc.port

/-- What is not an `Open` has only its datagrams to answer for. -/
theorem undisturbed_iff_of_ne_open {s s' : Associated} {u : Use}
    (hopen : ∀ pAddr nPort, u.op ≠ .openSocket pAddr nPort)
    (haimed : ∀ buf n, u.op = .send buf n → ∀ fd data dest res,
      Event.sendto fd data dest res ∈ u.trace → dest = s.opened) :
    Undisturbed s u s' ↔ OpenKeeps s u :=
  iff_of_true ⟨haimed, fun _ _ hop => absurd hop (hopen _ _)⟩ fun _ _ hop => absurd hop (hopen _ _)

/-- One use is undisturbed exactly under the condition. -/
theorem Uses.undisturbed_iff_keeps {s s' : Associated} {u : Use} (h : Uses s u s') (hs : Aimed s) :
    Undisturbed s u s' ↔ OpenKeeps s u := by
  cases h with
  | @opened o d pAddr nPort os r t hrun tells =>
    have hcase := wp_call (wp_openSocket pAddr nPort _) hrun
    have hiff := hcase.kept_iff hs
    constructor
    -- a use that is an `Open` has no datagrams to answer for
    · intro hu pAddr' nPort' hop
      cases hop
      refine hiff.mp fun hr => hu.kept pAddr nPort rfl ?_
      rw [hr]
    · intro hc
      refine ⟨fun buf n hop => ?_, fun pAddr' nPort' hop hret => ?_⟩
      · cases hop
      · cases hop
        cases hret
        exact hiff.mpr (hc pAddr nPort rfl) rfl
  | threw hrun => exact undisturbed_iff_of_ne_open (by simp) (by simp)
  | @other o d op os ret t has hopen hrun =>
    refine undisturbed_iff_of_ne_open hopen fun buf n hop => ?_
    have hop : op = .send buf n := hop
    subst hop
    obtain ⟨r, hr, rfl⟩ := call_done hrun
    intro fd data dest res hmem
    exact (wp_call (wp_send_dest buf n hs.udp rfl) hr fd data dest res hmem).trans hs.server

/-- A use that meets the condition keeps the aim. -/
theorem Uses.aimed {s s' : Associated} {u : Use} (h : Uses s u s') (hs : Aimed s)
    (hc : OpenKeeps s u) : Aimed s' := by
  have haim : ∀ {o' : CSimpleSocket}, o'.aim = s.self.aim → Aimed ⟨o', s.opened⟩ := by
    intro o' heq
    obtain ⟨htype, hserver⟩ := Prod.mk.inj heq
    exact ⟨htype.trans hs.udp, hserver.trans hs.server, hs.port⟩
  cases h with
  | @opened o d pAddr nPort os r t hrun tells =>
    have hcase := wp_call (wp_openSocket pAddr nPort _) hrun
    have htype := (wp_call (steady_openSocket pAddr nPort _) hrun).type.trans hs.udp
    cases r with
    -- an `Open` that succeeds aims the object anew, one that fails keeps the aim by the condition
    | true => exact hcase.aimed htype tells
    | false =>
      have hkept := (hcase.kept_iff hs).mpr (hc pAddr nPort rfl) rfl
      exact ⟨htype, hkept.1.trans hs.server, hs.port⟩
  | threw hrun => exact haim (wp_stopped (holds_receive _ _ _) hrun).2.2.1
  | other has hopen hrun => exact haim (aim_of_call has hopen hrun)

/-- **A UDP object is undisturbed** on a run after a successful `Open` exactly when every `Open`
of the run keeps the aim. -/
theorem undisturbed_iff {o : CSimpleSocket} {pAddr : Option String} {nPort : UInt16} {os : Os}
    {t : State} {steps : List (Taken Associated Use)} {s : Associated}
    (hudp : o.m_nSocketType = .socketTypeUdp)
    (hopened : call (openSocket pAddr nPort) o os = .done true t)
    (tells : TellsPeer (resolved os nPort) t.trace)
    (hrun : Run Uses ⟨t.self, resolved os nPort⟩ steps s) :
    (∀ x ∈ steps, Undisturbed x.pre x.label x.post) ↔ ∀ x ∈ steps, OpenKeeps x.pre x.label := by
  have hcase := wp_call (wp_openSocket pAddr nPort _) hopened
  have htype := (wp_call (steady_openSocket pAddr nPort _) hopened).type.trans hudp
  exact Run.forall_iff Aimed Undisturbed (fun s u _ => OpenKeeps s u)
    (fun _ _ _ h hs => h.undisturbed_iff_keeps hs) (fun _ _ _ h hs hc => h.aimed hs hc) hrun
    (hcase.aimed htype tells)

/-! ### An association and two failed `Open`s after it -/

/-- The answers to an `Open` that succeeds. -/
def associating : Os := .idle {
  gethostbyname := [.found 5], connect := [.ok ()],
  getpeername := [.ok ⟨AF_INET, htons 80, 5⟩], getsockname := [.ok ⟨AF_INET, htons 999, 6⟩] }

/-- A UDP object after it. -/
def associated : State :=
  (call (openSocket (some "host") 80) (.holding .socketTypeUdp 3) associating).state

/-- The answers to an `Open` whose `connect` fails. -/
def unreachable : Os := .idle {
  gethostbyname := [.found 5], connect := [.fail ⟨ENETUNREACH, by decide⟩] }

/-- The answers to an `Open` whose name is not found, and to a `Send`. -/
def unresolved : Os := .idle { gethostbyname := [.failed HOST_NOT_FOUND 0], sendto := [.ok 1] }

/-- The object after that `Open`. -/
def misled : State := (call (openSocket (some "nohost") 80) associated.self unresolved).state

/-- The end of a `Send` on it. -/
def missent : State := (call (send (some [7]) 1) misled.self unresolved).state

theorem open_associated : call (openSocket (some "host") 80) (.holding .socketTypeUdp 3)
    associating = .done true associated := rfl

theorem tellsPeer_associated : TellsPeer (resolved associating 80) associated.trace := by
  have htrace : associated.trace = [.gethostbyname "host" (.found 5),
      .connect 3 ⟨AF_INET, htons 80, 5⟩ (.ok ()), .getpeername 3 (.ok ⟨AF_INET, htons 80, 5⟩),
      .getsockname 3 (.ok ⟨AF_INET, htons 999, 6⟩)] := rfl
  rw [htrace]
  refine ⟨fun fd res h => ?_, fun fd res h => ?_⟩
  · obtain ⟨-, rfl⟩ : fd = 3 ∧ res = .ok ⟨AF_INET, htons 80, 5⟩ := by simpa using h
    rfl
  · obtain ⟨-, rfl⟩ : fd = 3 ∧ res = .ok ⟨AF_INET, htons 999, 6⟩ := by simpa using h
    exact ⟨_, rfl⟩

/-- An `Open` that fails, but to where the object is aimed already. -/
theorem undisturbed_unreachable : ∃ u t,
    call (openSocket (some "host") 80) associated.self unreachable = .done false t ∧
      Uses ⟨associated.self, resolved associating 80⟩ u ⟨t.self, resolved associating 80⟩ ∧
        Undisturbed ⟨associated.self, resolved associating 80⟩ u
          ⟨t.self, resolved associating 80⟩ := by
  have hopen : call (openSocket (some "host") 80) associated.self unreachable =
      .done false (call (openSocket (some "host") 80) associated.self unreachable).state := rfl
  have htrace : (call (openSocket (some "host") 80) associated.self unreachable).state.trace =
      [.gethostbyname "host" (.found 5),
        .connect 3 ⟨AF_INET, htons 80, 5⟩ (.fail ⟨ENETUNREACH, by decide⟩)] := rfl
  have huse := @Uses.opened associated.self (resolved associating 80) _ _ _ _ _ hopen
    (by rw [htrace]; exact ⟨by simp, by simp⟩)
  refine ⟨_, _, hopen, huse, ?_⟩
  refine (undisturbed_iff rfl open_associated tellsPeer_associated (.cons huse (.nil _))).mpr ?_
    ⟨_, _, _⟩ (List.mem_singleton_self _)
  intro x hx
  obtain rfl := List.mem_singleton.mp hx
  intro pAddr nPort hop
  cases hop
  exact Or.inr (Or.inr (Or.inr ⟨5, rfl, by decide, Or.inr rfl⟩))

/-- The steps of an `Open` whose name is not found and a `Send` after it. -/
def misleading : List (Taken Associated Use) :=
  [⟨⟨associated.self, resolved associating 80⟩,
      ⟨.openSocket (some "nohost") 80, unresolved, some (.bool false), misled.trace⟩,
      ⟨misled.self, resolved associating 80⟩⟩,
    ⟨⟨misled.self, resolved associating 80⟩, ⟨.send (some [7]) 1, unresolved, some (.int 1),
      missent.trace⟩, ⟨missent.self, resolved associating 80⟩⟩]

/-- The datagram goes to the port 0 of nobody. -/
theorem disturbed_unresolved :
    Run Uses ⟨associated.self, resolved associating 80⟩ misleading
      ⟨missent.self, resolved associating 80⟩ ∧
      missent.trace = [.sendto 3 [7] ⟨AF_INET, 0, 0⟩ (.ok 1)] ∧
        ¬ ∀ x ∈ misleading, Undisturbed x.pre x.label x.post := by
  refine ⟨.cons (.opened rfl ?_) (.cons ?_ (.nil _)), rfl, fun h => ?_⟩
  · have htrace : misled.trace = [.gethostbyname "nohost" (.failed HOST_NOT_FOUND 0)] := rfl
    rw [htrace]
    exact ⟨by simp, by simp⟩
  · exact .other rfl (fun _ _ => Op.noConfusion) rfl
  · have hsend := (h _ (List.mem_cons_of_mem _ (List.mem_singleton_self _))).aimed (some [7]) 1 rfl
      3 [7] ⟨AF_INET, 0, 0⟩ (.ok 1) (List.mem_singleton_self _)
    exact absurd hsend (by decide)

end ClSocket
