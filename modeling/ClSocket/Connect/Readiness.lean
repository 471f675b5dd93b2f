import ClSocket.Connect.Opening
import ClSocket.Model.Op

/-!
# Readiness that was not reported

`Select` leaves the three sets to `select` and then looks at them. A `select` that fails does
not touch them, so a failure looks like readiness, and the `SO_ERROR` query, which has nothing
to report, lets `Select` return `true` (`SelectMasked`). `Open` on a non-blocking TCP socket
takes that for the completion of a pending `connect` (`OpenMasked`).

Everywhere else a `true` of the two is backed by the system (`reports_iff`): by a `select` that
counted the descriptor in and an `SO_ERROR` of zero (`Reported`), or by `connect` itself
(`Connected`).
-/

namespace ClSocket

open Prog CSimpleSocket CActiveSocket

/-- The calls say that the descriptor is ready: `select` returned it in a set, and `SO_ERROR`
was zero right after. -/
def Reported (fd : Int) (t : Trace) : Prop :=
  ∃ timeout r, t = [.selecting fd timeout (.ok r),
    .getsockopt fd SOL_SOCKET SO_ERROR (some 4) (.ok 0)] ∧
      r.count ≠ 0 ∧ (fd ∈ r.readFds ∨ fd ∈ r.writeFds)

/-- The calls say that the descriptor is connected: `connect` succeeded, or it was pending and
the descriptor was then reported ready. -/
def Connected (fd : Int) (t : Trace) : Prop :=
  ∃ pre evs post dest, t = pre ++ evs ++ post ∧
    (evs = [.connect fd dest (.ok ())] ∨ ∃ e ready, evs = .connect fd dest (.fail e) :: ready ∧
      (e.1 = EINPROGRESS ∨ e.1 = EWOULDBLOCK) ∧ Reported fd ready)

/-- `select` is going to fail, and `SO_ERROR` has no error to report. -/
def SelectMasked (sc : Script) : Prop :=
  (∃ e, sc.select.head? = some (.fail e)) ∧ sc.getsockopt.head? = some (.ok 0)

/-- `Open` gets as far as a pending `connect`, and the `select` it waits with fails so. -/
structure OpenMasked (o : CSimpleSocket) (sc : Script) (pAddr : Option String) (nPort : UInt16) :
    Prop where
  valid : o.m_socket ≠ -1
  addr : pAddr ≠ none
  port : nPort ≠ 0
  host : ∃ a, sc.gethostbyname.head? = some (.found a) ∧ a ≠ 0xffffffff
  pending : ∃ e, sc.connect.head? = some (.fail e) ∧ (e.1 = EINPROGRESS ∨ e.1 = EWOULDBLOCK)
  masked : SelectMasked sc

/-- A connected trace has a `connect` or a `select` that succeeded. -/
theorem Connected.mem {fd : Int} {t : Trace} (h : Connected fd t) :
    (∃ dest, Event.connect fd dest (.ok ()) ∈ t) ∨
      ∃ timeout r, Event.selecting fd timeout (.ok r) ∈ t := by
  obtain ⟨pre, evs, post, dest, rfl, rfl | ⟨e, ready, rfl, -, timeout, r, rfl, -⟩⟩ := h
  · exact Or.inl ⟨dest, by simp⟩
  · exact Or.inr ⟨timeout, r, by simp⟩

/-- What the wait for a pending connection returned, and the condition. -/
theorem Waited.reported_iff {s : State} {evs : Trace} {r : Bool} (h : Waited s r evs) :
    (r = true → Reported s.self.m_socket evs) ↔ ¬ SelectMasked s.os.script := by
  cases h with
  | no timeout r answer =>
    refine iff_of_true (fun h => by cases h) fun hm => ?_
    obtain ⟨⟨e, he⟩, -⟩ := hm
    rw [answer] at he
    cases he
  | asked timeout sel error answer query inSet =>
    unfold SelectMasked
    rw [answer, query]
    cases sel with
    | ok r =>
      refine iff_of_true (fun htrue => ?_) (by simp)
      obtain rfl : error = .ok 0 := of_decide_eq_true htrue
      exact ⟨timeout, r, rfl, inSet⟩
    -- the sets are as `Select` filled them, so only `SO_ERROR` decides
    | fail e => simp [Reported]

/-- `Select` is the wait. -/
theorem SelectCase.waited {s t : State} {timeout : Option Timeval} {r : Bool}
    (h : SelectCase s timeout r t) : ∃ evs, Waited s r evs ∧ t.trace = s.trace ++ evs := by
  cases h with
  | timedOut _ r _ answer hnone _ htrace =>
    exact ⟨_, .no timeout r answer fun hin => hin.1 hnone, htrace⟩
  | notReady _ r _ answer _ hout _ htrace => exact ⟨_, .no timeout r answer hout, htrace⟩
  | asked _ sel error _ answer query hin _ htrace =>
    exact ⟨_, .asked timeout sel error answer query hin, htrace⟩

/-- No call here can connect a descriptor or report it ready. -/
structure Unconnecting (t : Trace) : Prop where
  connect : ∀ fd dest res, Event.connect fd dest res ∉ t
  select : ∀ fd timeout res, Event.selecting fd timeout res ∉ t

/-- What an attempt came to, with other calls around it, and the condition. -/
theorem Attempt.connected_iff {s : State} {dest : SockaddrIn} {r : Bool} {evs : Trace}
    {pre post : Trace} (h : Attempt s dest r evs)
    (hother : Unconnecting (pre ++ post)) :
    (r = true → Connected s.self.m_socket (pre ++ evs ++ post)) ↔
      ¬ ((∃ e, s.os.script.connect.head? = some (.fail e) ∧ Pending s.self e) ∧
        SelectMasked s.os.script) := by
  cases h with
  | connected answer =>
    refine iff_of_true (fun _ => ⟨pre, _, post, dest, rfl, Or.inl rfl⟩) ?_
    rintro ⟨⟨e, he, -⟩, -⟩
    rw [answer] at he
    cases he
  -- `Open` returns `false`, and there is nothing to back
  | refused e answer final =>
    refine iff_of_true (fun h => by cases h) ?_
    rintro ⟨⟨e', he, hp⟩, -⟩
    rw [answer] at he
    cases he
    exact final hp
  -- a pending `connect`: what was returned is what the wait came to
  | @waited _ ready e answer pending wait =>
    have hmasked : ¬ ((∃ e, s.os.script.connect.head? = some (.fail e) ∧ Pending s.self e) ∧
        SelectMasked s.os.script) ↔ ¬ SelectMasked s.os.script :=
      not_congr ⟨fun h => h.2, fun h => ⟨⟨e, answer, pending⟩, h⟩⟩
    rw [hmasked, ← wait.reported_iff]
    refine forall_congr' fun htrue => ⟨fun hc => ?_, fun hr => ?_⟩
    · cases wait with
      | no => cases htrue
      | asked timeout sel error _ _ inSet =>
        obtain rfl : error = .ok 0 := of_decide_eq_true htrue
        -- only an answered `select` can have made the trace connected
        obtain ⟨dest', hm⟩ | ⟨timeout', r, hm⟩ := hc.mem
        · have hno := hother.connect s.self.m_socket dest' (.ok ())
          simp at hm hno
          exact absurd hm (not_or.mpr hno)
        · have hno := hother.select s.self.m_socket timeout' (.ok r)
          simp at hm hno
          obtain hm | ⟨rfl, rfl⟩ | hm := hm
          · exact absurd hm hno.1
          · exact ⟨timeout', r, rfl, inSet⟩
          · exact absurd hm hno.2
    · exact ⟨pre, _, post, dest, rfl, Or.inr ⟨e, ready, rfl, pending.2.2.symm, hr⟩⟩

/-- **What `Open` returned**, and the condition. -/
theorem OpenCase.connected_iff {s t : State} {pAddr : Option String} {nPort : UInt16} {r : Bool}
    (hs : s.trace = []) (htcp : s.self.m_nSocketType = .socketTypeTcp)
    (hnb : s.self.isNonblocking = true) (h : OpenCase s pAddr nPort r t) :
    (r = true → Connected s.self.m_socket t.trace) ↔
      ¬ OpenMasked s.self s.os.script pAddr nPort := by
  have hpending : ∀ e, Pending s.self e ↔ e.1 = EINPROGRESS ∨ e.1 = EWOULDBLOCK := fun e =>
    ⟨fun hp => hp.2.2.symm, fun he => ⟨htcp, hnb, he.symm⟩⟩
  -- an attempt was made, so the arguments and the host are those of the condition
  have hattempt : ∀ {addr a evs b pre post}, Accepted s.self pAddr nPort addr →
      s.os.script.gethostbyname.head? = some (.found a) → a ≠ 0xffffffff →
      Attempt s (destination a nPort) b evs →
      Unconnecting (pre ++ post) →
      ((b = true → Connected s.self.m_socket (pre ++ evs ++ post)) ↔
        ¬ OpenMasked s.self s.os.script pAddr nPort) := by
    intro addr a evs b pre post hacc hhost hne hatt hother
    rw [hatt.connected_iff hother]
    refine not_congr ⟨fun h => ?_, fun h => ?_⟩
    · obtain ⟨⟨e, he, hp⟩, hm⟩ := h
      exact ⟨hacc.valid, by simp [hacc.addr_eq], hacc.port, ⟨a, hhost, hne⟩,
        ⟨e, he, (hpending e).mp hp⟩, hm⟩
    · obtain ⟨e, he, hp⟩ := h.pending
      exact ⟨⟨e, he, (hpending e).mpr hp⟩, h.masked⟩
  cases h with
  | invalid _ why =>
    refine iff_of_true (fun h => by cases h) fun hm => ?_
    rcases why with hsock | haddr | hport
    · exact hm.valid hsock
    · exact hm.addr haddr
    · exact hm.port hport
  | unsupported addr _ htype => exact absurd htcp htype.1
  | unresolved _ addr _ _ h answer none =>
    refine iff_of_true (fun h => by cases h) fun hm => ?_
    obtain ⟨a, ha, hne⟩ := hm.host
    rw [answer] at ha
    exact hne (none a (Option.some.inj ha))
  | failed _ addr hacc _ a answer host evs attempt _ _ _ _ htrace =>
    have hother : Unconnecting ([] ++ []) := ⟨by simp, by simp⟩
    have hiff := hattempt hacc answer host attempt hother
    exact iff_of_true (fun h => by cases h) (hiff.mp fun h => by cases h)
  -- the calls around the attempt are the lookup and the two for the endpoints
  | opened _ addr hacc _ a answer host evs attempt peer name _ _ _ htrace =>
    rw [hs] at htrace
    rw [htrace]
    have hother : Unconnecting ([.gethostbyname addr (.found a)] ++
        [.getpeername s.self.m_socket peer, .getsockname s.self.m_socket name]) :=
      ⟨by simp, by simp⟩
    have hiff := hattempt hacc answer host attempt hother
    exact hiff

/-- **A `true` is backed by the system** exactly when no failed `select` is masked. -/
theorem reports_iff (o : CSimpleSocket) (os : Os) :
    (∀ nTimeoutSec nTimeoutUSec r t,
      call (CSimpleSocket.select nTimeoutSec nTimeoutUSec) o os = .done r t →
      ((r = true → Reported o.m_socket t.trace) ↔ ¬ SelectMasked os.script)) ∧
    (∀ pAddr nPort r t, o.m_nSocketType = .socketTypeTcp → o.isNonblocking = true →
      call (openSocket pAddr nPort) o os = .done r t →
      ((r = true → Connected o.m_socket t.trace) ↔ ¬ OpenMasked o os.script pAddr nPort)) := by
  refine ⟨fun sec usec r t hrun => ?_, fun addr port r t htcp hnb hrun => ?_⟩
  · obtain ⟨evs, hw, htrace⟩ := (wp_call (wp_select sec usec ⟨o, os, []⟩) hrun).waited
    rw [htrace]
    exact hw.reported_iff
  · exact (wp_call (wp_openSocket addr port ⟨o, os, []⟩) hrun).connected_iff rfl htcp hnb

/-- A non-blocking TCP object that holds the descriptor 3. -/
def nonblocking : CSimpleSocket :=
  { CSimpleSocket.holding .socketTypeTcp 3 with m_bIsBlocking := false }

/-- The answers to an `Open` whose `connect` is pending, with this one from `select`. -/
def pendingAnswers (select : Answer Selected) : Script where
  gethostbyname := [.found 5]
  connect := [.fail ⟨EINPROGRESS, by decide⟩]
  select := [select]
  getsockopt := [.ok 0]
  getpeername := [.ok ⟨AF_INET, htons 80, 5⟩]
  getsockname := [.ok ⟨AF_INET, htons 999, 6⟩]

/-- A descriptor that became writable, and a connection that completed so. -/
theorem reports_writable :
    (∃ t, call (CSimpleSocket.select 1 0) nonblocking
      (.idle (pendingAnswers (.ok ⟨1, ∅, {3}, ∅⟩))) = .done true t ∧ Reported 3 t.trace) ∧
    (∃ t, call (openSocket (some "host") 80) nonblocking
      (.idle (pendingAnswers (.ok ⟨1, ∅, {3}, ∅⟩))) = .done true t ∧ Connected 3 t.trace) := by
  obtain ⟨hselect, hopen⟩ :=
    reports_iff nonblocking (.idle (pendingAnswers (.ok ⟨1, ∅, {3}, ∅⟩)))
  have hclear : ¬ SelectMasked (pendingAnswers (.ok ⟨1, ∅, {3}, ∅⟩)) := fun h => by
    obtain ⟨⟨e, he⟩, -⟩ := h
    simp [pendingAnswers] at he
  exact ⟨⟨_, rfl, (hselect 1 0 true _ rfl).mpr hclear rfl⟩,
    ⟨_, rfl, (hopen (some "host") 80 true _ rfl rfl rfl).mpr (fun h => hclear h.masked) rfl⟩⟩

/-- A signal during the wait, and both say that the descriptor is ready. -/
theorem reports_interrupted :
    (∃ t, call (CSimpleSocket.select 1 0) nonblocking
      (.idle (pendingAnswers (.fail ⟨EINTR, by decide⟩))) = .done true t ∧
        ¬ Reported 3 t.trace) ∧
    (∃ t, call (openSocket (some "host") 80) nonblocking
      (.idle (pendingAnswers (.fail ⟨EINTR, by decide⟩))) = .done true t ∧
        ¬ Connected 3 t.trace) := by
  refine ⟨⟨_, rfl, ?_⟩, ⟨_, rfl, fun h => ?_⟩⟩
  · rintro ⟨timeout, r, ht, -⟩
    exact absurd (List.cons.inj ht).1 (by simp)
  · obtain ⟨dest, hm⟩ | ⟨timeout, r, hm⟩ := h.mem
    · simp at hm
    · simp at hm

end ClSocket
