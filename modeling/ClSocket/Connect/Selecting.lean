import ClSocket.Model.SimpleSocket

/-!
# What `Select` does

`Select` puts the descriptor in all three sets, waits, and asks for `SO_ERROR` when the
descriptor is still in the read or the write set afterwards. `SelectCase` lists the ways it can
go. A `select` that fails leaves the sets as they were filled, so the descriptor is still in
them: the failure goes the same way as readiness (`Answer.leavesSet`).

A set has room for the descriptors below `FD_SETSIZE` only. `Select` does not look, and on any other
descriptor, that of an object without one included, it is undefined (`select_undefined_iff`).
-/

namespace ClSocket

open Prog

/-- After this answer the descriptor is in the read or the write set. -/
def Answer.leavesSet (fd : Int) : Answer Selected → Prop
  | .ok r => r.count ≠ 0 ∧ (fd ∈ r.readFds ∨ fd ∈ r.writeFds)
  | .fail _ => True

/-- The timeout `Select` passes on. -/
def selectTimeout (nTimeoutSec nTimeoutUSec : Int) : Option Timeval :=
  if nTimeoutSec > 0 ∨ nTimeoutUSec > 0 then some ⟨nTimeoutSec, nTimeoutUSec⟩ else none

/-- The call of `Select`, with the descriptor in each of the three sets. -/
abbrev Event.selecting (fd : Int) (timeout : Option Timeval) (res : Answer Selected) : Event :=
  .select (fd + 1) {fd} {fd} {fd} timeout res

/-- What `Select` leaves alone of the object. -/
structure SelectFrame (s t : State) : Prop where
  socket : t.self.m_socket = s.self.m_socket
  server : t.self.m_stServerSockaddr = s.self.m_stServerSockaddr
  client : t.self.m_stClientSockaddr = s.self.m_stClientSockaddr

/-- **The outcomes of `Select`.** -/
inductive SelectCase (s : State) (timeout : Option Timeval) : Bool → State → Prop where
  /-- The time ran out. -/
  | timedOut (t : State) (r : Selected) (frame : SelectFrame s t)
      (answer : s.os.script.select.head? = some (.ok r)) (none : r.count = 0)
      (code : t.self.m_socketErrno = .socketTimedout)
      (trace_eq : t.trace = s.trace ++ [.selecting s.self.m_socket timeout (.ok r)]) :
      SelectCase s timeout false t
  /-- Something is ready, but the descriptor neither for reading nor for writing. -/
  | notReady (t : State) (r : Selected) (frame : SelectFrame s t)
      (answer : s.os.script.select.head? = some (.ok r)) (some : r.count ≠ 0)
      (out : ¬ (Answer.ok r).leavesSet s.self.m_socket)
      (code : t.self.m_socketErrno = s.self.m_socketErrno)
      (trace_eq : t.trace = s.trace ++ [.selecting s.self.m_socket timeout (.ok r)]) :
      SelectCase s timeout false t
  /-- The descriptor is in a set, and `SO_ERROR` decides. -/
  | asked (t : State) (sel : Answer Selected) (pending : Answer Int) (frame : SelectFrame s t)
      (answer : s.os.script.select.head? = some sel)
      (error : s.os.script.getsockopt.head? = some pending)
      (inSet : sel.leavesSet s.self.m_socket)
      (code : pending ≠ .ok 0 → t.self.m_socketErrno ≠ .socketSuccess)
      (trace_eq : t.trace = s.trace ++ [.selecting s.self.m_socket timeout sel,
        .getsockopt s.self.m_socket SOL_SOCKET SO_ERROR (some 4) pending]) :
      SelectCase s timeout (pending = .ok 0) t

namespace CSimpleSocket

/-- The `SO_ERROR` query, with the descriptor in a set. -/
theorem wp_askError {s u : State} {timeout : Option Timeval} {sel : Answer Selected}
    (frame : SelectFrame s u) (answer : s.os.script.select.head? = some sel)
    (hq : u.os.script.getsockopt = s.os.script.getsockopt)
    (inSet : sel.leavesSet s.self.m_socket)
    (htrace : u.trace = s.trace ++ [.selecting s.self.m_socket timeout sel]) :
    wp (do
      match ← sysGetsockopt u.self.m_socket SOL_SOCKET SO_ERROR (some 4) with
      | .ok nError =>
        setErrno nError
        translateSocketError
        return (nError = 0 : Bool)
      | .fail _ =>
        translateSocketError
        return false) (SelectCase s timeout) (fun _ _ => True) u := by
  obtain ⟨hsocket, hserver, hclient⟩ := frame
  rw [wp_bind, sysGetsockopt, wp_issue_iff]
  refine ⟨fun _ => trivial, fun pending rest hp => ?_⟩
  have herror : s.os.script.getsockopt.head? = some pending := by rw [← hq, hp]; rfl
  -- whatever the query answers, the case is the same, with that answer
  have hcase : ∀ t : State, SelectFrame s t → (pending ≠ .ok 0 →
      t.self.m_socketErrno ≠ .socketSuccess) → t.trace = u.trace ++
        [.getsockopt u.self.m_socket SOL_SOCKET SO_ERROR (some 4) pending] →
      SelectCase s timeout (pending = .ok 0) t := fun t hf hc ht =>
    .asked t sel pending hf answer herror inSet hc (by rw [ht, htrace, hsocket]; simp)
  cases pending with
  | ok nError =>
    have hdecide : (decide (nError = 0)) = decide (Answer.ok nError = .ok 0) := by simp
    rw [wp_bind, wp_setErrno, wp_bind, wp_translateSocketError, wp_pure, hdecide]
    refine hcase _ ⟨hsocket, hserver, hclient⟩ (fun hne hcode => hne ?_) rfl
    have hzero : nError = 0 := translateErrno_eq_success.mp hcode
    rw [hzero]
  | fail e =>
    rw [wp_bind, wp_translateSocketError, wp_pure]
    have hdecide : false = decide (Answer.fail e = (.ok 0 : Answer Int)) := by simp
    rw [hdecide]
    exact hcase _ ⟨hsocket, hserver, hclient⟩ (fun _ => translateErrno_ne_success e) rfl

/-- **`Select`** goes one of these ways. -/
theorem wp_select (nTimeoutSec nTimeoutUSec : Int) (s : State) :
    wp (select nTimeoutSec nTimeoutUSec)
      (SelectCase s (selectTimeout nTimeoutSec nTimeoutUSec)) (fun _ _ => True) s := by
  rw [select, wp_bind, selectSets, wp_bind, wp_fillSets]
  refine ⟨fun _ => ?_, fun _ => trivial⟩
  rw [wp_bind, wp_this, wp_bind, sysSelect, wp_issue_iff]
  refine ⟨fun _ => trivial, fun sel rest hq => ?_⟩
  have hanswer : s.os.script.select.head? = some sel := by
    rw [State.upd_os] at hq
    rw [hq]
    rfl
  cases sel with
  -- a failed `select` leaves the sets as they were, so the descriptor is still in them
  | fail e =>
    rw [wp_pure, wp_bind, wp_this, wp_ite]
    refine ⟨fun h => absurd h (by simp [numDescriptors]), fun _ => ?_⟩
    rw [wp_ite]
    refine ⟨fun _ => wp_askError ⟨rfl, rfl, rfl⟩ hanswer rfl trivial rfl, fun hout => ?_⟩
    exact absurd (by simp) hout
  -- none is ready; this one is; or only others are
  | ok r =>
    rw [wp_bind, wp_assign, wp_pure, wp_bind, wp_this, wp_ite]
    refine ⟨fun hzero => ?_, fun hnz => ?_⟩
    · have hcount : r.count = 0 := by simpa [numDescriptors] using hzero
      rw [wp_bind, wp_setSocketError, wp_pure]
      exact .timedOut _ r ⟨rfl, rfl, rfl⟩ hanswer hcount rfl rfl
    · have hcount : r.count ≠ 0 := by simpa [numDescriptors] using hnz
      rw [wp_ite]
      refine ⟨fun hin => wp_askError ⟨rfl, rfl, rfl⟩ hanswer rfl ?_ rfl, fun hout => ?_⟩
      · refine ⟨hcount, ?_⟩
        simpa [hcount] using hin
      · refine .notReady _ r ⟨rfl, rfl, rfl⟩ hanswer hcount (fun h => hout ?_) rfl rfl
        simpa [hcount] using h.2

/-- With room in the sets, `Select` does not return only where it waits for an answer. -/
theorem wp_select_room (nTimeoutSec nTimeoutUSec : Int) {s : State}
    (hroom : 0 ≤ s.self.m_socket ∧ s.self.m_socket < FD_SETSIZE) :
    wp (select nTimeoutSec nTimeoutUSec) (fun _ _ => True) (fun e _ => e = .waiting) s := by
  rw [select, wp_bind, selectSets, wp_bind, wp_fillSets]
  refine ⟨fun _ => ?_, fun hno => absurd hroom hno⟩
  rw [wp_bind, wp_this, wp_bind, sysSelect, wp_issue_iff]
  refine ⟨fun _ => rfl, fun sel rest _ => ?_⟩
  cases sel with
  | fail e => simp [sysGetsockopt]
  | ok r => simp [sysGetsockopt]

/-- **`Select` is undefined** exactly for a descriptor that the sets have no room for. -/
theorem select_undefined_iff (nTimeoutSec nTimeoutUSec : Int) (s : State) :
    (∃ t, select nTimeoutSec nTimeoutUSec s = .stop .undefined t) ↔
      ¬ (0 ≤ s.self.m_socket ∧ s.self.m_socket < FD_SETSIZE) := by
  by_cases hroom : 0 ≤ s.self.m_socket ∧ s.self.m_socket < FD_SETSIZE
  · refine iff_of_false ?_ (not_not.mpr hroom)
    rintro ⟨t, hrun⟩
    cases wp_stopped (wp_select_room nTimeoutSec nTimeoutUSec hroom) hrun
  · have hstops : wp (select nTimeoutSec nTimeoutUSec) (fun _ _ => False)
        (fun e _ => e = .undefined) s := by
      rw [select, wp_bind, selectSets, wp_bind, wp_fillSets]
      exact ⟨fun h => absurd h hroom, fun _ => rfl⟩
    refine iff_of_true ?_ hroom
    cases hrun : select nTimeoutSec nTimeoutUSec s with
    | done r t => exact (wp_done hstops hrun).elim
    | stop e t =>
      have he : e = .undefined := wp_stopped (B := fun e _ => e = .undefined) hstops hrun
      exact ⟨t, congrArg (Outcome.stop · t) he⟩

end CSimpleSocket

end ClSocket
