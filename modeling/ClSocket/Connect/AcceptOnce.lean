import Mathlib.Data.List.TakeWhile
import ClSocket.Descriptor.Reachable

/-!
# Whether `Accept` takes one connection

A call of `accept` that a signal interrupts has taken nothing, and is made again; any other answer
ends the loop. `accept_takes_one` says so of every run: as many calls as there are interruptions
at the front of the answers, and one more; a connection is taken at most once, and the object
returned holds it; no connection is taken when no object is returned.

The code the listener itself is left with is another matter. A success writes the code of the new
object only, so the listener keeps the code of an earlier call, or that of an interruption that
came first (`listener_told_iff`).

Both are read off `AcceptEnd`, the ways the loop can end in terms of the answers ahead. The
invariant between rounds is that all answers taken so far were interruptions (`Retrying`).
-/

namespace ClSocket

open Prog CSimpleSocket CPassiveSocket

/-- What a call of `accept` answered. -/
def Event.accepts? : Event → Option (Answer (ℕ × SockaddrIn))
  | .accept _ res => some res
  | _ => none

/-- The answers of the calls of `accept` in a trace. -/
def acceptsIn (t : Trace) : List (Answer (ℕ × SockaddrIn)) := t.filterMap Event.accepts?

@[simp] theorem acceptsIn_nil : acceptsIn [] = [] := rfl

@[simp] theorem acceptsIn_append (t u : Trace) :
    acceptsIn (t ++ u) = acceptsIn t ++ acceptsIn u := List.filterMap_append

/-- Answers that interrupted the call. -/
abbrev AllInterrupted (as : List (Answer (ℕ × SockaddrIn))) : Prop :=
  ∀ a ∈ as, a.interrupted = true

/-- The interruptions at the front. -/
abbrev interruptions (as : List (Answer (ℕ × SockaddrIn))) : List (Answer (ℕ × SockaddrIn)) :=
  as.takeWhile Answer.interrupted

/-- The first answer that is not an interruption. -/
abbrev decisive (as : List (Answer (ℕ × SockaddrIn))) : Option (Answer (ℕ × SockaddrIn)) :=
  as.find? fun a => !a.interrupted

section

variable {as pre rest : List (Answer (ℕ × SockaddrIn))} {a : Answer (ℕ × SockaddrIn)}

theorem interruptions_append (h : AllInterrupted pre) (ha : a.interrupted = false) :
    interruptions (pre ++ a :: rest) = pre := by
  rw [interruptions, List.takeWhile_append_of_pos h, List.takeWhile_cons_of_neg (by simp [ha]),
    List.append_nil]

theorem decisive_append (h : AllInterrupted pre) (ha : a.interrupted = false) :
    decisive (pre ++ a :: rest) = some a := by
  refine List.find?_eq_some_iff_append.mpr ⟨by simp [ha], pre, rest, rfl, fun b hb => ?_⟩
  simp [h b hb]

end

/-- A connection among the answers. -/
def Answer.connection? : Answer (ℕ × SockaddrIn) → Option (ℕ × SockaddrIn)
  | .ok d => some d
  | .fail _ => none

/-- The connections taken in a trace. -/
def connectionsIn (t : Trace) : List (ℕ × SockaddrIn) := (acceptsIn t).filterMap Answer.connection?

theorem connections_of_interrupted {as : List (Answer (ℕ × SockaddrIn))} (h : AllInterrupted as) :
    as.filterMap Answer.connection? = [] := by
  rw [List.filterMap_eq_nil_iff]
  intro a ha
  cases a with
  | ok d => exact absurd (h _ ha) (by simp [Answer.interrupted])
  | fail e => rfl

/-! ### The loop -/

/-- The code of the listener after these answers of failed calls. -/
def codeAfter (code : CSocketError) (fails : List (Answer (ℕ × SockaddrIn))) : CSocketError :=
  if fails = [] then code else .socketInterrupted

/-- **Between rounds** only interruptions have been taken. -/
structure Retrying (raw : CSimpleSocket) (s : State) (client : CSimpleSocket) (t : State) :
    Prop where
  client_eq : client = CSimpleSocket.construct raw .socketTypeTcp
  taken : ∃ pre, AllInterrupted pre ∧ s.os.script.accept = pre ++ t.os.script.accept ∧
    acceptsIn t.trace = acceptsIn s.trace ++ pre ∧
    t.self.m_socketErrno = codeAfter s.self.m_socketErrno pre
  peername : t.os.script.getpeername = s.os.script.getpeername
  sockname : t.os.script.getsockname = s.os.script.getsockname

/-- **How the loop ends**, in terms of the answers ahead. -/
inductive AcceptEnd (raw : CSimpleSocket) (s : State) :
    CSimpleSocket × CSocketError → State → Prop where
  | refused (t : State) (pre rest : List (Answer (ℕ × SockaddrIn))) (e : Errno)
      (interrupted : AllInterrupted pre) (final : e.1 ≠ EINTR)
      (ahead : s.os.script.accept = pre ++ .fail e :: rest)
      (accepts : acceptsIn t.trace = acceptsIn s.trace ++ pre ++ [.fail e])
      (code : t.self.m_socketErrno = translateErrno e.1) :
      AcceptEnd raw s (.construct raw .socketTypeTcp, translateErrno e.1) t
  | taken (t : State) (pre rest : List (Answer (ℕ × SockaddrIn))) (fd : ℕ) (peer : SockaddrIn)
      (name : Answer SockaddrIn) (interrupted : AllInterrupted pre)
      (ahead : s.os.script.accept = pre ++ .ok (fd, peer) :: rest)
      (accepts : acceptsIn t.trace = acceptsIn s.trace ++ pre ++ [.ok (fd, peer)])
      (code : t.self.m_socketErrno = codeAfter s.self.m_socketErrno pre) :
      AcceptEnd raw s (CPassiveSocket.accepted raw fd peer name, .socketSuccess) t

/-- **Why the loop does not end**: it waits in `accept`, or, with a connection taken, for the
names. -/
inductive AcceptWaits (s : State) : Stop → State → Prop where
  | connection (t : State) (interrupted : AllInterrupted s.os.script.accept)
      (accepts : acceptsIn t.trace = acceptsIn s.trace ++ s.os.script.accept) :
      AcceptWaits s .waiting t
  | name (t : State) (pre rest : List (Answer (ℕ × SockaddrIn))) (d : ℕ × SockaddrIn)
      (interrupted : AllInterrupted pre) (ahead : s.os.script.accept = pre ++ .ok d :: rest)
      (accepts : acceptsIn t.trace = acceptsIn s.trace ++ pre ++ [.ok d])
      (unnamed : s.os.script.getpeername = [] ∨ s.os.script.getsockname = []) :
      AcceptWaits s .waiting t

/-- The names of a connection taken. -/
theorem wp_storeAccepted_end {raw : CSimpleSocket} {s t : State} {fd : ℕ} {peer : SockaddrIn}
    {pre rest : List (Answer (ℕ × SockaddrIn))} (hpre : AllInterrupted pre)
    (hahead : s.os.script.accept = pre ++ .ok (fd, peer) :: rest)
    (haccepts : acceptsIn t.trace = acceptsIn s.trace ++ pre ++ [.ok (fd, peer)])
    (hcode : t.self.m_socketErrno = codeAfter s.self.m_socketErrno pre)
    (hpeer : t.self.m_stClientSockaddr = peer)
    (hpeername : t.os.script.getpeername = s.os.script.getpeername)
    (hsockname : t.os.script.getsockname = s.os.script.getsockname) :
    wp (storeAccepted { CSimpleSocket.construct raw .socketTypeTcp with
        m_socket := fd, m_socketErrno := .socketSuccess })
      (fun c u => AcceptEnd raw s (c, .socketSuccess) u) (AcceptWaits s) t := by
  rw [storeAccepted, wp_bind, wp_this, wp_bind, sysGetpeername, wp_issue_iff]
  refine ⟨fun hnone => ?_, fun name' rest₁ _ => ?_⟩
  · exact .name t pre rest _ hpre hahead haccepts (Or.inl (hpeername ▸ hnone))
  rw [wp_bind, sysGetsockname, wp_issue_iff]
  refine ⟨fun hnone => ?_, fun name rest₂ _ => ?_⟩
  · refine .name _ pre rest _ hpre hahead ?_ (Or.inr (hsockname ▸ hnone))
    rw [State.answered_trace, acceptsIn_append, haccepts]
    simp [acceptsIn, Event.accepts?]
  -- neither of the two calls is an `accept`
  have haccepts' : acceptsIn (t.trace ++ [.getpeername t.self.m_socket name'] ++
      [.getsockname t.self.m_socket name]) = acceptsIn s.trace ++ pre ++ [.ok (fd, peer)] := by
    rw [acceptsIn_append, acceptsIn_append, haccepts]
    simp [acceptsIn, Event.accepts?]
  subst hpeer
  cases name with
  | ok a => exact .taken _ pre rest fd _ (.ok a) hpre hahead haccepts' hcode
  | fail e => exact .taken _ pre rest fd _ (.fail e) hpre hahead haccepts' hcode

/-- **One round.** -/
theorem wp_acceptRound_end {raw client : CSimpleSocket} {s t : State}
    (h : Retrying raw s client t) :
    wp (acceptRound client) (Round.post
        (fun c u => Retrying raw s c u ∧
          t.os.script.accept.length = u.os.script.accept.length + 1)
        (AcceptEnd raw s)) (AcceptWaits s) t := by
  obtain ⟨rfl, ⟨pre, hpre, hahead, haccepts, hcode⟩, hpeername, hsockname⟩ := h
  rw [acceptRound, wp_bind, wp_setErrno, wp_bind, wp_this, wp_bind, sysAccept, wp_issue_iff]
  refine ⟨fun hnone => ?waits, fun res rest hq => ?_⟩
  case waits =>
    have hall : s.os.script.accept = pre := by
      rw [hahead, show t.os.script.accept = [] from hnone, List.append_nil]
    exact .connection _ (hall ▸ hpre) (by rw [hall]; exact haccepts)
  have hq : t.os.script.accept = res :: rest := hq
  rw [hq] at hahead
  -- the call is the next one of the trace
  have hnext : acceptsIn (t.trace ++ [.accept t.self.m_socket res]) =
      acceptsIn s.trace ++ pre ++ [res] := by
    rw [acceptsIn_append, haccepts]
    rfl
  cases res with
  | ok d =>
    obtain ⟨fd, peer⟩ := d
    -- `errno` was cleared, so a success is read as one
    have hsuccess : translateErrno 0 = .socketSuccess := rfl
    simp only [wp_bind, wp_assign, wp_getErrno, State.upd_os, State.answered_errno, Answer.errno_ok,
      State.withErrno_errno, hsuccess, reduceCtorEq, if_false, wp_pure]
    exact wp_storeAccepted_end hpre hahead hnext hcode rfl hpeername hsockname
  | fail e =>
    simp only [wp_bind, wp_translateSocketError, wp_this, wp_ite, wp_pure]
    refine ⟨fun hintr => ⟨⟨rfl, ⟨pre ++ [.fail e], ?_, ?_, ?_, ?_⟩, hpeername, hsockname⟩, ?_⟩,
      fun hfinal => ?_⟩
    · -- another interruption
      have he : e.1 = EINTR := by simpa using hintr
      intro a ha
      rcases List.mem_append.mp ha with ha | ha
      · exact hpre a ha
      · rw [List.mem_singleton.mp ha]
        simpa [Answer.interrupted] using he
    · rw [hahead, List.append_assoc]
      rfl
    · rw [← List.append_assoc]
      exact hnext
    · have hne : pre ++ [Answer.fail e] ≠ [] := by simp
      rw [codeAfter, if_neg hne]
      exact hintr
    · rw [hq]
      rfl
    · have he : e.1 ≠ EINTR := by simpa using hfinal
      exact .refused _ pre rest e hpre he hahead hnext rfl

/-- **The loop**: it ends or waits in one of these ways, and its bound is never used up. -/
theorem wp_acceptLoop_end (raw : CSimpleSocket) {s t : State}
    (h : Retrying raw s (.construct raw .socketTypeTcp) t) :
    wp (iter .waiting acceptRound (t.os.script.accept.length + 1)
      (CSimpleSocket.construct raw .socketTypeTcp)) (AcceptEnd raw s) (AcceptWaits s) t := by
  -- the rounds left are one more than the answers left
  refine wp_iter (fun n c u => Retrying raw s c u ∧ n = u.os.script.accept.length + 1)
    (fun n c u hu => ?_) (fun _ u hu => absurd hu.2.symm (Nat.succ_ne_zero _)) _ _ t ⟨h, rfl⟩
  obtain ⟨hretrying, hn⟩ := hu
  refine wp_mono (fun r v hv => ?_) (fun _ _ hw => hw) (wp_acceptRound_end hretrying)
  cases r with
  | again c' => exact ⟨hv.1, by have := hv.2; omega⟩
  | leave p => exact hv

/-- **`Accept` of a stream listener**: the loop, and the decision it comes to. -/
theorem wp_accept_end (raw : CSimpleSocket) {s : State}
    (htcp : s.self.m_nSocketType = .socketTypeTcp) :
    wp (accept raw) (fun r t => ∃ p u, AcceptEnd raw s p u ∧ acceptsIn t.trace = acceptsIn u.trace ∧
        t.self.m_socketErrno = u.self.m_socketErrno ∧
        r = if p.2 = .socketSuccess then some p.1 else none)
      (fun e t => AcceptWaits s e t) s := by
  have hnot : ¬ s.self.m_nSocketType ≠ .socketTypeTcp := fun h => h htcp
  rw [accept, wp_bind, wp_this, if_neg hnot]
  simp only [wp_bind, wp_timerInitialize, wp_setStartTime, wp_script, wp_setEndTime, wp_ite, wp_pure]
  have hstart : Retrying raw s (.construct raw .socketTypeTcp)
      ((s.upd fun o => { o with m_timer := .reset }).tick.upd fun o =>
        { o with m_timer := o.m_timer.started (s.os.clock s.os.ticks) s.os.ticks }) :=
    ⟨rfl, ⟨[], fun _ ha => absurd ha List.not_mem_nil, rfl, (List.append_nil _).symm, rfl⟩, rfl, rfl⟩
  refine wp_mono (fun p u h => ?_) (fun _ _ h => h) (wp_acceptLoop_end raw hstart)
  refine ⟨fun hfailed => ?_, fun hok => ⟨p, u, h, rfl, rfl, (if_pos (not_not.mp hok)).symm⟩⟩
  -- the object that is given up never held a descriptor
  have hclient : p.1 = .construct raw .socketTypeTcp := by
    cases h with
    | refused => rfl
    | taken => exact absurd rfl hfailed
  rw [hclient]
  refine wp_mono ?_ (fun _ _ hF => hF.elim) (wp_deleteClient raw _)
  rintro _ _ rfl
  exact ⟨p, u, h, rfl, rfl, (if_neg hfailed).symm⟩

/-! ### One connection -/

/-- The calls of `accept` a run has made. One that neither has returned nor has a connection
waits in a call that is not in the trace yet. -/
def acceptCalls : Outcome State Stop (Option CSimpleSocket) → ℕ
  | .done _ t => (acceptsIn t.trace).length
  | .stop _ t => (acceptsIn t.trace).length + if connectionsIn t.trace = [] then 1 else 0

/-- **The property**, of a run against these answers of `accept`. -/
structure TakesOne (os : Os) (run : Outcome State Stop (Option CSimpleSocket)) : Prop where
  calls : acceptCalls run = (interruptions os.script.accept).length + 1
  once : (connectionsIn run.state.trace).length ≤ 1
  returned : ∀ r t, run = .done r t →
    (r.isSome = true ↔ ∃ d, (acceptsIn t.trace).getLast? = some (.ok d))
  object : ∀ client t, run = .done (some client) t → ∃ fd peer,
    (acceptsIn t.trace).getLast? = some (.ok (fd, peer)) ∧ client.m_socket = fd ∧
      client.m_stClientSockaddr = peer ∧ client.m_socketErrno = .socketSuccess
  null : ∀ t, run = .done none t → connectionsIn t.trace = []
  /-- It returns unless a call it makes is never answered. -/
  returns : ∀ e t, run = .stop e t → e = .waiting ∧
    (AllInterrupted os.script.accept ∨ os.script.getpeername = [] ∨ os.script.getsockname = [])

/-- A run that returned. -/
theorem AcceptEnd.takesOne {raw o : CSimpleSocket} {os : Os} {p : CSimpleSocket × CSocketError}
    {u t : State} {r : Option CSimpleSocket} (h : AcceptEnd raw ⟨o, os, []⟩ p u)
    (haccepts : acceptsIn t.trace = acceptsIn u.trace)
    (hr : r = if p.2 = .socketSuccess then some p.1 else none) : TakesOne os (.done r t) := by
  cases h with
  -- interruptions and then another failure: no connection, and `NULL`
  | refused _ pre rest e hpre hfinal hahead htrace =>
    have hnone : r = none := by rw [hr, if_neg (translateErrno_ne_success e)]
    subst hnone
    have hcalls : acceptsIn t.trace = pre ++ [.fail e] := haccepts.trans htrace
    have hconnections : connectionsIn t.trace = [] := by
      rw [connectionsIn, hcalls, List.filterMap_append, connections_of_interrupted hpre]
      rfl
    have hleading : interruptions os.script.accept = pre := by
      rw [show os.script.accept = _ from hahead]
      exact interruptions_append hpre (by simpa [Answer.interrupted] using hfinal)
    refine ⟨?_, ?_, ?_, ?_, fun _ heq => ?_, ?_⟩
    · rw [acceptCalls, hcalls, hleading, List.length_append]
      rfl
    · show (connectionsIn t.trace).length ≤ 1
      rw [hconnections]
      exact Nat.zero_le 1
    · intro r' t' heq
      cases heq
      rw [hcalls]
      simp
    · intro client t' heq
      cases heq
    · cases heq
      exact hconnections
    · intro e' t' heq
      cases heq
  -- interruptions and then a connection, which the object returned holds
  | taken _ pre rest fd peer name hpre hahead htrace hcode =>
    have hsome : r = some (CPassiveSocket.accepted raw fd peer name) := hr.trans (if_pos rfl)
    subst hsome
    have hcalls : acceptsIn t.trace = pre ++ [.ok (fd, peer)] := haccepts.trans htrace
    have hleading : interruptions os.script.accept = pre := by
      rw [show os.script.accept = _ from hahead]
      exact interruptions_append hpre rfl
    have hlast : (acceptsIn t.trace).getLast? = some (.ok (fd, peer)) := by
      rw [hcalls, List.getLast?_concat]
    refine ⟨?_, ?_, ?_, ?_, ?_, ?_⟩
    · rw [acceptCalls, hcalls, hleading, List.length_append]
      rfl
    · show (connectionsIn t.trace).length ≤ 1
      rw [connectionsIn, hcalls, List.filterMap_append, connections_of_interrupted hpre]
      exact Nat.le_refl 1
    · intro r' t' heq
      cases heq
      exact iff_of_true rfl ⟨_, hlast⟩
    · intro client t' heq
      cases heq
      exact ⟨fd, peer, hlast, rfl, rfl, rfl⟩
    · intro t' heq
      cases heq
    · intro e' t' heq
      cases heq

/-- Of a run that waits only the calls are to be counted, and what it waits for told. -/
theorem TakesOne.of_waiting {os : Os} {t : State}
    (hcalls : acceptCalls (.stop .waiting t) = (interruptions os.script.accept).length + 1)
    (honce : (connectionsIn t.trace).length ≤ 1)
    (hwhy : AllInterrupted os.script.accept ∨ os.script.getpeername = [] ∨
      os.script.getsockname = []) : TakesOne os (.stop .waiting t) where
  calls := hcalls
  once := honce
  returned _ _ heq := by cases heq
  object _ _ heq := by cases heq
  null _ heq := by cases heq
  returns _ _ heq := by
    cases heq
    exact ⟨rfl, hwhy⟩

/-- A run that waits. -/
theorem AcceptWaits.takesOne {o : CSimpleSocket} {os : Os} {e : Stop} {t : State}
    (h : AcceptWaits ⟨o, os, []⟩ e t) : TakesOne os (.stop e t) := by
  cases h with
  | connection _ hall htrace =>
    have hcalls : acceptsIn t.trace = os.script.accept := htrace
    have hconnections : connectionsIn t.trace = [] := by
      rw [connectionsIn, hcalls, connections_of_interrupted hall]
    have hleading : interruptions os.script.accept = os.script.accept :=
      List.takeWhile_eq_self_iff.mpr hall
    refine .of_waiting ?_ ?_ (Or.inl hall)
    · -- the call it waits in is not in the trace yet, and counts
      rw [acceptCalls, if_pos hconnections, hcalls, hleading]
    · rw [hconnections]
      exact Nat.zero_le 1
  -- it has a connection, and waits for one of its names
  | name _ pre rest d hpre hahead htrace hunnamed =>
    have hcalls : acceptsIn t.trace = pre ++ [.ok d] := htrace
    have hconnections : connectionsIn t.trace = [d] := by
      rw [connectionsIn, hcalls, List.filterMap_append, connections_of_interrupted hpre]
      rfl
    have hleading : interruptions os.script.accept = pre := by
      rw [show os.script.accept = _ from hahead]
      exact interruptions_append hpre rfl
    refine .of_waiting ?_ ?_ (Or.inr hunnamed)
    · rw [acceptCalls, if_neg (by simp [hconnections]), hcalls, hleading, List.length_append]
      rfl
    · rw [hconnections]
      exact Nat.le_refl 1

/-- **`Accept` takes exactly one connection and loses none.** -/
theorem accept_takes_one {o raw : CSimpleSocket} {os : Os} (htcp : o.m_nSocketType = .socketTypeTcp) :
    TakesOne os (call (accept raw) o os) := by
  have h := wp_accept_end raw (s := ⟨o, os, []⟩) htcp
  unfold wp at h
  unfold call
  cases hrun : accept raw ⟨o, os, []⟩ with
  | done r t =>
    rw [hrun] at h
    obtain ⟨p, u, hend, haccepts, -, hr⟩ := h
    exact hend.takesOne haccepts hr
  | stop e t =>
    rw [hrun] at h
    exact AcceptWaits.takesOne h

/-- The address a client comes from. -/
def visitor : SockaddrIn := ⟨AF_INET, htons 4000, 7⟩

/-- A signal, then a connection whose names are not told. -/
def disturbedAccept : Os := .idle {
  accept := [.fail interruption, .ok (5, visitor)],
  getpeername := [.fail interruption], getsockname := [.fail interruption] }

/-- Two calls, and one connection. -/
theorem accept_takes_one_disturbed :
    TakesOne disturbedAccept (call (accept .zeroed) Reachable.initialized disturbedAccept) ∧
      acceptCalls (call (accept .zeroed) Reachable.initialized disturbedAccept) = 2 := by
  have h := @accept_takes_one Reachable.initialized .zeroed disturbedAccept rfl
  exact ⟨h, h.calls⟩

/-! ### What the listener is left with -/

/-- **The condition the header promises** of the listener after a call. -/
def ListenerTold (o : CSimpleSocket) (r : Option CSimpleSocket) (t : State) : Prop :=
  if r.isSome = true then t.self.m_socketErrno = .socketSuccess
  else if o.m_nSocketType = .socketTypeTcp then
    ∃ e, (acceptsIn t.trace).getLast? = some (.fail e) ∧
      t.self.m_socketErrno = translateErrno e.1
  else t.self.m_socketErrno = .socketProtocolError

/-- A stream listener that gets a connection holds no error and gets it at the first call. -/
def ListenerClean (o : CSimpleSocket) (os : Os) : Prop :=
  o.m_nSocketType = .socketTypeTcp → ∀ d, decisive os.script.accept = some (.ok d) →
    o.m_socketErrno = .socketSuccess ∧ os.script.accept.head? = some (.ok d)

/-- The listener's code after the loop. -/
theorem AcceptEnd.told_iff {raw o : CSimpleSocket} {os : Os} {p : CSimpleSocket × CSocketError}
    {u t : State} {r : Option CSimpleSocket} (htcp : o.m_nSocketType = .socketTypeTcp)
    (h : AcceptEnd raw ⟨o, os, []⟩ p u) (haccepts : acceptsIn t.trace = acceptsIn u.trace)
    (hcode : t.self.m_socketErrno = u.self.m_socketErrno)
    (hr : r = if p.2 = .socketSuccess then some p.1 else none) :
    ListenerTold o r t ↔ ListenerClean o os := by
  cases h with
  -- the branch of a failure translates `errno` into the code of the listener
  | refused _ pre rest e hpre hfinal hahead htrace hleft =>
    have hnone : r = none := by rw [hr, if_neg (translateErrno_ne_success e)]
    have hdecisive : decisive os.script.accept = some (.fail e) := by
      rw [show os.script.accept = _ from hahead]
      exact decisive_append hpre (by simpa [Answer.interrupted] using hfinal)
    have hlast : (acceptsIn t.trace).getLast? = some (.fail e) := by
      rw [haccepts, htrace, List.getLast?_concat]
    refine iff_of_true ?_ fun _ d hd => ?_
    · rw [ListenerTold, hnone, if_neg (by simp), if_pos htcp]
      exact ⟨e, hlast, hcode.trans hleft⟩
    · rw [hdecisive] at hd
      cases hd
  | taken _ pre rest fd peer name hpre hahead htrace hleft =>
    have hsome : r = some (CPassiveSocket.accepted raw fd peer name) := hr.trans (if_pos rfl)
    have hdecisive : decisive os.script.accept = some (.ok (fd, peer)) := by
      rw [show os.script.accept = _ from hahead]
      exact decisive_append hpre rfl
    -- that of a success does not touch it: it is the code of the last interruption, or the old one
    have htold : ListenerTold o r t ↔ codeAfter o.m_socketErrno pre = .socketSuccess := by
      rw [ListenerTold, hsome, if_pos Option.isSome_some, hcode, hleft]
    rw [htold]
    constructor
    · intro hc _ d hd
      rw [hdecisive] at hd
      cases hd
      -- the code of an interruption is not the success code, so there was none
      have hpre' : pre = [] := by
        by_contra hne
        rw [codeAfter, if_neg hne] at hc
        cases hc
      rw [codeAfter, if_pos hpre'] at hc
      exact ⟨hc, by rw [show os.script.accept = _ from hahead, hpre']; rfl⟩
    · intro hclean
      obtain ⟨hc, hfirst⟩ := hclean htcp _ hdecisive
      rw [show os.script.accept = _ from hahead] at hfirst
      cases pre with
      | nil => exact hc
      | cons a pre =>
        have ha : a = .ok (fd, peer) := Option.some.inj hfirst
        exact absurd (hpre a List.mem_cons_self) (by simp [ha, Answer.interrupted])

/-- `Accept` of an object that is not a stream says so. -/
theorem wp_accept_unsupported (raw : CSimpleSocket) {s : State}
    (htype : s.self.m_nSocketType ≠ .socketTypeTcp) :
    wp (accept raw) (fun r t => r = none ∧ t.self.m_socketErrno = .socketProtocolError)
      (fun _ _ => False) s := by
  rw [accept, wp_bind, wp_this, if_pos htype]
  exact ⟨rfl, rfl⟩

/-- **The listener is told** of the outcome exactly when it is clean. -/
theorem listener_told_iff {o raw : CSimpleSocket} {os : Os} {r : Option CSimpleSocket} {t : State}
    (hrun : call (accept raw) o os = .done r t) : ListenerTold o r t ↔ ListenerClean o os := by
  by_cases htcp : o.m_nSocketType = .socketTypeTcp
  · obtain ⟨p, u, hend, haccepts, hcode, hr⟩ := wp_call (wp_accept_end raw htcp) hrun
    exact hend.told_iff htcp haccepts hcode hr
  · obtain ⟨rfl, hcode⟩ := wp_call (wp_accept_unsupported raw htcp) hrun
    refine iff_of_true ?_ fun h => absurd h htcp
    rw [ListenerTold, if_neg (by simp), if_neg htcp]
    exact hcode

/-- A connection at the first call. -/
def plainAccept : Os := .idle {
  accept := [.ok (5, visitor)], getpeername := [.ok visitor], getsockname := [.ok visitor] }

/-- A listener without an error of before. -/
theorem listener_told_plain : ∃ c t,
    call (accept .zeroed) Reachable.initialized plainAccept = .done (some c) t ∧
      ListenerTold Reachable.initialized (some c) t := by
  have hrun : ∃ c t, call (accept .zeroed) Reachable.initialized plainAccept =
      .done (some c) t := ⟨_, _, rfl⟩
  obtain ⟨c, t, hrun⟩ := hrun
  refine ⟨c, t, hrun, (listener_told_iff hrun).mpr fun _ d hd => ?_⟩
  have hfirst : (some (.ok (5, visitor)) : Option (Answer (ℕ × SockaddrIn))) = some (.ok d) := hd
  rw [← Answer.ok.inj (Option.some.inj hfirst)]
  exact ⟨rfl, rfl⟩

/-- A connection after a signal: the listener is left with the interruption. -/
theorem listener_untold_disturbed : Reachable .passive Reachable.initialized ∧ ∃ c t,
    call (accept .zeroed) Reachable.initialized disturbedAccept = .done (some c) t ∧
      t.self.m_socketErrno = .socketInterrupted ∧
        ¬ ListenerTold Reachable.initialized (some c) t := by
  have hrun : ∃ c t, call (accept .zeroed) Reachable.initialized disturbedAccept =
      .done (some c) t ∧ t.self.m_socketErrno = .socketInterrupted := ⟨_, _, rfl, rfl⟩
  obtain ⟨c, t, hrun, hcode⟩ := hrun
  refine ⟨Reachable.of_initialized, c, t, hrun, hcode, fun h => ?_⟩
  rw [ListenerTold, if_pos Option.isSome_some, hcode] at h
  cases h

end ClSocket
