import ClSocket.Framework.Transition
import ClSocket.Model.Op
import ClSocket.Timing.Section

/-!
# The timer over a run

A run of the seven timed operations, over a clock that never goes back. After each of them the two
times of the timer are to be readings of the last operation that made any, in their order
(`WellTimed`).

Six of them see to it on every path (`timed_of_call`). `BindMulticast` never does: what it leaves for
the end is the zero of a cleared timer, which was not read at all (`well_timed_iff`).
-/

namespace ClSocket

open Prog CSimpleSocket

/-- The operation has a timed section. -/
def Op.isTimed : Op → Bool
  | .initializeSocket | .openSocket _ _ | .listen _ _ _ | .bindMulticast _ _ _ | .accept _
  | .send _ _ | .receive _ _ => true
  | _ => false

/-- An object, how often the clock has been read, and the readings of the last operation that read
it: the first of them, and the one past them. -/
structure Timing where
  self : CSimpleSocket
  ticks : ℕ
  last : Option (ℕ × ℕ)

/-- The object goes through a timed operation. -/
inductive TimedStep (cls : SocketClass) (clock : ℕ → Timeval) : Timing → Op × Os → Timing → Prop where
  | called {s : Timing} {op : Op} {os : Os} {ret : Ret} {t : State}
      (timed : op.isTimed = true) (has : op.ofClass cls = true)
      (reads : os.clock = clock) (later : s.ticks ≤ os.ticks)
      (hrun : call (op.run cls) s.self os = .done ret t) :
      TimedStep cls clock s (op, os) ⟨t.self, t.os.ticks,
        if t.os.ticks = os.ticks then s.last else some (os.ticks, t.os.ticks)⟩

/-- The time is that reading of the clock, and the last operation that read the clock took it. -/
def ReadIn (clock : ℕ → Timeval) (range : ℕ × ℕ) (time : Timeval) (reading : Option ℕ) : Prop :=
  ∃ i, range.1 ≤ i ∧ i < range.2 ∧ reading = some i ∧ time = clock i

/-- **Well ordered**: once an operation has read the clock, the start is not later than the end, and
the last such operation has read both. -/
structure WellTimed (clock : ℕ → Timeval) (s : Timing) : Prop where
  ordered : s.last ≠ none → s.self.m_timer.m_startTime ≤ s.self.m_timer.m_endTime
  start : ∀ range ∈ s.last,
    ReadIn clock range s.self.m_timer.m_startTime s.self.m_timer.startedAt
  stop : ∀ range ∈ s.last, ReadIn clock range s.self.m_timer.m_endTime s.self.m_timer.endedAt

/-- The operation is `BindMulticast`. -/
def Op.isBindMulticast : Op → Bool
  | .bindMulticast _ _ _ => true
  | _ => false

section

variable {cls : SocketClass} {clock : ℕ → Timeval} {o : CSimpleSocket} {os : Os} {t : State}
  {s s' : Timing} {ret : Ret}

theorem takesTime_virtualSend (pBuf : Option Bytes) (bytesToSend : ℕ) :
    TakesTime (virtualSend cls pBuf bytesToSend) := by
  cases cls with
  | passive => exact takesTime_passiveSend pBuf bytesToSend
  | simple => exact takesTime_send pBuf bytesToSend
  | active => exact takesTime_send pBuf bytesToSend

/-- What an operation returns is not timed. -/
theorem TakesTime.map {α β : Type} {x : M α} (f : α → β) (h : TakesTime x) : TakesTime (f <$> x) :=
  h.before fun _ => keeps_pure _

theorem timed_of_call {op : Op} (htimed : op.isTimed = true) (hop : op.isBindMulticast = false)
    (hrun : call (op.run cls) o os = .done ret t) : Timed ⟨o, os, []⟩ t := by
  have htakes : TakesTime (op.run cls) := by
    cases op with
    | initializeSocket => exact takesTime_initializeSocket.map _
    | openSocket addr port => exact (takesTime_openSocket addr port).map _
    | listen addr port backlog => exact (takesTime_listen addr port backlog).map _
    | accept raw => exact (takesTime_accept raw).map _
    | send buf n => exact (takesTime_virtualSend buf n).map _
    | receive n buf => exact (takesTime_receive n buf).map _
    -- its section is not timed as the others are
    | bindMulticast iface group port => cases hop
    | _ => cases htimed
  have h := wp_call (htakes _) hrun
  exact h

/-- What `BindMulticast` leaves for the end was not read. -/
theorem endedAt_bindMulticast {op : Op} (hop : op.isBindMulticast = true)
    (hrun : call (op.run cls) o os = .done ret t) :
    t.os.ticks ≠ os.ticks ∧ t.self.m_timer.endedAt = none := by
  cases op with
  | bindMulticast iface group port =>
    obtain ⟨r, hr, rfl⟩ := call_done hrun
    obtain ⟨-, hticks, htimer⟩ := wp_call (wp_bindMulticast_timer iface group port _) hr
    have hfirst : os.ticks ≤ multicastStart os := Nat.le_add_right ..
    refine ⟨?_, by rw [htimer]; rfl⟩
    rw [hticks]
    exact (Nat.lt_succ_of_le hfirst).ne'
  | _ => cases hop

/-- What a timed section leaves is well ordered. -/
theorem WellTimed.of_timedBy {first last : ℕ} (hmono : Monotone clock)
    (h : TimedBy clock first last o.m_timer) : WellTimed clock ⟨o, last, some (first, last)⟩ := by
  obtain ⟨i, j, hi, hij, hj, ⟨hstart, hstarted⟩, hend, hended⟩ := h
  refine ⟨fun _ => ?_, fun range hrange => ?_, fun range hrange => ?_⟩
  · rw [hstart, hend]
    exact hmono hij
  · cases hrange
    exact ⟨i, hi, by omega, hstarted, hstart⟩
  · cases hrange
    exact ⟨j, by omega, hj, hended, hend⟩

/-- **One step**: it leaves the timer well ordered, unless it is a `BindMulticast`. -/
theorem well_timed_step_iff {label : Op × Os} (hmono : Monotone clock)
    (hstep : TimedStep cls clock s label s') (hs : WellTimed clock s) :
    WellTimed clock s' ↔ label.1.isBindMulticast = false := by
  cases hstep with
  | @called op os ret t timed has reads later hrun =>
    cases hop : op.isBindMulticast with
    | true =>
      refine iff_of_false (fun h => ?_) (by simp)
      obtain ⟨hread, hended⟩ := endedAt_bindMulticast hop hrun
      rw [if_neg hread] at h
      obtain ⟨j, -, -, hj, -⟩ := h.stop _ rfl
      cases hended.symm.trans hj
    | false =>
      refine iff_of_true ?_ rfl
      rcases timed_of_call timed hop hrun with h | ⟨-, hread, hby⟩
      -- an operation that gives up before its section leaves the times of the last one
      · obtain ⟨htimer, -, hticks⟩ := h
        rw [if_pos hticks]
        constructor
        · rw [htimer]
          exact hs.ordered
        · rw [htimer]
          exact hs.start
        · rw [htimer]
          exact hs.stop
      · rw [if_neg hread.ne']
        subst reads
        exact .of_timedBy hmono hby

end

/-- **When the timer is well ordered in every state of a run.** -/
theorem well_timed_iff {cls : SocketClass} {clock : ℕ → Timeval} {o : CSimpleSocket} {ticks : ℕ}
    {steps : List (Taken Timing (Op × Os))} {t : Timing} (hmono : Monotone clock)
    (hrun : Run (TimedStep cls clock) ⟨o, ticks, none⟩ steps t) :
    (∀ x ∈ steps, WellTimed clock x.post) ↔ ∀ x ∈ steps, x.label.1.isBindMulticast = false := by
  have hstart : WellTimed clock ⟨o, ticks, none⟩ :=
    ⟨fun h => absurd rfl h, fun _ h => absurd h (Option.not_mem_none _),
      fun _ h => absurd h (Option.not_mem_none _)⟩
  exact hrun.forall_iff (WellTimed clock) (fun _ _ s' => WellTimed clock s')
    (fun _ label _ => label.1.isBindMulticast = false)
    (fun _ _ _ hstep hs => well_timed_step_iff hmono hstep hs)
    (fun _ _ _ hstep hs hcond => (well_timed_step_iff hmono hstep hs).mpr hcond) hstart

/-- A clock that counts seconds. -/
def seconds (n : ℕ) : Timeval := ⟨n, 0⟩

theorem monotone_seconds : Monotone seconds := by
  intro i j h
  rw [Timeval.le_def]
  simp only [seconds]
  omega

/-- A process with that clock, in which it has been read so often. -/
def Os.counting (ticks : ℕ) (script : Script) : Os :=
  { Os.idle script with clock := seconds, ticks := ticks }

/-- A new object, before its timer has run. -/
def Timing.new : Timing := ⟨CSimpleSocket.construct .zeroed .socketTypeUdp, 0, none⟩

/-- An object is initialized, and then listens from the second second to the third. -/
theorem well_timed_listening : Monotone seconds ∧
    ∃ steps t, Run (TimedStep .passive seconds) .new steps t ∧ t.last = some (2, 4) ∧
      ∀ x ∈ steps, WellTimed seconds x.post := by
  have hinit : ∃ s, TimedStep .passive seconds .new
      (.initializeSocket, .counting 0 { socket := [.ok 3] }) s ∧ ∃ t, TimedStep .passive seconds s
        (.listen none 7 1, .counting 2 { setsockopt := [.ok (), .ok ()], bind := [.ok ()] }) t ∧
          t.last = some (2, 4) :=
    ⟨_, .called rfl rfl rfl (by decide) rfl, _, .called rfl rfl rfl (by decide) rfl, rfl⟩
  obtain ⟨s, hinit, t, hlisten, hlast⟩ := hinit
  have hrun : Run (TimedStep .passive seconds) .new _ t := .cons hinit (.cons hlisten (.nil t))
  refine ⟨monotone_seconds, _, t, hrun, hlast, (well_timed_iff monotone_seconds hrun).mpr ?_⟩
  simp [Op.isBindMulticast]

/-- A `BindMulticast` three seconds in starts at three and ends at zero. -/
theorem not_well_timed_multicast : Monotone seconds ∧
    ∃ steps t, Run (TimedStep .passive seconds) .new steps t ∧ t.last = some (2, 4) ∧
      t.self.m_timer.toCStatTimer = ⟨⟨3, 0⟩, ⟨0, 0⟩⟩ ∧ ¬ ∀ x ∈ steps, WellTimed seconds x.post := by
  have hinit : ∃ s, TimedStep .passive seconds .new
      (.initializeSocket, .counting 0 { socket := [.ok 3] }) s ∧ ∃ t, TimedStep .passive seconds s
        (.bindMulticast none "239.1.1.1" 7, .counting 2 { setsockopt := [.ok ()], bind := [.ok ()] }) t ∧
          t.last = some (2, 4) ∧ t.self.m_timer.toCStatTimer = ⟨⟨3, 0⟩, ⟨0, 0⟩⟩ :=
    ⟨_, .called rfl rfl rfl (by decide) rfl, _, .called rfl rfl rfl (by decide) rfl, rfl, rfl⟩
  obtain ⟨s, hinit, t, hbind, hlast, htimer⟩ := hinit
  refine ⟨monotone_seconds, _, t, .cons hinit (.cons hbind (.nil t)), hlast, htimer, fun h => ?_⟩
  rw [List.forall_mem_cons, List.forall_mem_cons] at h
  have hle := h.2.1.ordered (by simp [hlast])
  rw [htimer] at hle
  exact absurd hle (by decide)

end ClSocket
