import Mathlib.Data.List.TakeWhile
import ClSocket.Model.Op
import ClSocket.Transfer.Sending

/-!
# Whether `Send` sends once

A call that a signal interrupts has sent nothing and is to be made again; any other answer is
to end `Send`. `SendsOnce` says this of a call of `Send`: as many system calls as there are
interrupted ones at the front of the answers, and one more.

The loop asks `errno` instead of the answer, and a successful call does not clear `errno`. So
a success after an interrupted call, or with `EINTR` left over from before `Send`, is taken for
another interruption and the block is sent again. `send_once_iff` is the exact condition:
when the first answer that is not an interruption is a success, it has to be the first
answer of all, with `errno` clean at entry and a count that fits the 32-bit result.
-/

namespace ClSocket

open Prog

/-- A call that succeeded. -/
def Answer.isOk {α : Type} : Answer α → Bool
  | .ok _ => true
  | .fail _ => false

/-- The sending calls an outcome has made, the one it waits in included. -/
def callsMade {α : Type} : Outcome State Stop α → ℕ
  | .done _ t => (sentIn t.trace).length
  | .stop _ t => (sentIn t.trace).length + 1

/-- **Sending once**: what a call of `Send` with these answers ahead is to do. -/
structure SendsOnce (data : Bytes) (answers : List (Answer ℕ)) (r : Outcome State Stop Int) :
    Prop where
  /-- One call for every interruption at the front, and one more. -/
  calls : callsMade r = (answers.takeWhile Answer.interrupted).length + 1
  /-- Every call sends the whole block. -/
  whole : ∀ p ∈ sentIn r.state.trace, p.1 = data
  /-- At most one of them succeeds. -/
  once : (sentIn r.state.trace).countP (fun p => p.2.isOk) ≤ 1
  /-- The result is the last call's. -/
  result : ∀ n t, r = .done n t → ∃ p, (sentIn t.trace).getLast? = some p ∧ n = p.2.ret
  /-- An answer other than an interruption ends the loop. -/
  ends : (∃ a ∈ answers, a.interrupted = false) → ∃ n t, r = .done n t

/-- A first real answer that is a success comes first of all, with `errno` clean, and its
count fits. -/
def AnsweredAtOnce (errno : Int) (answers : List (Answer ℕ)) : Prop :=
  ∀ k, answers.find? (fun a => !a.interrupted) = some (.ok k) →
    answers.head? = some (.ok k) ∧ errno ≠ EINTR ∧ InInt32 k

/-! ### The answers the loop takes -/

section Answers

variable {e : Int} {answers : List (Answer ℕ)}

theorem errno_of_interrupted {α : Type} {a : Answer α} (h : a.interrupted = true) (e : Int) :
    Interrupted (errnoAfter e a) := by
  cases a with
  | ok k => cases h
  | fail f => simpa [Answer.interrupted] using h

theorem ne_of_not_interrupted {α : Type} {f : Errno}
    (h : (Answer.fail f : Answer α).interrupted = false) (e : Int) :
    ¬ Interrupted (errnoAfter e (Answer.fail f : Answer α)) := by
  simpa [Answer.interrupted] using h

/-- `errno` after interruptions. -/
theorem foldl_interrupted {pre : List (Answer ℕ)} (h : ∀ a ∈ pre, a.interrupted = true)
    (hne : pre ≠ []) : pre.foldl errnoAfter e = EINTR := by
  obtain ⟨init, a, rfl⟩ := List.eq_nil_or_concat'  pre |>.resolve_left hne
  rw [List.foldl_append]
  exact errno_of_interrupted (h a (by simp)) _

/-- The first real answer, when it is a success, comes first of all, with `errno` clean. -/
def CleanStart (e : Int) (answers : List (Answer ℕ)) : Prop :=
  ∀ k, answers.find? (fun a => !a.interrupted) = some (.ok k) →
    answers.head? = some (.ok k) ∧ e ≠ EINTR

/-- The interruptions at the front are taken one by one. -/
theorem takeWhile_interrupted (answers : List (Answer ℕ)) :
    ∀ a ∈ answers.takeWhile Answer.interrupted, ∀ m, Interrupted (errnoAfter m a) :=
  fun _ h m => errno_of_interrupted (List.mem_takeWhile_imp h) m

/-- From a clean start the loop takes the interruptions and one answer more. -/
theorem CleanStart.taken_eq (h : CleanStart e answers) :
    takenFrom e answers = answers.takeWhile Answer.interrupted ++
      (answers.dropWhile Answer.interrupted).take 1 ∧
    (LeavesFrom e answers ↔ answers.dropWhile Answer.interrupted ≠ []) := by
  have hsplit := List.takeWhile_append_dropWhile (l := answers) (p := Answer.interrupted)
  have hfind := List.find?_not_eq_head?_dropWhile Answer.interrupted answers
  have htaken := Retry.taken_append e (answers.dropWhile Answer.interrupted)
    (takeWhile_interrupted answers)
  have hleaves := Retry.finished_append e (answers.dropWhile Answer.interrupted)
    (takeWhile_interrupted answers)
  rw [hsplit] at htaken hleaves
  rw [takenFrom, LeavesFrom, htaken, hleaves]
  cases hrest : answers.dropWhile Answer.interrupted with
  | nil => simp
  | cons a rest =>
    have ha : a.interrupted = false := by
      have := List.head_dropWhile_not Answer.interrupted (l := answers) (by simp [hrest])
      simpa [hrest] using this
    -- the answer behind the interruptions ends the loop: a failure by its own `errno`, a success by
    -- the one it finds, which is that of the entry as nothing went before it
    have hstop : ¬ Interrupted (errnoAfter
        ((answers.takeWhile Answer.interrupted).foldl errnoAfter e) a) := by
      cases a with
      | fail f => exact ne_of_not_interrupted ha _
      | ok k =>
        obtain ⟨hhead, he⟩ := h k (by rw [hfind, hrest]; rfl)
        have hpre : answers.takeWhile Answer.interrupted = [] := by
          cases answers with
          | nil => rfl
          | cons b bs =>
            obtain rfl : b = .ok k := by simpa using hhead
            rfl
        rw [hpre]
        exact he
    rw [Retry.taken_leave hstop]
    exact ⟨rfl, by simpa using Retry.finished_leave hstop⟩

/-- So it makes one call for every interruption at the front, and one more. -/
theorem CleanStart.issued_eq (h : CleanStart e answers) :
    Retry.issued errnoAfter Interrupted e answers =
      (answers.takeWhile Answer.interrupted).length + 1 := by
  obtain ⟨htaken, hleaves⟩ := h.taken_eq
  change (takenFrom e answers).length + (if LeavesFrom e answers then 0 else 1) = _
  rw [htaken, List.length_append, Nat.add_assoc]
  congr 1
  cases hrest : answers.dropWhile Answer.interrupted with
  | nil => simp [hleaves, hrest]
  | cons a rest => simp [hleaves, hrest]

/-- When the last answer taken from a clean start is a success, it is the first real one. -/
theorem CleanStart.last_ok (h : CleanStart e answers) {k : ℕ}
    (hk : (takenFrom e answers).getLast? = some (.ok k)) :
    answers.find? (fun a => !a.interrupted) = some (.ok k) := by
  rw [List.find?_not_eq_head?_dropWhile]
  rw [h.taken_eq.1] at hk
  cases hrest : answers.dropWhile Answer.interrupted with
  | nil =>
    rw [hrest, List.take_nil, List.append_nil] at hk
    have := List.mem_takeWhile_imp (List.mem_of_getLast? hk)
    cases this
  | cons a rest =>
    rw [hrest] at hk
    simpa using hk

theorem isOk_of_interrupted {α : Type} {a : Answer α} (h : a.interrupted = true) :
    a.isOk = false := by
  cases a with
  | ok k => cases h
  | fail f => rfl

/-- From any other start it makes more calls. -/
theorem issued_of_not_cleanStart (h : ¬ CleanStart e answers) :
    (answers.takeWhile Answer.interrupted).length + 1 <
      Retry.issued errnoAfter Interrupted e answers := by
  have hsplit := List.takeWhile_append_dropWhile (l := answers) (p := Answer.interrupted)
  have hissued := Retry.issued_append e (answers.dropWhile Answer.interrupted)
    (takeWhile_interrupted answers)
  rw [hsplit] at hissued
  simp only [CleanStart, not_forall] at h
  obtain ⟨k, hk, hn⟩ := h
  obtain ⟨rest, hrest⟩ : ∃ rest, answers.dropWhile Answer.interrupted = .ok k :: rest := by
    rw [List.find?_not_eq_head?_dropWhile] at hk
    exact List.head?_eq_some_iff.mp hk
  -- the success meets `EINTR`, of an interruption or of the entry, so one more call follows
  have hmem : Interrupted ((answers.takeWhile Answer.interrupted).foldl errnoAfter e) := by
    by_contra hne
    cases hpre : answers.takeWhile Answer.interrupted with
    | nil =>
      rw [hpre] at hne hsplit
      refine hn ⟨?_, hne⟩
      rw [← hsplit, hrest]
      rfl
    | cons b bs =>
      exact hne (foldl_interrupted (fun a ha => List.mem_takeWhile_imp ha) (by rw [hpre]; simp))
  have hpos : 0 < Retry.issued errnoAfter Interrupted
      (errnoAfter ((answers.takeWhile Answer.interrupted).foldl errnoAfter e) (.ok k)) rest :=
    Retry.issued_pos _ _
  rw [hissued, hrest, Retry.issued_again (a := Answer.ok k) hmem]
  omega

end Answers

/-! ### The outcome of `Send` -/

section Outcome

open CSimpleSocket

variable (o : CSimpleSocket) (os : Os) (buf : Bytes) (n : ℕ)

/-- `Send` returns when the loop leaves, and otherwise waits with everything taken. -/
theorem send_outcome (hvalid : o.isSocketValid = true)
    (htype : o.m_nSocketType = .socketTypeTcp ∨ o.m_nSocketType = .socketTypeUdp) (hn : 0 < n) :
    (∃ k t, call (send (some buf) n) o os = .done k t ∧
      LeavesFrom os.errno (sendAnswers o.m_nSocketType os.script) ∧
      sentIn t.trace = (takenFrom os.errno (sendAnswers o.m_nSocketType os.script)).map
        (fun a => (buf.take n, a)) ∧
      ∀ a, (takenFrom os.errno (sendAnswers o.m_nSocketType os.script)).getLast? = some a →
        k = narrow a.ret) ∨
    (∃ e t, call (send (some buf) n) o os = .stop e t ∧
      ¬ LeavesFrom os.errno (sendAnswers o.m_nSocketType os.script) ∧
      sentIn t.trace = (sendAnswers o.m_nSocketType os.script).map
        (fun a => (buf.take n, a))) := by
  have h := wp_send (s := ⟨o, os, []⟩) buf n hvalid htype hn
  unfold call
  unfold wp at h
  cases hr : send (some buf) n ⟨o, os, []⟩ with
  | done k t =>
    rw [hr] at h
    obtain ⟨hl, hs, rfl⟩ := h
    refine Or.inl ⟨_, t, rfl, hl, ?_, hs.count⟩
    rw [hs.trace_eq, List.nil_append, sentIn_events]
  | stop e t =>
    rw [hr] at h
    obtain ⟨hl, -, hs⟩ := h
    refine Or.inr ⟨e, t, rfl, hl, ?_⟩
    rw [hs.trace_eq, List.nil_append, sentIn_events]

/-- The calls `Send` makes are those of the retry loop. -/
theorem callsMade_send (hvalid : o.isSocketValid = true)
    (htype : o.m_nSocketType = .socketTypeTcp ∨ o.m_nSocketType = .socketTypeUdp) (hn : 0 < n) :
    callsMade (call (send (some buf) n) o os) =
      Retry.issued errnoAfter Interrupted os.errno (sendAnswers o.m_nSocketType os.script) := by
  obtain ⟨k, t, hr, hl, ht, -⟩ | ⟨e, t, hr, hl, ht⟩ := send_outcome o os buf n hvalid htype hn
  · rw [hr, callsMade, ht, List.length_map, Retry.issued, if_pos hl, Nat.add_zero]
  · rw [hr, callsMade, ht, List.length_map, Retry.issued, if_neg hl,
      Retry.taken_of_not_finished hl]

/-- **When `Send` sends once.** -/
theorem send_once_iff (hvalid : o.isSocketValid = true)
    (htype : o.m_nSocketType = .socketTypeTcp ∨ o.m_nSocketType = .socketTypeUdp) (hn : 0 < n) :
    SendsOnce (buf.take n) (sendAnswers o.m_nSocketType os.script)
        (call (send (some buf) n) o os) ↔
      AnsweredAtOnce os.errno (sendAnswers o.m_nSocketType os.script) := by
  have hcalls := callsMade_send o os buf n hvalid htype hn
  have hout := send_outcome o os buf n hvalid htype hn
  generalize call (send (some buf) n) o os = r at hcalls hout ⊢
  generalize sendAnswers o.m_nSocketType os.script = answers at hcalls hout ⊢
  constructor
  · intro h k hk
    -- more calls than interruptions and one would have been made otherwise
    have hclean : CleanStart os.errno answers := by
      by_contra hn
      exact absurd (hcalls.symm.trans h.calls) (issued_of_not_cleanStart hn).ne'
    obtain ⟨hhead, he⟩ := hclean k hk
    refine ⟨hhead, he, narrow_eq_self.mp ?_⟩
    -- the first real answer is there, so `Send` returned the count it stored
    have hrest : (answers.dropWhile Answer.interrupted).head? = some (.ok k) := by
      rw [← List.find?_not_eq_head?_dropWhile]
      exact hk
    obtain ⟨rest, hrest⟩ := List.head?_eq_some_iff.mp hrest
    obtain ⟨htaken, hleaves⟩ := hclean.taken_eq
    rw [hrest] at htaken hleaves
    obtain ⟨n, t, rfl, -, ht, hcount⟩ | ⟨e, t, -, hl, -⟩ := hout
    · obtain ⟨p, hp, rfl⟩ := h.result n t rfl
      rw [ht, htaken] at hp
      obtain rfl : (buf.take _, Answer.ok k) = p := by simpa using hp
      exact (hcount (.ok k) (by rw [htaken]; simp)).symm
    · exact absurd (hleaves.mpr (by simp)) hl
  · intro h
    have hclean : CleanStart os.errno answers := fun k hk => ⟨(h k hk).1, (h k hk).2.1⟩
    obtain ⟨htaken, hleaves⟩ := hclean.taken_eq
    have hsent : sentIn r.state.trace = (takenFrom os.errno answers).map
        fun a => (buf.take n, a) := by
      obtain ⟨k, t, rfl, -, ht, -⟩ | ⟨e, t, rfl, hl, ht⟩ := hout
      · exact ht
      · rw [takenFrom, Retry.taken_of_not_finished hl]
        exact ht
    refine ⟨?calls, ?whole, ?once, ?result, ?ends⟩
    case calls => rw [hcalls, hclean.issued_eq]
    case whole =>
      rw [hsent]
      simp
    case once =>
      rw [hsent, htaken, List.countP_map, List.countP_append]
      have hpre : (answers.takeWhile Answer.interrupted).countP
          ((fun p => p.2.isOk) ∘ fun a => (buf.take n, a)) = 0 :=
        List.countP_eq_zero.mpr fun a ha => by
          simpa using isOk_of_interrupted (List.mem_takeWhile_imp ha)
      rw [hpre, Nat.zero_add]
      exact List.countP_le_length.trans (List.length_take_le 1 _)
    -- the count that `Send` stored is that of the last answer taken
    case result =>
      rintro k t rfl
      obtain ⟨k, t, hr, hl, ht, hcount⟩ | ⟨e, t, hr, -, -⟩ := hout
      · cases hr
        obtain ⟨pre, a, hlast, -⟩ := Retry.exists_last hl
        have hget : (takenFrom os.errno answers).getLast? = some a := by
          rw [takenFrom, hlast]
          simp
        refine ⟨(buf.take n, a), by rw [ht, List.getLast?_map, hget]; rfl, ?_⟩
        rw [hcount a hget]
        cases a with
        | fail e => rfl
        | ok k => exact narrow_eq_self.mpr (h k (hclean.last_ok hget)).2.2
      · cases hr
    -- an answer that is no interruption is there, so the loop leaves
    case ends =>
      rintro ⟨a, ha, hne⟩
      obtain ⟨k, t, hr, -⟩ | ⟨e, t, -, hl, -⟩ := hout
      · exact ⟨k, t, hr⟩
      · refine absurd (hleaves.mpr fun hnil => ?_) hl
        rw [List.dropWhile_eq_nil_iff] at hnil
        exact absurd (hnil a ha) (by simp [hne])

/-- A block answered at once is sent once. -/
theorem send_once_answered :
    SendsOnce [7, 8, 9] [.ok 3]
      (call (send (some [7, 8, 9]) 3) (.holding .socketTypeTcp 3) (.idle { send := [.ok 3] })) :=
  (send_once_iff (.holding .socketTypeTcp 3) (.idle { send := [.ok 3] }) [7, 8, 9] 3
    (by decide) (by decide) (by decide)).mpr fun k hk => by
      obtain rfl : 3 = k := by simpa using Option.some.inj hk
      decide

/-- A signal before the answer, and the block is put on the wire twice. -/
theorem send_twice_after_signal :
    ¬ SendsOnce [7, 8, 9] [.fail ⟨EINTR, by decide⟩, .ok 3, .ok 3]
      (call (send (some [7, 8, 9]) 3) (.holding .socketTypeTcp 3)
        (.idle { send := [.fail ⟨EINTR, by decide⟩, .ok 3, .ok 3] })) :=
  fun h => absurd h.once (by decide)

end Outcome

end ClSocket
