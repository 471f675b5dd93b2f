import Mathlib.Algebra.GroupWithZero.Nat
import Mathlib.Data.List.Basic
import Mathlib.Tactic.Common

/-!
# Blocks that went out in part

A list of blocks is to go out one after the other, and of the first of them some count of items
each has gone (`accepted`); a count may be short. What has gone out is a prefix of all blocks
together exactly when, after the first short count, what went of the later blocks happens to be
what was due (`Follows`). Nothing having gone after it is the ordinary way for that (`EndsShort`).
-/

namespace Blocks

variable {α : Type}

/-- What has gone out, when so many of each block have. -/
def accepted (bs : List (List α)) (ks : List ℕ) : List α :=
  (List.zipWith (fun b k => b.take k) bs ks).flatten

/-- What has gone out after the first short block is what was due there. -/
def Follows : List (List α) → List ℕ → Prop
  | b :: bs, k :: ks =>
    if k < b.length then accepted bs ks <+: b.drop k ++ bs.flatten else Follows bs ks
  | _, _ => True

@[simp] theorem accepted_nil (ks : List ℕ) : accepted ([] : List (List α)) ks = [] := rfl

@[simp] theorem accepted_nil_right (bs : List (List α)) : accepted bs [] = [] := by
  cases bs <;> rfl

@[simp] theorem accepted_cons (b : List α) (bs : List (List α)) (k : ℕ) (ks : List ℕ) :
    accepted (b :: bs) (k :: ks) = b.take k ++ accepted bs ks := rfl

/-- **Prefix or not.** -/
theorem accepted_prefix_iff : ∀ (bs : List (List α)) (ks : List ℕ),
    accepted bs ks <+: bs.flatten ↔ Follows bs ks
  | [], _ => by simp [Follows]
  | _ :: _, [] => by simp [Follows]
  | b :: bs, k :: ks => by
    rw [accepted_cons, List.flatten_cons]
    by_cases hk : k < b.length
    · -- the short block leaves a rest, which the next items have to meet
      have hsplit : b ++ bs.flatten = b.take k ++ (b.drop k ++ bs.flatten) := by
        rw [← List.append_assoc, List.take_append_drop]
      rw [hsplit, List.prefix_append_right_inj, Follows, if_pos hk]
    · rw [List.take_of_length_le (Nat.le_of_not_lt hk), List.prefix_append_right_inj, Follows,
        if_neg hk]
      exact accepted_prefix_iff bs ks

/-- Nothing has gone after the first short block. -/
def EndsShort : List (List α) → List ℕ → Prop
  | b :: bs, k :: ks => if k < b.length then ∀ j ∈ ks, j = 0 else EndsShort bs ks
  | _, _ => True

theorem accepted_eq_nil : ∀ (bs : List (List α)) {ks : List ℕ}, (∀ j ∈ ks, j = 0) → accepted bs ks = []
  | [], _, _ => rfl
  | bs, [], _ => accepted_nil_right bs
  | b :: bs, k :: ks, h => by
    rw [List.forall_mem_cons] at h
    rw [accepted_cons, h.1, List.take_zero, List.nil_append]
    exact accepted_eq_nil bs h.2

/-- Then what has gone out is a prefix. -/
theorem EndsShort.follows : ∀ {bs : List (List α)} {ks : List ℕ}, EndsShort bs ks → Follows bs ks
  | [], _, _ => trivial
  | _ :: _, [], _ => trivial
  | b :: bs, k :: ks, h => by
    rw [EndsShort] at h
    rw [Follows]
    split at h
    case isTrue hk =>
      rw [if_pos hk, accepted_eq_nil bs h]
      exact List.nil_prefix
    case isFalse hk =>
      rw [if_neg hk]
      exact EndsShort.follows h

/-- Counts that fit their blocks add up to what has gone out. -/
theorem length_accepted : ∀ {bs : List (List α)} {ks : List ℕ},
    (∀ p ∈ bs.zip ks, p.2 ≤ p.1.length) → (accepted bs ks).length = (ks.take bs.length).sum
  | [], ks, _ => by simp
  | _ :: _, [], _ => by simp
  | b :: bs, k :: ks, h => by
    rw [List.zip_cons_cons, List.forall_mem_cons] at h
    rw [accepted_cons, List.length_append, length_accepted h.2, List.length_take,
      Nat.min_eq_left h.1]
    simp

end Blocks
