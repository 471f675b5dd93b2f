import Mathlib.Logic.Function.Basic
import Mathlib.Tactic.Common

/-!
# Owners and the handles they hold

Owners `ι` each hold at most one handle of `η`, and a table gives every handle in use its owner.
`Matched` says that the two views agree, which makes the holder of a handle in use unique
(`Matched.existsUnique`). An owner that takes a free handle or gives its own back keeps them
matched (`Matched.acquire`, `Matched.release`); an owner that lets go of a handle without giving
it back leaves it with no holder at all (`Matched.lost`).
-/

namespace Ownership

open Function

variable {ι η : Type} {held : ι → Option η} {owner : η → Option ι} {i : ι} {h : η}

/-- An owner holds a handle exactly when the table says so. -/
def Matched (held : ι → Option η) (owner : η → Option ι) : Prop :=
  ∀ i h, held i = some h ↔ owner h = some i

/-- Nothing is held and nothing is in use. -/
theorem matched_empty : Matched (fun _ : ι => none) (fun _ : η => none) := by
  intro i h
  simp

/-- A handle in use has one holder. -/
theorem Matched.existsUnique (hm : Matched held owner) (ho : owner h ≠ none) :
    ∃! i, held i = some h := by
  obtain ⟨i, hi⟩ := Option.ne_none_iff_exists'.mp ho
  refine ⟨i, (hm i h).mpr hi, fun j hj => ?_⟩
  have hji := (hm j h).mp hj
  rw [hi] at hji
  exact (Option.some.inj hji).symm

/-- A free handle is held by no one. -/
theorem Matched.held_ne (hm : Matched held owner) (hfree : owner h = none) (j : ι) :
    held j ≠ some h := by
  intro hj
  have hown := (hm j h).mp hj
  rw [hfree] at hown
  cases hown

variable [DecidableEq ι] [DecidableEq η]

/-- An owner without a handle takes a free one. -/
theorem Matched.acquire (hm : Matched held owner) (hi : held i = none) (hfree : owner h = none) :
    Matched (update held i (some h)) (update owner h (some i)) := by
  intro j k
  rcases eq_or_ne j i with rfl | hj <;> rcases eq_or_ne k h with rfl | hk
  · simp
  · have hno := (hm j k).not.mp (by rw [hi]; simp)
    simpa [hk, hk.symm] using hno
  · have hno := hm.held_ne hfree j
    simpa [hj, hj.symm] using hno
  · simpa [hj, hk] using hm j k

/-- An owner gives its handle back. -/
theorem Matched.release (hm : Matched held owner) (hi : held i = some h) :
    Matched (update held i none) (update owner h none) := by
  intro j k
  have hown := (hm i h).mp hi
  rcases eq_or_ne j i with rfl | hj <;> rcases eq_or_ne k h with rfl | hk
  · simp
  · have hno := (hm j k).not.mp (by rw [hi]; simpa using hk.symm)
    simpa [hk] using hno
  · have hno := (hm j k).not.mpr (by rw [hown]; simpa using hj.symm)
    simpa [hj] using hno
  · simpa [hj, hk] using hm j k

omit [DecidableEq η] in
/-- An owner that forgets its handle leaves it with no holder. -/
theorem Matched.lost (hm : Matched held owner) (hi : held i = some h) {x : Option η}
    (hx : x ≠ some h) (j : ι) : update held i x j ≠ some h := by
  rcases eq_or_ne j i with rfl | hj
  · simpa using hx
  · rw [update_of_ne hj, Ne, hm j h, (hm i h).mp hi]
    simpa using hj.symm

end Ownership
