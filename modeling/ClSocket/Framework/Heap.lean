import Mathlib.Data.List.Induction
import Mathlib.Data.Set.Insert
import Mathlib.Logic.Function.Basic
import ClSocket.Framework.Monitor

/-!
# A heap, seen from the calls on it

A heap is what can be told of it from the blocks that are allocated and freed: which are live, how
large they are, and which have been in use. As a monitor (`Heap.rules`), it allows the allocation of a
block that was never in use, and freeing a live one. So whoever is accepted by it frees no block twice
and none that is not there, and the books balance: each block was allocated once at most
(`allocs_le_one`), and freed as often as it was allocated unless it is live (`balanced_of_accepts`).

`Sole` speaks of an owner that has one block at a time: it is the only live one.
-/

open Function

/-- The calls on a heap: with blocks of `η`, and sizes of `ν`. -/
inductive HeapCall (η ν : Type) where
  | alloc (h : η) (n : ν)
  | free (h : η)
  deriving DecidableEq

/-- The live blocks with their sizes, and all blocks that have been in use. -/
structure Heap (η ν : Type) where
  live : η → Option ν
  used : Set η

namespace Heap

variable {η ν : Type}

/-- Nothing has been allocated. -/
def empty : Heap η ν := ⟨fun _ => none, ∅⟩

variable [DecidableEq η]

/-- The rules. -/
def rules : Monitor (Heap η ν) (HeapCall η ν) where
  next s
    | .alloc h n => ⟨update s.live h (some n), insert h s.used⟩
    | .free h => ⟨update s.live h none, s.used⟩
  ok s
    | .alloc h _ => h ∉ s.used
    | .free h => s.live h ≠ none

/-- How often a block was allocated. -/
def allocs (h : η) (cs : List (HeapCall η ν)) : ℕ :=
  cs.countP fun
    | .alloc h' _ => h' = h
    | .free _ => false

/-- How often it was freed. -/
def frees (h : η) (cs : List (HeapCall η ν)) : ℕ :=
  cs.countP fun
    | .alloc _ _ => false
    | .free h' => h' = h

/-- One for a live block. -/
def liveCount (s : Heap η ν) (h : η) : ℕ := if (s.live h).isSome then 1 else 0

section

variable {s : Heap η ν} {h h' : η} {n : ν} {cs : List (HeapCall η ν)}

/-! ### The books -/

theorem allocs_alloc_self : allocs h (cs ++ [.alloc h n]) = allocs h cs + 1 := by simp [allocs]

theorem frees_free_self : frees h (cs ++ [.free h]) = frees h cs + 1 := by simp [frees]

theorem allocs_alloc_of_ne (hne : h' ≠ h) : allocs h (cs ++ [.alloc h' n]) = allocs h cs := by
  simp [allocs, hne]

theorem frees_free_of_ne (hne : h' ≠ h) : frees h (cs ++ [.free h']) = frees h cs := by
  simp [frees, hne]

theorem allocs_free : allocs h (cs ++ [.free h']) = allocs h cs := by simp [allocs]

theorem frees_alloc : frees h (cs ++ [.alloc h' n]) = frees h cs := by simp [frees]

theorem liveCount_alloc_self : liveCount (rules.next s (.alloc h n)) h = 1 := by
  simp [liveCount, rules]

theorem liveCount_free_self : liveCount (rules.next s (.free h)) h = 0 := by
  simp [liveCount, rules]

theorem liveCount_alloc_of_ne (hne : h' ≠ h) :
    liveCount (rules.next s (.alloc h' n)) h = liveCount s h := by
  simp [liveCount, rules, update_of_ne hne.symm]

theorem liveCount_free_of_ne (hne : h' ≠ h) :
    liveCount (rules.next s (.free h')) h = liveCount s h := by
  simp [liveCount, rules, update_of_ne hne.symm]

/-- What the books say of one block: it was allocated once if it has been in use, and freed as often
unless it is live. -/
structure Balanced (cs : List (HeapCall η ν)) (h : η) : Prop where
  used : h ∈ (rules.after empty cs).used → allocs h cs = 1
  unused : h ∉ (rules.after empty cs).used → allocs h cs = 0
  balance : allocs h cs = frees h cs + liveCount (rules.after empty cs) h

/-- **The books balance.** -/
theorem balanced_of_accepts (hcs : rules.Accepts empty cs) (h : η) : Balanced cs h := by
  induction cs using List.reverseRecOn with
  | nil => exact ⟨fun hmem => absurd hmem (Set.notMem_empty h), fun _ => rfl, rfl⟩
  | append_singleton cs c ih =>
    rw [Monitor.accepts_concat] at hcs
    obtain ⟨hcs, hok⟩ := hcs
    obtain ⟨hused, hunused, hbalance⟩ := ih hcs
    have hafter : rules.after empty (cs ++ [c]) = rules.next (rules.after empty cs) c := by simp
    cases c with
    | alloc h' n =>
      by_cases hne : h' = h
      · -- the block was not in use, so the books say nothing of it yet
        subst hne
        have hzero := hunused hok
        refine ⟨fun _ => ?_, fun hnot => ?_, ?_⟩
        · rw [allocs_alloc_self, hzero]
        · rw [hafter] at hnot
          exact absurd (Set.mem_insert _ _) hnot
        · rw [hafter, allocs_alloc_self, frees_alloc, liveCount_alloc_self]
          omega
      -- another block: nothing that is counted of `h` changes
      · have hmem : h ∈ (rules.after empty (cs ++ [.alloc h' n])).used ↔
            h ∈ (rules.after empty cs).used := by
          rw [hafter]
          exact ⟨fun hm => hm.resolve_left (Ne.symm hne), Or.inr⟩
        refine ⟨?_, ?_, ?_⟩
        · rwa [hmem, allocs_alloc_of_ne hne]
        · rwa [hmem, allocs_alloc_of_ne hne]
        · rwa [hafter, allocs_alloc_of_ne hne, frees_alloc, liveCount_alloc_of_ne hne]
    | free h' =>
      -- a block that is freed has still been used
      have hsame : (rules.after empty (cs ++ [.free h'])).used = (rules.after empty cs).used := by
        rw [hafter]
        rfl
      refine ⟨?_, ?_, ?_⟩
      · rwa [hsame, allocs_free]
      · rwa [hsame, allocs_free]
      · rw [hafter, allocs_free]
        by_cases hne : h' = h
        · subst hne
          -- the rules let `h` be freed only while it is live
          have hlive : liveCount (rules.after empty cs) h' = 1 := if_pos (Option.isSome_iff_ne_none.mpr hok)
          rw [frees_free_self, liveCount_free_self]
          omega
        · rwa [frees_free_of_ne hne, liveCount_free_of_ne hne]

/-- No block is allocated twice. -/
theorem allocs_le_one (hcs : rules.Accepts empty cs) (h : η) : allocs h cs ≤ 1 := by
  have hb := balanced_of_accepts hcs h
  by_cases hmem : h ∈ (rules.after empty cs).used
  · exact (hb.used hmem).le
  · rw [hb.unused hmem]
    exact Nat.zero_le 1

/-- Nor is one freed more often than it was allocated. -/
theorem frees_le_allocs (hcs : rules.Accepts empty cs) (h : η) : frees h cs ≤ allocs h cs := by
  rw [(balanced_of_accepts hcs h).balance]
  exact Nat.le_add_right ..

/-- A block that is not live has been freed. -/
theorem frees_eq_allocs (hcs : rules.Accepts empty cs) (hdead : (rules.after empty cs).live h = none) :
    frees h cs = allocs h cs := by
  rw [(balanced_of_accepts hcs h).balance, liveCount, hdead]
  rfl

/-- A block that was never allocated has not been in use. -/
theorem notMem_used (hcs : rules.Accepts empty cs) (hnone : allocs h cs = 0) :
    h ∉ (rules.after empty cs).used := by
  intro hmem
  have hone := (balanced_of_accepts hcs h).used hmem
  rw [hnone] at hone
  cases hone

/-! ### One block at a time -/

/-- The block, with its size, is the only live one. -/
def Sole (s : Heap η ν) (block : Option (η × ν)) : Prop :=
  ∀ h n, s.live h = some n ↔ block = some (h, n)

omit [DecidableEq η] in
theorem sole_empty : Sole (empty : Heap η ν) none := by
  intro h n
  simp [empty]

/-- An owner of nothing takes an unused block. -/
theorem Sole.alloc (hs : Sole s none) (h : η) (n : ν) :
    Sole (rules.next s (.alloc h n)) (some (h, n)) := by
  intro h' n'
  by_cases hne : h' = h
  · subst hne
    simp [rules]
  · have hno := hs h' n'
    simpa [rules, update_of_ne hne, Ne.symm hne] using hno

/-- An owner gives its block back. -/
theorem Sole.free (hs : Sole s (some (h, n))) :
    rules.ok s (.free h) ∧ Sole (rules.next s (.free h)) none := by
  have hlive : s.live h = some n := (hs h n).mpr rfl
  refine ⟨by simp [rules, hlive], fun h' n' => ?_⟩
  by_cases hne : h' = h
  · subst hne
    simp [rules]
  · have hno := hs h' n'
    simpa [rules, update_of_ne hne, Ne.symm hne] using hno

omit [DecidableEq η] in
/-- The owner of nothing leaves nothing. -/
theorem Sole.live_eq_none (hs : Sole s none) (h : η) : s.live h = none := by
  cases hlive : s.live h with
  | none => rfl
  | some n => cases (hs h n).mp hlive

end

end Heap
