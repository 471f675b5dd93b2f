import Mathlib.Data.List.Infix
import ClSocket.Framework.Monitor

/-!
# Two parties and what is in flight between them

The events of two parties, each with a party's name, make one log; the order in which the parties
come is left open. An event may put items on the way to the other party and may take items that
have arrived. `Channel.monitor` is a link that keeps the items of each direction in order and hands
them out from the front: it accepts a log when every event takes only what is in flight to its
party.

`Channel.conserved` says what such a link guarantees, in whatever way the parties are interleaved:
what one of them has put is what the other has taken followed by what is in flight.
-/

namespace Channel

variable {α ε : Type}

/-- What a party did. -/
def doneBy (i : Bool) (log : List (Bool × ε)) : List ε :=
  log.filterMap fun x => if x.1 = i then some x.2 else none

@[simp] theorem doneBy_nil (i : Bool) : doneBy i ([] : List (Bool × ε)) = [] := rfl

@[simp] theorem doneBy_cons_self (i : Bool) (e : ε) (log : List (Bool × ε)) :
    doneBy i ((i, e) :: log) = e :: doneBy i log := by simp [doneBy]

@[simp] theorem doneBy_cons_other (i : Bool) (e : ε) (log : List (Bool × ε)) :
    doneBy i ((!i, e) :: log) = doneBy i log := by simp [doneBy]

@[simp] theorem doneBy_not_cons (i : Bool) (e : ε) (log : List (Bool × ε)) :
    doneBy (!i) ((i, e) :: log) = doneBy (!i) log := by simp [doneBy]

theorem exists_of_mem_doneBy {i : Bool} {e : ε} {log : List (Bool × ε)} (h : e ∈ doneBy i log) :
    ∃ x ∈ log, x.2 = e := by
  obtain ⟨x, hx, hxe⟩ := List.mem_filterMap.mp h
  split at hxe
  · exact ⟨x, hx, Option.some.inj hxe⟩
  · cases hxe

/-- A link with a queue for what each party has put. -/
def monitor (put took : ε → List α) : Monitor (Bool → List α) (Bool × ε) where
  next q x := fun i => if i = x.1 then q i ++ put x.2 else (q i).drop (took x.2).length
  ok q x := took x.2 <+: q (!x.1)

instance [DecidableEq α] (put took : ε → List α) (q : Bool → List α) (x : Bool × ε) :
    Decidable ((monitor put took).ok q x) := inferInstanceAs (Decidable (took x.2 <+: q (!x.1)))

variable {put took : ε → List α}

/-- **Nothing is lost, made up or reordered** on the way. -/
theorem conserved {q : Bool → List α} {log : List (Bool × ε)}
    (h : (monitor put took).Accepts q log) (i : Bool) :
    q i ++ (doneBy i log).flatMap put =
      (doneBy (!i) log).flatMap took ++ (monitor put took).after q log i := by
  -- along the log; an event of the party puts at the end, one of the other takes from the front
  induction log generalizing q with
  | nil => simp
  | cons x log ih =>
    obtain ⟨j, e⟩ := x
    obtain ⟨hok, hrest⟩ := h
    have hgo := ih hrest
    rw [Monitor.after_cons]
    rcases eq_or_ne i j with rfl | hne
    · have hq : (monitor put took).next q (i, e) i = q i ++ put e := if_pos rfl
      rw [hq] at hgo
      rw [doneBy_cons_self, doneBy_not_cons, List.flatMap_cons, ← hgo, List.append_assoc]
    · obtain rfl : j = !i := by
        cases i <;> cases j <;> first | rfl | exact absurd rfl hne
      have hq : (monitor put took).next q (!i, e) i = (q i).drop (took e).length := if_neg hne
      have hfront : took e ++ (q i).drop (took e).length = q i := by
        have hprefix : took e <+: q (!!i) := hok
        rw [Bool.not_not] at hprefix
        exact List.prefix_append_drop hprefix |>.symm
      rw [hq] at hgo
      rw [doneBy_cons_other, doneBy_cons_self, List.flatMap_cons, List.append_assoc, ← hgo,
        ← List.append_assoc, hfront]

/-- On a link that was empty the one party has taken the front of what the other has put. -/
theorem took_prefix {log : List (Bool × ε)} (h : (monitor put took).Accepts (fun _ => []) log)
    (i : Bool) : (doneBy (!i) log).flatMap took <+: (doneBy i log).flatMap put :=
  ⟨_, (conserved h i).symm⟩

end Channel
