import Mathlib.Tactic.Common

/-!
# Runs of a step relation

`Run step s steps t` says that the steps lead from `s` to `t` one after the other; each is
recorded with the states before and after it (`Taken`), so a property of a run is a property of
the members of the list.

`Run.invariant` and `Run.forall_iff` carry the inductions over runs. By the first what every step
keeps holds throughout. By the second, to tell on which runs every step is good, it is
enough to tell from an invariant which single steps are, as long as those steps keep the
invariant. A run is then good exactly when each of its steps meets the condition: up to the first
step that does not, the invariant holds, and at that step it tells that the step is not good.
-/

/-- A step that was taken. -/
structure Taken (σ ε : Type) where
  pre : σ
  label : ε
  post : σ

/-- The steps lead from one state to the other. -/
inductive Run {σ ε : Type} (step : σ → ε → σ → Prop) : σ → List (Taken σ ε) → σ → Prop where
  | nil (s : σ) : Run step s [] s
  | cons {s s' t : σ} {label : ε} {steps : List (Taken σ ε)} :
      step s label s' → Run step s' steps t → Run step s (⟨s, label, s'⟩ :: steps) t

namespace Run

variable {σ ε : Type} {step : σ → ε → σ → Prop} {s t : σ} {steps : List (Taken σ ε)}

theorem append {u : σ} {more : List (Taken σ ε)} (h : Run step s steps t)
    (h' : Run step t more u) : Run step s (steps ++ more) u := by
  induction h with
  | nil s => exact h'
  | cons hstep _ ih => exact .cons hstep (ih h')

/-- What is known of each step can be kept with it. -/
theorem and {P : σ → ε → σ → Prop} (h : Run step s steps t)
    (hp : ∀ x ∈ steps, P x.pre x.label x.post) :
    Run (fun s label s' => step s label s' ∧ P s label s') s steps t := by
  induction h with
  | nil s => exact .nil s
  | cons hstep _ ih =>
    rw [List.forall_mem_cons] at hp
    exact .cons ⟨hstep, hp.1⟩ (ih hp.2)

/-- **The rule for an invariant**: what keeps it holds of the end, and what each step does from it is
done by all of them. -/
theorem invariant (Inv : σ → Prop) (Good : σ → ε → σ → Prop)
    (hkeep : ∀ s label s', step s label s' → Inv s → Inv s' ∧ Good s label s')
    (h : Run step s steps t) (hs : Inv s) :
    Inv t ∧ ∀ x ∈ steps, Good x.pre x.label x.post := by
  induction h with
  | nil s => exact ⟨hs, fun _ hx => by cases hx⟩
  | cons hstep _ ih =>
    obtain ⟨hs', hgood⟩ := hkeep _ _ _ hstep hs
    obtain ⟨ht, hall⟩ := ih hs'
    exact ⟨ht, List.forall_mem_cons.mpr ⟨hgood, hall⟩⟩

/-- **The rule for an exact condition.** -/
theorem forall_iff (Inv : σ → Prop) (Good Cond : σ → ε → σ → Prop)
    (hiff : ∀ s label s', step s label s' → Inv s → (Good s label s' ↔ Cond s label s'))
    (hkeep : ∀ s label s', step s label s' → Inv s → Cond s label s' → Inv s')
    (h : Run step s steps t) (hs : Inv s) :
    (∀ x ∈ steps, Good x.pre x.label x.post) ↔ ∀ x ∈ steps, Cond x.pre x.label x.post := by
  induction h with
  | nil s => simp
  | cons hstep _ ih =>
    rw [List.forall_mem_cons, List.forall_mem_cons, hiff _ _ _ hstep hs]
    -- past a step that meets the condition the invariant is there for the rest
    exact and_congr_right fun hcond => ih (hkeep _ _ _ hstep hs hcond)

end Run
