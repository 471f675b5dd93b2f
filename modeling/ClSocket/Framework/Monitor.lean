import Mathlib.Tactic.Common

/-!
# Monitors

A monitor reads a list of events, keeps a state of its own, and says of each event whether it
is allowed in the state it comes in. It is how a component that a program only talks to is
described by what can be seen of it: `Monitor.after` is the component's state after the events
and `Monitor.Accepts` says that it could have behaved so.

* Both are computed along the list, and split over an append (`after_append`,
  `accepts_append`) and over a last event (`accepts_concat`).
* Events that the monitor does not care about can be dropped (`after_filter`), and so can
  those that do not change what one looks at (`view_after_filter`).
-/

/-- A monitor over events `ε` with states `σ`. -/
structure Monitor (σ ε : Type) where
  /-- The state after an event. -/
  next : σ → ε → σ
  /-- The event is allowed. -/
  ok : σ → ε → Prop

namespace Monitor

variable {σ ε : Type} (m : Monitor σ ε)

/-- The state after a list of events. -/
def after (s : σ) (es : List ε) : σ := es.foldl m.next s

/-- Every event is allowed where it comes. -/
def Accepts : σ → List ε → Prop
  | _, [] => True
  | s, e :: es => m.ok s e ∧ Accepts (m.next s e) es

instance decidableAccepts [∀ s e, Decidable (m.ok s e)] : ∀ s es, Decidable (m.Accepts s es)
  | _, [] => isTrue trivial
  | s, e :: es => @instDecidableAnd _ _ _ (decidableAccepts (m.next s e) es)

@[simp] theorem after_nil (s : σ) : m.after s [] = s := rfl

@[simp] theorem after_cons (s : σ) (e : ε) (es : List ε) :
    m.after s (e :: es) = m.after (m.next s e) es := rfl

@[simp] theorem after_append (s : σ) (es fs : List ε) :
    m.after s (es ++ fs) = m.after (m.after s es) fs := List.foldl_append

@[simp] theorem accepts_nil (s : σ) : m.Accepts s [] := trivial

@[simp] theorem accepts_cons (s : σ) (e : ε) (es : List ε) :
    m.Accepts s (e :: es) ↔ m.ok s e ∧ m.Accepts (m.next s e) es := Iff.rfl

@[simp] theorem accepts_append (s : σ) (es fs : List ε) :
    m.Accepts s (es ++ fs) ↔ m.Accepts s es ∧ m.Accepts (m.after s es) fs := by
  induction es generalizing s with
  | nil => simp
  | cons e es ih => simp [ih, and_assoc]

theorem accepts_concat (s : σ) (es : List ε) (e : ε) :
    m.Accepts s (es ++ [e]) ↔ m.Accepts s es ∧ m.ok (m.after s es) e := by simp

/-- The monitor does not care about the events outside `p`. -/
def IgnoresOutside (p : ε → Bool) : Prop := ∀ s e, p e = false → m.ok s e ∧ m.next s e = s

variable {m} {p : ε → Bool}

/-- Of a part of the state that has its own way, the events outside `p` leaving it alone. -/
theorem view_after_filter {ρ : Type} (view : σ → ρ)
    (hview : ∀ s s' e, view s = view s' → view (m.next s e) = view (m.next s' e))
    (hout : ∀ s e, p e = false → view (m.next s e) = view s) (s : σ) (es : List ε) :
    view (m.after s (es.filter p)) = view (m.after s es) := by
  have hsame : ∀ s', view s = view s' → view (m.after s (es.filter p)) = view (m.after s' es) := by
    induction es generalizing s with
    | nil => exact fun _ h => h
    | cons e es ih =>
      intro s' h
      cases hp : p e with
      | true =>
        rw [List.filter_cons_of_pos hp]
        exact ih _ _ (hview s s' e h)
      | false =>
        rw [List.filter_cons_of_neg (by simp [hp])]
        exact ih _ _ (h.trans (hout s' e hp).symm)
  exact hsame s rfl

theorem after_filter (h : m.IgnoresOutside p) (s : σ) (es : List ε) :
    m.after s (es.filter p) = m.after s es :=
  view_after_filter id (fun _ _ e heq => congrArg (m.next · e) heq) (fun s e hp => (h s e hp).2) s es

/-- Events none of which changes the state. -/
theorem after_eq_self {es : List ε} (h : ∀ e ∈ es, ∀ s, m.next s e = s) (s : σ) :
    m.after s es = s := by
  induction es with
  | nil => rfl
  | cons e es ih =>
    rw [List.forall_mem_cons] at h
    rw [after_cons, h.1 s]
    exact ih h.2

end Monitor
