import Mathlib.Tactic.Common

/-!
# Programs over a state that may stop

A small program logic, independent of what the programs are about. A program
`Prog σ ε α` reads and writes a state of type `σ` and either returns a value
(`Outcome.done`) or stops short for a reason of type `ε` (`Outcome.stop`): it
waits for an answer of its environment, it throws, it runs into undefined
behaviour. Both outcomes keep the state they were reached in, so that what a
program did before it stopped stays visible.

* `Prog.wp x Q B` is the weakest precondition of `x` for the postcondition `Q` of
  its returns and the postcondition `B` of its stops. The equations `wp_pure`,
  `wp_bind`, `wp_ite`, … run a program backwards; they are the simp set of the logic.
* `Prog.iter` is the loop combinator. Its body says whether to go round `again`
  or to `leave`; its bound is the number of rounds after which it stops by itself,
  and a bound is adequate when the body always stops or leaves before it is used
  up (`wp_iter`, whose invariant is indexed by the rounds that are left).
* `Prog.Keeps R x` says that `x` relates every state it is started in to the
  states it ends in by `R`. For a reflexive and transitive `R` it is closed under
  all the constructions (`keeps_bind`, `keeps_iter`, …): this is the frame rule.
-/

/-- The outcome of a program: it returned a value or stopped for a reason. -/
inductive Outcome (σ ε α : Type) where
  | done (a : α) (s : σ)
  | stop (e : ε) (s : σ)

/-- The state an outcome was reached in. -/
def Outcome.state {σ ε α : Type} : Outcome σ ε α → σ
  | .done _ s => s
  | .stop _ s => s

/-- A program over states `σ` with stop reasons `ε` and results `α`. -/
def Prog (σ ε α : Type) : Type := σ → Outcome σ ε α

/-- What a loop body decides at the end of a round. -/
inductive Round (β γ : Type) where
  /-- Go round again with this loop variable. -/
  | again (b : β)
  /-- Leave the loop with this result. -/
  | leave (c : γ)

namespace Round

variable {σ β γ : Type}

/-- A postcondition of a loop body: `I` when it goes round again, `Q` when it leaves. -/
def post (I : β → σ → Prop) (Q : γ → σ → Prop) : Round β γ → σ → Prop
  | .again b, s => I b s
  | .leave c, s => Q c s

@[simp] theorem post_again (I : β → σ → Prop) (Q : γ → σ → Prop) (b : β) :
    post I Q (.again b) = I b := rfl

@[simp] theorem post_leave (I : β → σ → Prop) (Q : γ → σ → Prop) (c : γ) :
    post I Q (.leave c) = Q c := rfl

end Round

namespace Prog

variable {σ ε α β γ : Type}

/-- Sequencing: a stop of the first program is a stop of the whole. -/
protected def bind (x : Prog σ ε α) (f : α → Prog σ ε β) : Prog σ ε β := fun s =>
  match x s with
  | .done a s' => f a s'
  | .stop e s' => .stop e s'

instance : Monad (Prog σ ε) where
  pure a := fun s => .done a s
  bind := Prog.bind

instance : LawfulMonad (Prog σ ε) := by
  refine LawfulMonad.mk' (Prog σ ε) ?_ (fun _ _ => rfl) ?_
  · intro α x
    funext s
    show Prog.bind x pure s = x s
    unfold Prog.bind
    cases x s <;> rfl
  · intro α β γ x f g
    funext s
    show Prog.bind (Prog.bind x f) g s = Prog.bind x (fun a => Prog.bind (f a) g) s
    unfold Prog.bind
    cases x s <;> rfl

/-- Read the state. -/
def get : Prog σ ε σ := fun s => .done s s

/-- Change the state by a function. -/
def modify (f : σ → σ) : Prog σ ε Unit := fun s => .done () (f s)

/-- Stop here. -/
def stop (e : ε) : Prog σ ε α := fun s => .stop e s

/-- A conditional block without an `else`. -/
def when (c : Prop) [Decidable c] (x : Prog σ ε Unit) : Prog σ ε Unit :=
  if c then x else pure ()

/-- The loop: run the body on the loop variable until it leaves, at most `n`
rounds; a loop that has used up its bound stops with `e`. -/
def iter (e : ε) (body : β → Prog σ ε (Round β γ)) : Nat → β → Prog σ ε γ
  | 0, _ => stop e
  | n + 1, b => do
    match ← body b with
    | .again b' => iter e body n b'
    | .leave c => pure c

/-! ### Weakest preconditions -/

/-- The weakest precondition: `x` started in `s` either returns in a state with
`Q` or stops in a state with `B`. -/
def wp (x : Prog σ ε α) (Q : α → σ → Prop) (B : ε → σ → Prop) (s : σ) : Prop :=
  match x s with
  | .done a s' => Q a s'
  | .stop e s' => B e s'

variable {Q : α → σ → Prop} {B : ε → σ → Prop} {s : σ}

@[simp] theorem wp_pure (a : α) : wp (pure a : Prog σ ε α) Q B s ↔ Q a s := Iff.rfl

@[simp] theorem wp_bind (x : Prog σ ε β) (f : β → Prog σ ε α) :
    wp (x >>= f) Q B s ↔ wp x (fun b s' => wp (f b) Q B s') B s := by
  change wp (Prog.bind x f) Q B s ↔ _
  unfold wp Prog.bind
  cases x s <;> exact Iff.rfl

@[simp] theorem wp_map (f : β → α) (x : Prog σ ε β) :
    wp (f <$> x) Q B s ↔ wp x (fun b s' => Q (f b) s') B s := wp_bind x (fun b => pure (f b))

@[simp] theorem wp_get {Q : σ → σ → Prop} : wp (get : Prog σ ε σ) Q B s ↔ Q s s := Iff.rfl

@[simp] theorem wp_modify {Q : Unit → σ → Prop} (f : σ → σ) :
    wp (modify f : Prog σ ε Unit) Q B s ↔ Q () (f s) := Iff.rfl

@[simp] theorem wp_stop (e : ε) : wp (stop e : Prog σ ε α) Q B s ↔ B e s := Iff.rfl

@[simp] theorem wp_ite (c : Prop) [Decidable c] (x y : Prog σ ε α) :
    wp (if c then x else y) Q B s ↔ (c → wp x Q B s) ∧ (¬c → wp y Q B s) := by
  by_cases h : c <;> simp [h]

@[simp] theorem wp_when {Q : Unit → σ → Prop} (c : Prop) [Decidable c] (x : Prog σ ε Unit) :
    wp (when c x) Q B s ↔ (c → wp x Q B s) ∧ (¬c → Q () s) := wp_ite c x (pure ())

/-- Weakening of both postconditions. -/
theorem wp_mono {x : Prog σ ε α} {Q' : α → σ → Prop} {B' : ε → σ → Prop}
    (hQ : ∀ a s', Q a s' → Q' a s') (hB : ∀ e s', B e s' → B' e s')
    (h : wp x Q B s) : wp x Q' B' s := by
  unfold wp at h ⊢
  cases hx : x s with
  | done a s' => rw [hx] at h; exact hQ a s' h
  | stop e s' => rw [hx] at h; exact hB e s' h

/-- Nothing is claimed of the outcome. -/
theorem wp_trivial (x : Prog σ ε α) (s : σ) : wp x (fun _ _ => True) (fun _ _ => True) s := by
  unfold wp
  cases x s <;> trivial

/-- Two postconditions at once. -/
theorem wp_and {x : Prog σ ε α} {Q' : α → σ → Prop} (h : wp x Q B s) (h' : wp x Q' B s) :
    wp x (fun a t => Q a t ∧ Q' a t) B s := by
  unfold wp at h h' ⊢
  cases hx : x s with
  | done a s' => rw [hx] at h h'; exact ⟨h, h'⟩
  | stop e s' => rw [hx] at h; exact h

/-- What is known of the outcomes in two ways. -/
theorem wp_conj {x : Prog σ ε α} {Q' : α → σ → Prop} {B' : ε → σ → Prop} (h : wp x Q B s)
    (h' : wp x Q' B' s) : wp x (fun a t => Q a t ∧ Q' a t) (fun e t => B e t ∧ B' e t) s := by
  unfold wp at h h' ⊢
  cases hx : x s with
  | done a s' => rw [hx] at h h'; exact ⟨h, h'⟩
  | stop e s' => rw [hx] at h h'; exact ⟨h, h'⟩

/-- What is known of all outcomes is known of a given return. -/
theorem wp_done {x : Prog σ ε α} {a : α} {s' : σ} (h : wp x Q B s)
    (hx : x s = .done a s') : Q a s' := by
  unfold wp at h
  rw [hx] at h
  exact h

theorem wp_stopped {x : Prog σ ε α} {e : ε} {s' : σ} (h : wp x Q B s)
    (hx : x s = .stop e s') : B e s' := by
  unfold wp at h
  rw [hx] at h
  exact h

/-- A program that does not stop returns. -/
theorem wp_returns {x : Prog σ ε α} (h : wp x Q (fun _ _ => False) s) :
    ∃ a s', x s = .done a s' ∧ Q a s' := by
  cases hx : x s with
  | done a s' => exact ⟨a, s', rfl, wp_done h hx⟩
  | stop e s' => exact (wp_stopped h hx).elim

/-- What is known of the state of all outcomes is known of the state it ends in. -/
theorem wp_state {x : Prog σ ε α} {P : σ → Prop} (h : wp x (fun _ t => P t) (fun _ t => P t) s) :
    P (x s).state := by
  unfold wp at h
  cases hx : x s with
  | done a s' => rw [hx] at h; exact h
  | stop e s' => rw [hx] at h; exact h

/-- Reading a run as a weakest precondition. -/
theorem wp_iff (x : Prog σ ε α) : wp x Q B s ↔
    (∀ a s', x s = .done a s' → Q a s') ∧ (∀ e s', x s = .stop e s' → B e s') := by
  unfold wp
  cases x s <;> simp

/-- **The loop rule.** The invariant `I` is indexed by the rounds that are left.
A round started with `n + 1` rounds left either goes round again with the invariant
at `n`, or leaves with the postcondition, or stops; and an exhausted bound stops. -/
theorem wp_iter {e : ε} {body : β → Prog σ ε (Round β α)} (I : Nat → β → σ → Prop)
    (hbody : ∀ n b t, I (n + 1) b t →
      wp (body b) (Round.post (I n) Q) B t)
    (hzero : ∀ b t, I 0 b t → B e t) :
    ∀ n b s, I n b s → wp (iter e body n b) Q B s := by
  intro n
  induction n with
  | zero => exact fun b s h => hzero b s h
  | succ n ih =>
    intro b s h
    rw [iter, wp_bind]
    refine wp_mono (fun r t' hr => ?_) (fun _ _ hB => hB) (hbody n b s h)
    cases r with
    | again b' => exact ih b' t' hr
    | leave c => exact hr

/-! ### The frame rule -/

/-- `x` relates every state it is started in to the states it ends in by `R`. -/
def Keeps (R : σ → σ → Prop) (x : Prog σ ε α) : Prop :=
  ∀ s, wp x (fun _ s' => R s s') (fun _ s' => R s s') s

section Keeps

variable {R : σ → σ → Prop}

theorem Keeps.state {x : Prog σ ε α} (h : Keeps R x) (s : σ) : R s (x s).state := wp_state (h s)

theorem keeps_ite {c : Prop} [Decidable c] {x y : Prog σ ε α}
    (hx : Keeps R x) (hy : Keeps R y) : Keeps R (if c then x else y) := by
  split
  · exact hx
  · exact hy

variable [Std.Refl R]

theorem keeps_pure (a : α) : Keeps R (pure a : Prog σ ε α) := fun s => Std.Refl.refl s

theorem keeps_stop (e : ε) : Keeps R (stop e : Prog σ ε α) := fun s => Std.Refl.refl s

variable [IsTrans σ R]

omit [Std.Refl R] in
theorem keeps_bind {x : Prog σ ε α} {f : α → Prog σ ε β} (hx : Keeps R x)
    (hf : ∀ a, Keeps R (f a)) : Keeps R (x >>= f) := by
  intro s
  rw [wp_bind]
  refine wp_mono (fun a s' h => ?_) (fun _ _ h => h) (hx s)
  exact wp_mono (fun _ _ h' => IsTrans.trans _ _ _ h h')
    (fun _ _ h' => IsTrans.trans _ _ _ h h') (hf a s')

/-- A loop keeps what each of its rounds keeps. -/
theorem keeps_iter {e : ε} {body : β → Prog σ ε (Round β γ)}
    (hbody : ∀ b, Keeps R (body b)) (n : ℕ) (b : β) : Keeps R (iter e body n b) := by
  induction n generalizing b with
  | zero => exact keeps_stop e
  | succ n ih =>
    refine keeps_bind (hbody b) (fun r => ?_)
    cases r with
    | again b' => exact ih b'
    | leave c => exact keeps_pure c

end Keeps

end Prog
