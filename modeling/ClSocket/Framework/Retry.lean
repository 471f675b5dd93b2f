import ClSocket.Framework.Prog

/-!
# Retry loops

A retry loop makes a call, keeps a memory of what the calls answered, and makes the call
again while the memory says so. The theory is that of a `do … while` over a list of
answers still to come:

* `Retry.taken` are the answers the loop takes, `Retry.Finished` says that it leaves, and
  `Retry.issued` counts the calls it makes; a loop that runs out of answers has made one
  call more than it has answers for, and waits in it.
* `Prog.wp_retry` is the rule of such a loop as a program: a round that takes one answer
  and decides by the memory takes `taken` in all, and leaves exactly when `Finished`.
-/

namespace Retry

variable {μ α : Type} (next : μ → α → μ) (again : μ → Prop) [DecidablePred again]

/-- The answers a loop with memory `m` takes. -/
def taken : μ → List α → List α
  | _, [] => []
  | m, a :: as => if again (next m a) then a :: taken (next m a) as else [a]

/-- The loop leaves before the answers are used up. -/
def Finished : μ → List α → Prop
  | _, [] => False
  | m, a :: as => again (next m a) → Finished (next m a) as

instance decidableFinished : ∀ m as, Decidable (Finished next again m as)
  | _, [] => inferInstanceAs (Decidable False)
  | m, a :: as =>
    haveI := decidableFinished (next m a) as
    inferInstanceAs (Decidable (again (next m a) → Finished next again (next m a) as))

/-- The calls the loop makes, the one it waits in included. -/
def issued (m : μ) (as : List α) : ℕ :=
  (taken next again m as).length + if Finished next again m as then 0 else 1

variable {next again} {m : μ} {a : α} {as pre rest : List α}

@[simp] theorem taken_nil : taken next again m [] = [] := rfl

omit [DecidablePred again] in
@[simp] theorem not_finished_nil : ¬ Finished next again m [] := id

theorem taken_again (h : again (next m a)) :
    taken next again m (a :: as) = a :: taken next again (next m a) as := if_pos h

theorem taken_leave (h : ¬ again (next m a)) : taken next again m (a :: as) = [a] := if_neg h

omit [DecidablePred again] in
theorem finished_again (h : again (next m a)) :
    Finished next again m (a :: as) ↔ Finished next again (next m a) as :=
  ⟨fun hf => hf h, fun hf _ => hf⟩

omit [DecidablePred again] in
theorem finished_leave (h : ¬ again (next m a)) : Finished next again m (a :: as) :=
  fun h' => absurd h' h

@[simp] theorem issued_nil : issued next again m [] = 1 := by simp [issued]

theorem issued_again (h : again (next m a)) :
    issued next again m (a :: as) = issued next again (next m a) as + 1 := by
  simp only [issued, taken_again h, finished_again h, List.length_cons]
  omega

theorem issued_leave (h : ¬ again (next m a)) : issued next again m (a :: as) = 1 := by
  simp [issued, taken_leave h, finished_leave h]

/-- A loop makes at least one call. -/
theorem issued_pos (m : μ) (as : List α) : 0 < issued next again m as := by
  cases as with
  | nil => simp
  | cons a as =>
    by_cases h : again (next m a)
    · rw [issued_again h]; omega
    · rw [issued_leave h]; omega

/-- Answers that all send the loop round again are taken, and the loop goes on with the
memory they leave. -/
theorem taken_append (m : μ) (rest : List α) (h : ∀ a ∈ pre, ∀ m, again (next m a)) :
    taken next again m (pre ++ rest) = pre ++ taken next again (pre.foldl next m) rest := by
  induction pre generalizing m with
  | nil => rfl
  | cons a pre ih =>
    rw [List.cons_append, taken_again (h a List.mem_cons_self m),
      ih _ fun b hb => h b (List.mem_cons_of_mem a hb)]
    rfl

omit [DecidablePred again] in
theorem finished_append (m : μ) (rest : List α) (h : ∀ a ∈ pre, ∀ m, again (next m a)) :
    Finished next again m (pre ++ rest) ↔ Finished next again (pre.foldl next m) rest := by
  induction pre generalizing m with
  | nil => rfl
  | cons a pre ih =>
    rw [List.cons_append, finished_again (h a List.mem_cons_self m),
      ih _ fun b hb => h b (List.mem_cons_of_mem a hb)]
    rfl

theorem issued_append (m : μ) (rest : List α) (h : ∀ a ∈ pre, ∀ m, again (next m a)) :
    issued next again m (pre ++ rest) =
      pre.length + issued next again (pre.foldl next m) rest := by
  simp only [issued, taken_append m rest h, finished_append m rest h, List.length_append]
  omega

/-- A loop that leaves has taken a last answer, and that answer made it leave. -/
theorem exists_last (h : Finished next again m as) :
    ∃ pre a, taken next again m as = pre ++ [a] ∧
      ¬ again ((taken next again m as).foldl next m) := by
  induction as generalizing m with
  | nil => exact absurd h not_finished_nil
  | cons a as ih =>
    -- the last answer is further on, or it is this one
    by_cases ha : again (next m a)
    · obtain ⟨pre, b, hb, hn⟩ := ih ((finished_again ha).mp h)
      refine ⟨a :: pre, b, ?_, ?_⟩
      · rw [taken_again ha, hb]; rfl
      · rw [taken_again ha, List.foldl_cons]; exact hn
    · exact ⟨[], a, taken_leave ha, by rw [taken_leave ha]; exact ha⟩

/-- A loop that does not leave takes everything. -/
theorem taken_of_not_finished (h : ¬ Finished next again m as) :
    taken next again m as = as := by
  induction as generalizing m with
  | nil => rfl
  | cons a as ih =>
    have ha : again (next m a) := by
      by_contra hn
      exact h (finished_leave hn)
    rw [taken_again ha, ih fun hf => h ((finished_again ha).mpr hf)]

end Retry

namespace Prog

variable {σ ε β γ μ α : Type}

/-- **The retry rule.** `At done rest b t` holds at the head of a round before which the loop
has taken `done` and has `rest` ahead. A round with an answer ahead takes it and goes round
again exactly when the memory says so; a round with nothing ahead does not return. -/
theorem wp_retry (next : μ → α → μ) (again : μ → Prop) [DecidablePred again] (m : μ) {e : ε}
    {body : β → Prog σ ε (Round β γ)} (At : List α → List α → β → σ → Prop) (Left : List α → γ → σ → Prop)
    (Blocked : List α → ε → σ → Prop)
    (hround : ∀ done a rest b t, At done (a :: rest) b t →
      wp (body b) (Round.post
        (fun b' t' => again ((done ++ [a]).foldl next m) ∧ At (done ++ [a]) rest b' t')
        (fun c t' => ¬ again ((done ++ [a]).foldl next m) ∧ Left (done ++ [a]) c t'))
        (fun _ _ => False) t)
    (hempty : ∀ done b t, At done [] b t → wp (body b) (fun _ _ => False) (Blocked done) t) :
    ∀ rest done b s, At done rest b s →
      wp (iter e body (rest.length + 1) b)
        (fun c t => Retry.Finished next again (done.foldl next m) rest ∧
          Left (done ++ Retry.taken next again (done.foldl next m) rest) c t)
        (fun r t => ¬ Retry.Finished next again (done.foldl next m) rest ∧
          Blocked (done ++ rest) r t) s := by
  intro rest
  -- on the answers ahead, of which each round takes one
  induction rest with
  | nil =>
    intro done b s h
    rw [iter, wp_bind]
    refine wp_mono (fun _ _ hF => hF.elim) (fun r t hB => ⟨Retry.not_finished_nil, ?_⟩)
      (hempty done b s h)
    rwa [List.append_nil]
  | cons a rest ih =>
    intro done b s h
    have hfold : (done ++ [a]).foldl next m = next (done.foldl next m) a := by simp
    rw [List.length_cons, iter, wp_bind]
    refine wp_mono (fun r t hr => ?_) (fun _ _ hF => hF.elim) (hround done a rest b s h)
    cases r with
    | again b' =>
      obtain ⟨ha, hAt⟩ := hr
      have hgo := ih (done ++ [a]) b' t hAt
      rw [hfold] at ha hgo
      rw [Retry.taken_again ha, Retry.finished_again ha]
      simpa only [List.append_assoc, List.singleton_append] using hgo
    | leave c =>
      obtain ⟨ha, hL⟩ := hr
      rw [hfold] at ha
      rw [Retry.taken_leave ha]
      exact ⟨Retry.finished_leave ha, hL⟩

end Prog
