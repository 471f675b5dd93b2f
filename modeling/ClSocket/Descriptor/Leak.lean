import ClSocket.Descriptor.System

/-!
# Descriptors that are not leaked

As long as every `close` succeeds, an open descriptor is the `m_socket` of exactly one live
object (`NoLeak`) unless a step forgets it. Two do: `Initialize` on an object that has a
descriptor overwrites it, and the destructor of `CSimpleSocket`, which unlike those of the
derived classes does not call `Close`, drops it. `noLeak_iff` says that these are all: a run is
free of leaks exactly when none of its steps forgets a valid descriptor.
-/

namespace ClSocket

open Prog CSimpleSocket Function Ownership

/-- **No leak**: every descriptor in use is the `m_socket` of exactly one live object. -/
def NoLeak (s : System) : Prop :=
  ∀ fd, s.owner fd ≠ none → ∃! i, ∃ ob, s.objects i = some ob ∧ ob.self.m_socket = fd

/-- Every `close` of the step succeeds. -/
def ClosesSucceed (m : Move) : Prop := m.calls.any Event.closeFails = false

instance (m : Move) : Decidable (ClosesSucceed m) :=
  inferInstanceAs (Decidable (m.calls.any Event.closeFails = false))

/-- No `close` has failed so far. -/
def Unfailed (s : System) : Prop := ∀ i ob, s.objects i = some ob → ob.closeFailed = false

/-- Without leaks nothing is open once all objects are gone. -/
theorem NoLeak.all_closed {s : System} (h : NoLeak s) (hgone : ∀ i, s.objects i = none) (fd : Int) :
    s.owner fd = none := by
  by_contra hopen
  obtain ⟨i, ⟨ob, live, -⟩, -⟩ := h fd hopen
  rw [hgone i] at live
  cases live

theorem Unfailed.staleValid {s : System} (h : Unfailed s) : StaleValid s := by
  intro i ob live hfailed
  rw [h i ob live] at hfailed
  cases hfailed

/-- Nothing can be closed again. -/
theorem Unfailed.not_recloses {s : System} (h : Unfailed s) (m : Move) : ¬ Recloses s m := by
  rintro ⟨ob, live, hfailed, -⟩
  rw [h _ ob live] at hfailed
  cases hfailed

theorem Step.unfailed {s s' : System} {m : Move} (h : Step s m s') (hclose : ClosesSucceed m)
    (hs : Unfailed s) : Unfailed s' := by
  intro k ob' hk
  cases h.origin hk with
  | same live => exact hs k ob' live
  | made cls self => rfl
  | @ran j ob op os t client live act calls effect =>
    unfold Object.ran
    rw [← calls, hclose, hs k ob live]
    rfl

/-- The holder of a descriptor is the object whose `m_socket` it is. -/
theorem Unfailed.held_iff {s : System} (hs : Unfailed s) {i : ℕ} {fd : Int} (hfd : fd ≠ -1) :
    s.held i = some fd ↔ ∃ ob, s.objects i = some ob ∧ ob.self.m_socket = fd := by
  cases hi : s.objects i with
  | none => simp [System.held_of_dead hi]
  | some ob =>
    rw [System.held_of_live hi, Object.held_eq_some]
    have hclean := hs i ob hi
    constructor
    · rintro ⟨-, -, heq⟩
      exact ⟨ob, rfl, heq⟩
    · rintro ⟨ob', hob, heq⟩
      cases hob
      exact ⟨hclean, heq ▸ hfd, heq⟩

/-- A held descriptor is valid. -/
theorem System.held_ne_neg_one {s : System} {i : ℕ} {fd : Int} (h : s.held i = some fd) :
    fd ≠ -1 := by
  cases hi : s.objects i with
  | none =>
    rw [System.held_of_dead hi] at h
    cases h
  | some ob =>
    rw [System.held_of_live hi, Object.held_eq_some] at h
    obtain ⟨-, hv, rfl⟩ := h
    exact hv

theorem Orderly.noLeak {s : System} (h : Orderly s) (hs : Unfailed s) : NoLeak s := by
  intro fd hopen
  obtain ⟨i, hi, honly⟩ := h.matched.existsUnique hopen
  have hfd : fd ≠ -1 := System.held_ne_neg_one hi
  refine ⟨i, (hs.held_iff hfd).mp hi, fun j hj => honly j ((hs.held_iff hfd).mpr hj)⟩

/-- A step leaks exactly when it forgets. -/
theorem Step.noLeak_iff_keeps {s s' : System} {m : Move} (h : Step s m s') (hclose : ClosesSucceed m)
    (ho : Orderly s) (hs : Unfailed s) : NoLeak s' ↔ ¬ Forgets s m := by
  refine ⟨fun hno hforgets => ?_, fun hkeeps =>
    (h.orderly ho hkeeps (hs.not_recloses m)).noLeak (h.unfailed hclose hs)⟩
  cases h.change ho.stale with
  | calm hkeeps => exact hkeeps hforgets
  | acquired hkeeps => exact hkeeps hforgets
  | released hkeeps => exact hkeeps hforgets
  | forgot _ _ ob live valid x hheld other =>
    -- the descriptor the object had is still open, and nobody has it
    have hi : s.held m.act.subject = some ob.self.m_socket :=
      (System.held_of_live live).trans (Object.held_eq_some.mpr ⟨hs _ ob live, valid, rfl⟩)
    have hopen : s.owner ob.self.m_socket ≠ none := by
      rw [(ho.matched _ _).mp hi]
      simp
    obtain ⟨hx, howner⟩ := other hopen
    obtain ⟨j, hj, -⟩ := hno ob.self.m_socket (howner ▸ hopen)
    refine ho.matched.lost hi hx j ?_
    rw [← hheld]
    exact ((h.unfailed hclose hs).held_iff valid).mpr hj

/-- **A run leaks nothing** exactly when no step of it forgets a valid descriptor. -/
theorem noLeak_iff {steps : List (Taken System Move)} {t : System} (h : Run Step .empty steps t)
    (hclose : ∀ x ∈ steps, ClosesSucceed x.label) :
    (∀ x ∈ steps, NoLeak x.post) ↔ ∀ x ∈ steps, ¬ Forgets x.pre x.label :=
  Run.forall_iff (fun s => Orderly s ∧ Unfailed s) (fun _ _ s' => NoLeak s')
    (fun s m _ => ¬ Forgets s m)
    (fun _ _ _ hstep hinv => hstep.1.noLeak_iff_keeps hstep.2 hinv.1 hinv.2)
    (fun _ m _ hstep hinv hkeeps =>
      ⟨hstep.1.orderly hinv.1 hkeeps (hinv.2.not_recloses m), hstep.1.unfailed hstep.2 hinv.2⟩)
    (h.and hclose) ⟨orderly_empty, fun _ _ h => by cases h⟩

/-! ### A short life

An object is constructed, `Initialize` gives it the descriptor 3, and it is destroyed. -/

section

variable (cls : SocketClass)

def shortLifeOs : Os := .idle { socket := [.ok 3], close := [.ok ()] }

/-- The object as it is constructed. -/
def born : Object := ⟨cls, .construct .zeroed .socketTypeTcp, false⟩

/-- The end of its `Initialize`. -/
def opened : State := (call (Op.initializeSocket.run cls) (born cls).self shortLifeOs).state

/-- The end of its destructor. -/
def ended : State := (call (destroy cls) (opened cls).self shortLifeOs).state

/-- The system with the constructed object. -/
def withBorn : System :=
  { System.empty with objects := update System.empty.objects 0 (some (born cls)) }

/-- The system with the object that has the descriptor. -/
def withOpened : System := (withBorn cls).ran 0 1 (born cls) none (opened cls)

/-- The system without the object. -/
def withEnded : System :=
  ⟨update (withOpened cls).objects 0 none,
    (kernel 0 0).after (withOpened cls).owner (handles (ended cls).trace)⟩

/-- The three steps. -/
def shortLife : List (Taken System Move) :=
  [⟨.empty, ⟨.construct 0 cls .socketTypeTcp, []⟩, withBorn cls⟩,
    ⟨withBorn cls, ⟨.call 0 .initializeSocket shortLifeOs 1, handles (opened cls).trace⟩,
      withOpened cls⟩,
    ⟨withOpened cls, ⟨.destroy 0 shortLifeOs, handles (ended cls).trace⟩, withEnded cls⟩]

theorem run_shortLife : Run Step .empty (shortLife cls) (withEnded cls) := by
  refine .cons (.construct .zeroed rfl) (.cons ?_ (.cons ?_ (.nil _)))
  · exact @Step.call (withBorn cls) 0 1 (born cls) .initializeSocket shortLifeOs
      (.bool true) (opened cls) rfl rfl rfl rfl ⟨rfl, trivial⟩
  · refine @Step.destroy (withOpened cls) 0 ((born cls).ran (opened cls)) shortLifeOs
      (ended cls) rfl ?_
    cases cls <;> rfl

end

/-- The destructors of the derived classes close the descriptor. -/
theorem noLeak_shortLife_active : (∀ x ∈ shortLife .active, NoLeak x.post) ∧
    (withEnded .active).owner 3 = none := by
  refine ⟨(noLeak_iff (run_shortLife .active) (by decide)).mpr ?_, rfl⟩
  simp only [shortLife, List.forall_mem_cons, List.not_mem_nil, false_imp_iff, implies_true,
    and_true]
  refine ⟨?_, ?_, ?_⟩
  · rintro ⟨ob', hob, -⟩
    cases hob
  · rintro ⟨ob', hob, hv, -⟩
    cases hob
    exact hv rfl
  · rintro ⟨ob', hob, -, hf⟩
    cases hob
    cases hf

/-- That of the base class leaves it open. -/
theorem leak_shortLife_simple : Run Step .empty (shortLife .simple) (withEnded .simple) ∧
    (∀ x ∈ shortLife .simple, ClosesSucceed x.label) ∧
      ¬ ∀ x ∈ shortLife .simple, NoLeak x.post := by
  refine ⟨run_shortLife .simple, by decide, fun h => ?_⟩
  have hlast : NoLeak (withEnded .simple) :=
    h ⟨withOpened .simple, ⟨.destroy 0 shortLifeOs, handles (ended .simple).trace⟩,
      withEnded .simple⟩ (by simp [shortLife])
  -- nobody is left, and the table still has the descriptor
  have hclosed := hlast.all_closed (fun i => ?_) 3
  · cases hclosed
  · simp only [withEnded, withOpened, withBorn, System.ran, System.empty, update_apply]
    split_ifs <;> rfl

end ClSocket
