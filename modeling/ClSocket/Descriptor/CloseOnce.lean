import ClSocket.Descriptor.System

/-!
# One `close` for each descriptor

`close` releases the descriptor number also when it fails, but `Close` then keeps `m_socket`. The
object looks valid still, and the next operation that closes, at the latest the destructor,
closes the number again, whoever has it by then.

`closesOwn_iff` says that this is the only way a `close` can miss: among the objects of the
derived classes, initialized only when they have no descriptor, each `close` is for a descriptor
that was opened for that very object and not closed since (`ClosesOwn`), exactly when no step
closes for an object for which a `close` has failed (`Recloses`).
-/

namespace ClSocket

open Prog CSimpleSocket Function Ownership

/-- **Each `close` of the step is the first** for a descriptor opened for its object: nobody
else has the number, and it has not been given back. -/
def ClosesOwn (s : System) (m : Move) : Prop :=
  ∀ fd ∈ m.closed, s.owner fd = some m.act.subject

/-- The step constructs objects of the derived classes only, and initializes only objects that
are not valid. -/
def Act.disciplined (s : System) : Act → Bool
  | .construct _ cls _ => cls != .simple
  | .call i .initializeSocket _ _ => (s.objects i).all fun ob => !ob.self.isSocketValid
  | _ => true

/-- All objects are of the derived classes. -/
def Derived (s : System) : Prop := ∀ i ob, s.objects i = some ob → ob.cls ≠ .simple

theorem Step.derived {s s' : System} {m : Move} (h : Step s m s') (hd : m.act.disciplined s = true)
    (hs : Derived s) : Derived s' := by
  intro k ob' hk
  cases h.origin hk with
  | same live => exact hs k ob' live
  | made cls self why =>
    rcases why with rfl | ⟨i, nType, hact⟩
    · exact SocketClass.noConfusion
    · rw [hact] at hd
      simpa [Act.disciplined] using hd
  | @ran j ob op os t client live => exact hs k ob live

/-- In such a program nothing is forgotten. -/
theorem not_forgets_of_disciplined {s : System} {m : Move} (hd : m.act.disciplined s = true)
    (hs : Derived s) : ¬ Forgets s m := by
  rintro ⟨ob, live, hv, hforgets⟩
  obtain ⟨act, calls⟩ := m
  cases act with
  | construct => cases hforgets
  | call i op os j =>
    cases op with
    | initializeSocket =>
      have live : s.objects i = some ob := live
      exact hv (by simpa [Act.disciplined, live, isSocketValid] using hd)
    | _ => cases hforgets
  | destroy i os => exact hs i ob live (by simpa [Act.forgets] using hforgets)

/-- A `close` misses exactly when one has failed before. -/
theorem Change.closesOwn_iff_once {s s' : System} {m : Move} (h : Change s m s') (ho : Orderly s)
    (hkeeps : ¬ Forgets s m) : ClosesOwn s m ↔ ¬ Recloses s m := by
  unfold ClosesOwn
  cases h with
  | calm _ once _ _ hclosed => simp [hclosed, once]
  | acquired _ once _ _ _ _ _ _ hclosed => simp [hclosed, once]
  | forgot forgets => exact absurd forgets hkeeps
  -- the descriptor is the own one when the object still holds it, that is, has not closed it before
  | released _ ob live valid closes _ _ hclosed =>
    rw [hclosed, recloses_iff live, List.forall_mem_singleton, ← ho.matched, System.held_of_live live,
      Object.held_eq_some]
    simp [valid, closes]

/-- **No `close` is made twice** in a run, and none takes another object's descriptor, exactly
when no step of the run closes for an object for which a `close` has failed. -/
theorem closesOwn_iff {steps : List (Taken System Move)} {t : System}
    (h : Run Step .empty steps t) (hd : ∀ x ∈ steps, x.label.act.disciplined x.pre = true) :
    (∀ x ∈ steps, ClosesOwn x.pre x.label) ↔ ∀ x ∈ steps, ¬ Recloses x.pre x.label :=
  Run.forall_iff (fun s => Orderly s ∧ Derived s) (fun s m _ => ClosesOwn s m)
    (fun s m _ => ¬ Recloses s m)
    (fun _ _ _ hstep hinv =>
      (hstep.1.change hinv.1.stale).closesOwn_iff_once hinv.1 (not_forgets_of_disciplined hstep.2 hinv.2))
    (fun _ _ _ hstep hinv honce =>
      ⟨hstep.1.orderly hinv.1 (not_forgets_of_disciplined hstep.2 hinv.2) honce, hstep.1.derived hstep.2 hinv.2⟩)
    (h.and hd) ⟨orderly_empty, fun _ _ h => by cases h⟩

/-! ### A descriptor that changed hands

The object 0 is initialized, and the `close` of its `Close` fails with `EIO`. The object 1 is
constructed, `socket` gives it the number 3 again, and the object 0 is destroyed. -/

/-- What the calls answer. -/
def ioErrorOs : Os := .idle { socket := [.ok 3], close := [.fail (Subtype.mk EIO (by decide))] }

/-- Either object as it is constructed. -/
def fresh : Object := ⟨.active, .construct .zeroed .socketTypeTcp, false⟩

/-- The end of its `Initialize`. -/
def acquired : State := (call (Op.initializeSocket.run .active) fresh.self ioErrorOs).state

/-- The end of the `Close` of the object 0. -/
def unclosed : State := (call (Op.close.run .active) acquired.self ioErrorOs).state

/-- The end of its destructor. -/
def reclosed : State := (call (destroy .active) unclosed.self ioErrorOs).state

/-- The system with the object 0. -/
def withFresh : System :=
  { System.empty with objects := update System.empty.objects 0 (some fresh) }

def withAcquired : System := withFresh.ran 0 2 fresh none acquired

def withUnclosed : System := withAcquired.ran 0 2 (fresh.ran acquired) none unclosed

/-- The system with both. -/
def withSecond : System :=
  { withUnclosed with objects := update withUnclosed.objects 1 (some fresh) }

def withReused : System := withSecond.ran 1 2 fresh none acquired

def withReclosed : System :=
  ⟨update withReused.objects 0 none, (kernel 0 0).after withReused.owner (handles reclosed.trace)⟩

/-- The steps up to the failed `close`. -/
def failedClose : List (Taken System Move) :=
  [⟨.empty, ⟨.construct 0 .active .socketTypeTcp, []⟩, withFresh⟩,
    ⟨withFresh, ⟨.call 0 .initializeSocket ioErrorOs 2, handles acquired.trace⟩, withAcquired⟩,
    ⟨withAcquired, ⟨.call 0 .close ioErrorOs 2, handles unclosed.trace⟩, withUnclosed⟩]

/-- The steps after it. -/
def changedHands : List (Taken System Move) :=
  [⟨withUnclosed, ⟨.construct 1 .active .socketTypeTcp, []⟩, withSecond⟩,
    ⟨withSecond, ⟨.call 1 .initializeSocket ioErrorOs 2, handles acquired.trace⟩, withReused⟩,
    ⟨withReused, ⟨.destroy 0 ioErrorOs, handles reclosed.trace⟩, withReclosed⟩]

theorem run_failedClose : Run Step .empty failedClose withUnclosed := by
  refine .cons (.construct .zeroed rfl) (.cons ?_ (.cons ?_ (.nil _)))
  · exact @Step.call withFresh 0 2 fresh .initializeSocket ioErrorOs (.bool true) acquired
      rfl rfl rfl rfl ⟨rfl, trivial⟩
  · exact @Step.call withAcquired 0 2 (fresh.ran acquired) .close ioErrorOs (.bool false) unclosed
      rfl rfl rfl rfl ⟨trivial, trivial⟩

theorem run_changedHands : Run Step withUnclosed changedHands withReclosed := by
  refine .cons (.construct .zeroed rfl) (.cons ?_ (.cons ?_ (.nil _)))
  · exact @Step.call withSecond 1 2 fresh .initializeSocket ioErrorOs (.bool true) acquired
      rfl rfl rfl rfl ⟨rfl, trivial⟩
  · exact @Step.destroy withReused 0 ((fresh.ran acquired).ran unclosed) ioErrorOs reclosed
      rfl rfl

/-- A failed `close` alone does no harm. -/
theorem closesOwn_failedClose : Run Step .empty failedClose withUnclosed ∧
    ∀ x ∈ failedClose, ClosesOwn x.pre x.label := by
  refine ⟨run_failedClose, (closesOwn_iff run_failedClose (by decide)).mpr ?_⟩
  simp only [failedClose, List.forall_mem_cons, List.not_mem_nil, false_imp_iff, implies_true,
    and_true]
  refine ⟨?_, ?_, ?_⟩
  · rintro ⟨ob, hob, -⟩
    cases hob
  · rintro ⟨ob, hob, hfailed, -⟩
    cases hob
    cases hfailed
  · rintro ⟨ob, hob, hfailed, -⟩
    cases hob
    cases hfailed

/-- The destructor of the object 0 closes the descriptor of the object 1. -/
theorem closesOther_changedHands : Run Step .empty (failedClose ++ changedHands) withReclosed ∧
    (∀ x ∈ failedClose ++ changedHands, x.label.act.disciplined x.pre = true) ∧
      withReused.owner 3 = some 1 ∧
        ¬ ∀ x ∈ failedClose ++ changedHands, ClosesOwn x.pre x.label := by
  refine ⟨run_failedClose.append run_changedHands, by decide, rfl, fun h => ?_⟩
  have hlast : ClosesOwn withReused ⟨.destroy 0 ioErrorOs, handles reclosed.trace⟩ :=
    h ⟨withReused, ⟨.destroy 0 ioErrorOs, handles reclosed.trace⟩, withReclosed⟩
      (by simp [changedHands])
  have hown : some 1 = some 0 := hlast 3 (List.mem_singleton.mpr rfl)
  cases hown

end ClSocket
