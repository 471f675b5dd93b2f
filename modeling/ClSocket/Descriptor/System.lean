import ClSocket.Descriptor.Effect
import ClSocket.Framework.Monitor
import ClSocket.Framework.Ownership
import ClSocket.Framework.Transition

/-!
# Many objects over one descriptor table

A `System` is the live objects of a program and the kernel's table, which gives every open
descriptor the object it was opened for. Its steps are construction, the public operations
and destruction, each against any answers the kernel can give: `socket` and `accept` return a
descriptor that is not in use, and `close` releases the number also when it fails.

An object holds its descriptor as long as no `close` for it has failed (`System.held`). Of a step
`Change` says all there is to say about who holds what: nothing changes hands, a free
descriptor is acquired, the descriptor of the object is released, or it is forgotten.
`Forgets` and `Recloses` are the two ways in which a step can go wrong; a step that does
neither keeps holders and table matched (`Step.orderly`).
-/

namespace ClSocket

open Prog CSimpleSocket Function Ownership

/-! ### Objects and the table -/

/-- A live object, and whether a `close` made for it has failed. -/
structure Object where
  cls : SocketClass
  self : CSimpleSocket
  closeFailed : Bool

/-- The live objects and the table of open descriptors. -/
structure System where
  objects : ℕ → Option Object
  owner : Int → Option ℕ

/-- The kernel's side of a call made for the object `i`, in which `accept` opens for `j`. -/
def kernel (i j : ℕ) : Monitor (Int → Option ℕ) Event where
  next owner
    | .socket _ _ (.ok fd) => update owner fd (some i)
    | .accept _ (.ok (fd, _)) => update owner fd (some j)
    | .close fd _ => update owner fd none
    | _ => owner
  ok owner
    | .socket _ _ (.ok fd) => owner fd = none
    | .accept _ (.ok (fd, _)) => owner fd = none
    | _ => True

/-- The descriptor an object holds. -/
def Object.held (ob : Object) : Option Int :=
  if ob.closeFailed = true ∨ ob.self.m_socket = -1 then none else some ob.self.m_socket

/-- The descriptors the objects hold. -/
def System.held (s : System) : ℕ → Option Int := (fun ob => ob.bind Object.held) ∘ s.objects

theorem Object.held_eq_some {ob : Object} {fd : Int} :
    ob.held = some fd ↔ ob.closeFailed = false ∧ ob.self.m_socket ≠ -1 ∧ ob.self.m_socket = fd := by
  unfold Object.held
  split_ifs with h
  · simp only [false_iff]
    rintro ⟨hc, hv, -⟩
    rcases h with h | h
    · rw [hc] at h
      cases h
    · exact hv h
  · rw [not_or, Bool.not_eq_true] at h
    simp [h]

theorem Object.held_eq_none {ob : Object} (h : ob.self.m_socket = -1) : ob.held = none :=
  if_pos (Or.inr h)

theorem System.held_of_live {s : System} {i : ℕ} {ob : Object} (h : s.objects i = some ob) :
    s.held i = ob.held := by
  unfold System.held
  simp [h]

theorem System.held_of_dead {s : System} {i : ℕ} (h : s.objects i = none) : s.held i = none := by
  unfold System.held
  simp [h]

/-! ### Steps -/

/-- What a program can do. A call names the object that `Accept` would make. -/
inductive Act where
  | construct (i : ℕ) (cls : SocketClass) (nType : CSocketType)
  | call (i : ℕ) (op : Op) (os : Os) (j : ℕ)
  | destroy (i : ℕ) (os : Os)

/-- A step, and the calls it made that the table sees. -/
structure Move where
  act : Act
  calls : Trace

/-- The object a step is about. -/
def Act.subject : Act → ℕ
  | .construct i _ _ | .call i _ _ _ | .destroy i _ => i

def Event.closeFails : Event → Bool
  | .close _ (.fail _) => true
  | _ => false

/-- The object after a method that ended in the state `t`. -/
def Object.ran (ob : Object) (t : State) : Object where
  cls := ob.cls
  self := t.self
  closeFailed := ob.closeFailed || (handles t.trace).any Event.closeFails

/-- The system after a method of the object `i`, with the object it handed out as `j`. -/
def System.ran (s : System) (i j : ℕ) (ob : Object) (client : Option CSimpleSocket) (t : State) :
    System where
  objects := update (update s.objects i (some (ob.ran t))) j
    (client.map fun c => ⟨.active, c, false⟩)
  owner := (kernel i j).after s.owner (handles t.trace)

/-- The steps of a program. `Receive` is the one operation that can end in an exception: its
allocation throws, and the object lives on. -/
inductive Step : System → Move → System → Prop where
  | construct {s : System} {i : ℕ} {cls : SocketClass} {nType : CSocketType} (raw : CSimpleSocket)
      (dead : s.objects i = none) : Step s ⟨.construct i cls nType, []⟩
        { s with objects := update s.objects i (some ⟨cls, .construct raw nType, false⟩) }
  | call {s : System} {i j : ℕ} {ob : Object} {op : Op} {os : Os} {ret : Ret} {t : State}
      (live : s.objects i = some ob) (dead : s.objects j = none) (has : op.ofClass ob.cls = true)
      (hrun : ClSocket.call (op.run ob.cls) ob.self os = .done ret t)
      (legal : (kernel i j).Accepts s.owner (handles t.trace)) :
      Step s ⟨.call i op os j, handles t.trace⟩ (s.ran i j ob ret.client t)
  | throw {s : System} {i j : ℕ} {ob : Object} {nMaxBytes : Int} {pBuffer : Option Bytes} {os : Os}
      {t : State} (live : s.objects i = some ob) (dead : s.objects j = none)
      (hrun : ClSocket.call (receive nMaxBytes pBuffer) ob.self os = .stop .threw t) :
      Step s ⟨.call i (.receive nMaxBytes pBuffer) os j, handles t.trace⟩ (s.ran i j ob none t)
  | destroy {s : System} {i : ℕ} {ob : Object} {os : Os} {t : State}
      (live : s.objects i = some ob)
      (hrun : ClSocket.call (destroy ob.cls) ob.self os = .done () t) :
      Step s ⟨.destroy i os, handles t.trace⟩
        ⟨update s.objects i none, (kernel i i).after s.owner (handles t.trace)⟩

/-- No objects, and no descriptor opened for one. -/
def System.empty : System := ⟨fun _ => none, fun _ => none⟩

/-! ### What can go wrong -/

/-- The step drops the object's descriptor, if that is valid, without closing it: `Initialize`
overwrites it, and the destructor of `CSimpleSocket` does not look at it. -/
def Act.forgets (ob : Object) : Act → Bool
  | .call _ .initializeSocket _ _ => true
  | .destroy _ _ => ob.cls == .simple
  | _ => false

/-- The step closes the object's descriptor, if that is valid. -/
def Act.closes (ob : Object) : Act → Bool
  | .call _ op os _ => op.closes ob.self os.script
  | .destroy _ _ => ob.cls != .simple
  | _ => false

/-- The step forgets a valid descriptor. -/
def Forgets (s : System) (m : Move) : Prop :=
  ∃ ob, s.objects m.act.subject = some ob ∧ ob.self.m_socket ≠ -1 ∧ m.act.forgets ob = true

/-- The step closes for an object for which a `close` has failed. -/
def Recloses (s : System) (m : Move) : Prop :=
  ∃ ob, s.objects m.act.subject = some ob ∧ ob.closeFailed = true ∧ m.act.closes ob = true

/-- The descriptors the step passed to `close`. -/
def Move.closed (m : Move) : List Int :=
  m.calls.filterMap fun
    | .close fd _ => some fd
    | _ => none

/-- An object whose `close` failed still has its descriptor. -/
def StaleValid (s : System) : Prop :=
  ∀ i ob, s.objects i = some ob → ob.closeFailed = true → ob.self.m_socket ≠ -1

/-- **What a step does** to the holders and the table. -/
inductive Change (s : System) (m : Move) (s' : System) : Prop where
  | calm (keeps : ¬ Forgets s m) (once : ¬ Recloses s m) (held_eq : s'.held = s.held)
      (owner_eq : s'.owner = s.owner) (closed_eq : m.closed = [])
  | acquired (keeps : ¬ Forgets s m) (once : ¬ Recloses s m) (k : ℕ) (fd : Int)
      (empty : s.held k = none) (free : s.owner fd = none)
      (held_eq : s'.held = update s.held k (some fd))
      (owner_eq : s'.owner = update s.owner fd (some k)) (closed_eq : m.closed = [])
  | released (keeps : ¬ Forgets s m) (ob : Object) (live : s.objects m.act.subject = some ob)
      (valid : ob.self.m_socket ≠ -1) (closes : m.act.closes ob = true)
      (held_eq : s'.held = update s.held m.act.subject none)
      (owner_eq : s'.owner = update s.owner ob.self.m_socket none)
      (closed_eq : m.closed = [ob.self.m_socket])
  | forgot (forgets : Forgets s m) (once : ¬ Recloses s m) (ob : Object)
      (live : s.objects m.act.subject = some ob) (valid : ob.self.m_socket ≠ -1) (x : Option Int)
      (held_eq : s'.held = update s.held m.act.subject x)
      (other : s.owner ob.self.m_socket ≠ none →
        x ≠ some ob.self.m_socket ∧ s'.owner ob.self.m_socket = s.owner ob.self.m_socket)
      (closed_eq : m.closed = [])

theorem System.held_update (s : System) (owner : Int → Option ℕ) (i : ℕ) (x : Option Object) :
    System.held ⟨update s.objects i x, owner⟩ = update s.held i (x.bind Object.held) :=
  comp_update ..

section

variable {s : System} {i j : ℕ} {ob : Object} {t : State}

/-- Who holds what after a method that handed nothing out. -/
theorem System.held_ran (live : s.objects i = some ob) (dead : s.objects j = none) :
    (s.ran i j ob none t).held = update s.held i (ob.ran t).held := by
  have hne : j ≠ i := by
    rintro rfl
    rw [live] at dead
    cases dead
  have hj : s.held j = none := System.held_of_dead dead
  unfold System.ran System.held at *
  rw [comp_update, comp_update]
  refine update_eq_self_iff.mpr ?_
  rw [update_of_ne hne, hj]
  rfl

/-- Who holds what after `Accept` handed out an object. -/
theorem System.held_ran_client {client : CSimpleSocket} (live : s.objects i = some ob)
    (hheld : (ob.ran t).held = ob.held) : (s.ran i j ob (some client) t).held =
      update s.held j (Object.held ⟨.active, client, false⟩) := by
  have hi : s.held i = (ob.ran t).held := (System.held_of_live live).trans hheld.symm
  have hself : update s.held i (ob.ran t).held = s.held := by rw [← hi, update_eq_self]
  unfold System.ran System.held at *
  rw [comp_update, comp_update]
  exact congrArg (update · j _) hself

/-- The descriptor of an object is still its own if no call touched it. -/
theorem Object.held_ran_kept (hsocket : t.self.m_socket = ob.self.m_socket)
    (hcalls : (handles t.trace).any Event.closeFails = false) : (ob.ran t).held = ob.held := by
  unfold Object.ran Object.held
  simp [hsocket, hcalls]

theorem forgets_iff {m : Move} (live : s.objects m.act.subject = some ob) :
    Forgets s m ↔ ob.self.m_socket ≠ -1 ∧ m.act.forgets ob = true := by
  simp [Forgets, live]

theorem recloses_iff {m : Move} (live : s.objects m.act.subject = some ob) :
    Recloses s m ↔ ob.closeFailed = true ∧ m.act.closes ob = true := by
  simp [Recloses, live]

/-- The table does not notice refused connections. -/
@[simp] theorem kernel_after_rejections (owner : Int → Option ℕ) (fd : Int) (fails : List Errno) :
    (kernel i j).after owner (CPassiveSocket.rejections fd fails) = owner := by
  induction fails with
  | nil => rfl
  | cons e fails ih => exact ih

theorem closed_rejections (act : Act) (fd : Int) (fails : List Errno) :
    Move.closed ⟨act, CPassiveSocket.rejections fd fails⟩ = [] := by
  simp [Move.closed, CPassiveSocket.rejections, List.filterMap_map]

theorem closeFails_rejections (fd : Int) (fails : List Errno) :
    (CPassiveSocket.rejections fd fails).any Event.closeFails = false := by
  simp [CPassiveSocket.rejections, Event.closeFails]

/-- A method changes what its effect says. -/
theorem Change.of_effect {op : Op} {os : Os} {client : Option CSimpleSocket}
    (live : s.objects i = some ob) (dead : s.objects j = none)
    (hstale : ob.closeFailed = true → ob.self.m_socket ≠ -1)
    (legal : (kernel i j).Accepts s.owner (handles t.trace))
    (h : Effect ob.self os.script op (handles t.trace) t.self.m_socket client) :
    Change s ⟨.call i op os j, handles t.trace⟩ (s.ran i j ob client t) := by
  have hforgets := fun calls => forgets_iff (m := ⟨.call i op os j, calls⟩) live
  have hrecloses := fun calls => recloses_iff (m := ⟨.call i op os j, calls⟩) live
  have howner : (s.ran i j ob client t).owner = (kernel i j).after s.owner (handles t.trace) := rfl
  -- the cases of the effect say what the calls and the descriptor are, so both become variables
  obtain ⟨calls, hcalls⟩ : ∃ calls, handles t.trace = calls := ⟨_, rfl⟩
  obtain ⟨fd', hfd'⟩ : ∃ fd', t.self.m_socket = fd' := ⟨_, rfl⟩
  rw [hcalls] at h legal howner ⊢
  rw [hfd'] at h
  cases h with
  -- nothing is opened or closed, and what the object holds is as before
  | kept keeps other =>
    refine .calm ?_ ?_ ?_ howner rfl
    · rw [hforgets]
      rintro ⟨-, hf⟩
      cases op <;> simp_all [Act.forgets]
    · rw [hrecloses]
      rintro ⟨hfailed, hcloses⟩
      exact hstale hfailed (keeps hcloses)
    · rw [System.held_ran live dead, Object.held_ran_kept hfd' (by rw [hcalls]; rfl),
        ← System.held_of_live live, update_eq_self]
  -- whether or not `close` fails, the object holds nothing any more
  | closed closes valid res =>
    refine .released ?_ ob live valid closes ?_ howner rfl
    · rw [hforgets]
      rintro ⟨-, hf⟩
      cases op <;> simp_all [Act.forgets, Op.closes]
    · rw [System.held_ran live dead]
      congr 1
      unfold Object.ran Object.held
      cases res <;> simp [hcalls, hfd', Event.closeFails]
  -- `socket` was called, for an object without a descriptor or over the one it has
  | acquired domain type res =>
    have hheld : (ob.ran t).held =
        if ob.closeFailed = true ∨ res.ret = -1 then none else some res.ret := by
      unfold Object.ran Object.held
      simp [hcalls, hfd', Event.closeFails]
    have honce : ¬ Recloses s ⟨.call i .initializeSocket os j, [.socket domain type res]⟩ := by
      rw [hrecloses]
      rintro ⟨-, hcloses⟩
      cases hcloses
    by_cases hv : ob.self.m_socket = -1
    · have hclean : ob.closeFailed = false := by
        rw [← Bool.not_eq_true]
        exact fun hc => hstale hc hv
      have hkeeps : ¬ Forgets s ⟨.call i .initializeSocket os j, [.socket domain type res]⟩ := by
        rw [hforgets]
        exact fun h => h.1 hv
      have hnone : s.held i = none := (System.held_of_live live).trans (Object.held_eq_none hv)
      cases res with
      | fail e =>
        refine .calm hkeeps honce ?_ howner rfl
        rw [System.held_ran live dead, hheld, ← hnone]
        simp
      | ok fd =>
        refine .acquired hkeeps honce i fd hnone legal.1 ?_ howner rfl
        rw [System.held_ran live dead, hheld, hclean]
        simp
    -- the old descriptor is neither closed nor stored any more
    · refine .forgot ((hforgets _).mpr ⟨hv, rfl⟩) honce ob live hv _
        (System.held_ran live dead) (fun hopen => ?_) rfl
      rw [hheld, howner]
      cases res with
      | fail e => simp [kernel]
      | ok fd =>
        have hne : ob.self.m_socket ≠ fd := by
          intro heq
          rw [heq] at hopen
          exact hopen legal.1
        simp [kernel, hne, hne.symm]
  -- refused `accept`s open nothing
  | rejected raw fails =>
    refine .calm ?_ ?_ ?_ ?_ (closed_rejections ..)
    · rw [hforgets]
      rintro ⟨-, hf⟩
      cases hf
    · rw [hrecloses]
      rintro ⟨-, hc⟩
      cases hc
    · rw [System.held_ran live dead, Object.held_ran_kept hfd'
        (by rw [hcalls]; exact closeFails_rejections ..), ← System.held_of_live live,
        update_eq_self]
    · rw [howner, kernel_after_rejections]
  -- the descriptor goes to the new object, and the listener holds what it held
  | accepted raw fails fd peer name =>
    refine .acquired ?_ ?_ j fd (System.held_of_dead dead) ?_ ?_ ?_ ?_
    · rw [hforgets]
      rintro ⟨-, hf⟩
      cases hf
    · rw [hrecloses]
      rintro ⟨-, hc⟩
      cases hc
    · rw [Monitor.accepts_append, kernel_after_rejections] at legal
      exact legal.2.1
    · have hkept : (ob.ran t).held = ob.held := by
        refine Object.held_ran_kept hfd' ?_
        rw [hcalls, List.any_append, closeFails_rejections]
        rfl
      rw [System.held_ran_client live hkept]
      simp [Object.held, CPassiveSocket.accepted]
    · rw [howner, Monitor.after_append, kernel_after_rejections]
      rfl
    · have hclosed := closed_rejections (.call i (.accept raw) os j) ob.self.m_socket fails
      unfold Move.closed at hclosed ⊢
      rw [List.filterMap_append, hclosed]
      rfl

/-- The destructors of the derived classes close, that of the base class does not. -/
theorem wp_destroy (cls : SocketClass) (s : State) :
    wp (ClSocket.destroy cls) (fun _ t => (cls = .simple → Kept s t) ∧
      (cls ≠ .simple → ClosedIfValid s t)) (fun _ _ => True) s := by
  unfold ClSocket.destroy
  rw [wp_bind, wp_when]
  refine ⟨fun hcls => ?_, fun hcls => ?_⟩
  · rw [wp_bind]
    refine wp_mono (fun r u h => ?_) (fun _ _ h => h) (wp_closeSocket s)
    exact ⟨fun hs => absurd hs hcls, fun _ => h.2.before ⟨rfl, handles_bufferDeleted u⟩⟩
  · exact ⟨fun _ => ⟨rfl, handles_bufferDeleted s⟩, fun hs => absurd hs hcls⟩

/-- A destructor changes what its effect says. -/
theorem Change.of_destroy {os : Os} (live : s.objects i = some ob)
    (hstale : ob.closeFailed = true → ob.self.m_socket ≠ -1)
    (hkept : ob.cls = .simple → Kept ⟨ob.self, os, []⟩ t)
    (hclosed : ob.cls ≠ .simple → ClosedIfValid ⟨ob.self, os, []⟩ t) :
    Change s ⟨.destroy i os, handles t.trace⟩
      ⟨update s.objects i none, (kernel i i).after s.owner (handles t.trace)⟩ := by
  have hheld : System.held ⟨update s.objects i none,
      (kernel i i).after s.owner (handles t.trace)⟩ = update s.held i none :=
    System.held_update ..
  have hforgets := fun calls => forgets_iff (m := ⟨.destroy i os, calls⟩) live
  have hrecloses := fun calls => recloses_iff (m := ⟨.destroy i os, calls⟩) live
  -- an object without a valid descriptor had nothing to lose
  have hcalm : ob.self.m_socket = -1 → handles t.trace = [] →
      Change s ⟨.destroy i os, handles t.trace⟩
        ⟨update s.objects i none, (kernel i i).after s.owner (handles t.trace)⟩ := by
    intro hv hcalls
    refine .calm ?_ ?_ ?_ ?_ ?_
    · rw [hforgets]
      exact fun h => h.1 hv
    · rw [hrecloses]
      exact fun h => hstale h.1 hv
    · have hnone : s.held i = none := (System.held_of_live live).trans (Object.held_eq_none hv)
      rw [hheld, ← hnone, update_eq_self]
    · rw [hcalls]
      rfl
    · rw [hcalls]
      rfl
  by_cases hcls : ob.cls = .simple
  · obtain ⟨-, hcalls⟩ := hkept hcls
    by_cases hv : ob.self.m_socket = -1
    · exact hcalm hv hcalls
    · rw [hcalls] at hheld ⊢
      -- the destructor of the base class leaves the descriptor open
      refine .forgot ((hforgets _).mpr ⟨hv, by simp [Act.forgets, hcls]⟩) ?_ ob live hv none hheld
        (fun _ => ⟨by simp, rfl⟩) rfl
      rw [hrecloses]
      simp [Act.closes, hcls]
  · obtain ⟨hinvalid, hvalid⟩ := hclosed hcls
    by_cases hv : ob.self.m_socket = -1
    · exact hcalm hv (hinvalid hv).handles_eq
    · obtain ⟨-, res, hcalls, -⟩ := hvalid hv
      have hcalls : handles t.trace = [.close ob.self.m_socket res] := hcalls
      rw [hcalls] at hheld ⊢
      refine .released ?_ ob live hv (by simp [Act.closes, hcls]) hheld rfl rfl
      rw [hforgets]
      simp [Act.forgets, hcls]

end

/-! ### Every step -/

/-- **A step changes one thing at most.** -/
theorem Step.change {s s' : System} {m : Move} (h : Step s m s') (hstale : StaleValid s) :
    Change s m s' := by
  cases h with
  -- a new object holds nothing
  | construct raw dead =>
    refine .calm ?_ ?_ ?_ rfl rfl
    · rintro ⟨ob, live, -⟩
      exact Option.some_ne_none ob (live.symm.trans dead)
    · rintro ⟨ob, live, -⟩
      exact Option.some_ne_none ob (live.symm.trans dead)
    · rw [System.held_update]
      refine update_eq_self_iff.mpr ?_
      rw [System.held_of_dead dead]
      rfl
  | call live dead has hrun legal =>
    exact .of_effect live dead (hstale _ _ live) legal (effect_of_call hrun)
  | @throw i j ob nMaxBytes pBuffer os t live dead hrun =>
    obtain ⟨hsocket, hcalls, -⟩ := wp_stopped (holds_receive nMaxBytes pBuffer _) hrun
    refine .of_effect live dead (hstale _ _ live) ?_
      (effect_kept ⟨hsocket, hcalls⟩ (by simp [Op.closes]) (by simp))
    rw [hcalls]
    trivial
  | destroy live hrun =>
    obtain ⟨hkept, hclosed⟩ := wp_call (wp_destroy _ _) hrun
    exact .of_destroy live (hstale _ _ live) hkept hclosed

/-- Where an object of the system comes from after a step. -/
inductive Origin (s : System) (m : Move) : ℕ → Object → Prop where
  | same {k : ℕ} {ob : Object} (live : s.objects k = some ob) : Origin s m k ob
  | made {k : ℕ} (cls : SocketClass) (self : CSimpleSocket)
      (why : cls = .active ∨ ∃ i nType, m.act = .construct i cls nType) :
      Origin s m k ⟨cls, self, false⟩
  | ran {i j : ℕ} {ob : Object} {op : Op} {os : Os} {t : State} {client : Option CSimpleSocket}
      (live : s.objects i = some ob) (act : m.act = .call i op os j)
      (calls : m.calls = handles t.trace)
      (effect : Effect ob.self os.script op m.calls t.self.m_socket client) :
      Origin s m i (ob.ran t)

theorem Origin.of_ran {s : System} {i j k : ℕ} {ob ob' : Object} {op : Op} {os : Os} {t : State}
    {client : Option CSimpleSocket} (live : s.objects i = some ob)
    (effect : Effect ob.self os.script op (handles t.trace) t.self.m_socket client)
    (h : (s.ran i j ob client t).objects k = some ob') :
    Origin s ⟨.call i op os j, handles t.trace⟩ k ob' := by
  unfold System.ran at h
  rcases eq_or_ne k j with rfl | hj
  · cases client with
    | none => simp at h
    | some c =>
      obtain rfl : _ = ob' := by simpa using h
      exact .made _ c (Or.inl rfl)
  · rcases eq_or_ne k i with rfl | hi
    · obtain rfl : ob.ran t = ob' := by simpa [hj] using h
      exact .ran live rfl rfl effect
    · exact .same (by simpa [hj, hi] using h)

theorem Step.origin {s s' : System} {m : Move} (h : Step s m s') {k : ℕ} {ob : Object}
    (hk : s'.objects k = some ob) : Origin s m k ob := by
  cases h with
  | @construct i cls nType raw dead =>
    rcases eq_or_ne k i with rfl | hi
    · obtain rfl : _ = ob := by simpa using hk
      exact .made cls _ (Or.inr ⟨_, _, rfl⟩)
    · exact .same (by simpa [hi] using hk)
  | call live dead has hrun legal => exact .of_ran live (effect_of_call hrun) hk
  | @throw i j ob nMaxBytes pBuffer os t live dead hrun =>
    obtain ⟨hsocket, hcalls, -⟩ := wp_stopped (holds_receive nMaxBytes pBuffer _) hrun
    exact .of_ran live (effect_kept ⟨hsocket, hcalls⟩ (by simp [Op.closes]) (by simp)) hk
  | @destroy i ob os t live hrun =>
    rcases eq_or_ne k i with rfl | hi
    · simp at hk
    · exact .same (by simpa [hi] using hk)

/-- A step that goes right remembers every failed `close`. -/
theorem Step.staleValid {s s' : System} {m : Move} (h : Step s m s') (hs : StaleValid s)
    (hkeeps : ¬ Forgets s m) (honce : ¬ Recloses s m) : StaleValid s' := by
  intro k ob' hk hfailed
  cases h.origin hk with
  | same live => exact hs k ob' live hfailed
  | made cls self => cases hfailed
  | @ran j ob op os t client live act calls effect =>
    have hsubject : m.act.subject = k := by rw [act]; rfl
    rw [← hsubject] at live
    rw [forgets_iff live, act] at hkeeps
    rw [recloses_iff live, act] at honce
    rw [hsubject] at live
    simp only [Object.ran, ← calls] at hfailed ⊢
    -- what the step did with the descriptor decides
    generalize m.calls = evs at effect hfailed
    generalize t.self.m_socket = fd at effect ⊢
    cases effect with
    | kept => exact hs k ob live (by simpa using hfailed)
    -- a `close` that fails is the first on this descriptor, which is valid
    | closed closes valid res =>
      have hclean : ob.closeFailed = false := by
        rw [← Bool.not_eq_true]
        exact fun hc => honce ⟨hc, closes⟩
      cases res with
      | ok _ => simp [hclean, Event.closeFails] at hfailed
      | fail e => simpa using valid
    -- only an object without a descriptor takes a new one, and it has no failed `close`
    | acquired domain type res =>
      have hinvalid : ob.self.m_socket = -1 := not_not.mp fun hv => hkeeps ⟨hv, rfl⟩
      exact absurd hinvalid (hs k ob live (by simpa [Event.closeFails] using hfailed))
    | rejected raw fails =>
      rw [closeFails_rejections] at hfailed
      exact hs k ob live (by simpa using hfailed)
    | accepted raw fails =>
      rw [List.any_append, closeFails_rejections] at hfailed
      exact hs k ob live (by simpa [Event.closeFails] using hfailed)

/-! ### The invariant -/

/-- Holders and table agree, and every object whose `close` failed still has its descriptor. -/
structure Orderly (s : System) : Prop where
  matched : Matched s.held s.owner
  stale : StaleValid s

theorem orderly_empty : Orderly .empty := ⟨matched_empty, fun _ _ h => by cases h⟩

/-- **A step that neither forgets a descriptor nor closes again** keeps the order. -/
theorem Step.orderly {s s' : System} {m : Move} (h : Step s m s') (hs : Orderly s)
    (hkeeps : ¬ Forgets s m) (honce : ¬ Recloses s m) : Orderly s' := by
  refine ⟨?_, h.staleValid hs.stale hkeeps honce⟩
  cases h.change hs.stale with
  | calm _ _ hheld howner =>
    rw [hheld, howner]
    exact hs.matched
  | acquired _ _ k fd hempty hfree hheld howner =>
    rw [hheld, howner]
    exact hs.matched.acquire hempty hfree
  | released _ ob live valid closes hheld howner =>
    have hclean : ob.closeFailed = false := by
      rw [← Bool.not_eq_true]
      exact fun hc => honce ⟨ob, live, hc, closes⟩
    rw [hheld, howner]
    refine hs.matched.release ((System.held_of_live live).trans ?_)
    exact Object.held_eq_some.mpr ⟨hclean, valid, rfl⟩
  | forgot forgets => exact absurd forgets hkeeps

end ClSocket
