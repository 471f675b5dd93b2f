import ClSocket.Descriptor.Leak
import ClSocket.Descriptor.Reachable
import ClSocket.Method.Conduct

/-!
# Objects keep to themselves

An object is made for a type of socket, and nothing changes that afterwards: its type, the domain that
goes with it and the flags stay what the constructor made of them (`Proper`). With the rule of
conduct this tells which calls an object can make at all. They are for its own descriptor, the one it
holds in the kernel's table (`calls_isolated`), and they are calls for its type of socket
(`calls_of_type`).

`SendFile` is the exception to both: it works on the two descriptors it is handed, whoever has them
(`Op.Handed`).

The programs are those of `Step`. They construct objects, call, accept and destroy, and copy none: a copy
has the descriptor and the error code its storage held.
-/

namespace ClSocket

open Prog CSimpleSocket Function Ownership

/-! ### What the constructor settles -/

/-- The domain the constructor takes for a type. -/
def CSocketType.domain : CSocketType → Int
  | .socketTypeTcp6 | .socketTypeUdp6 => AF_INET6
  | .socketTypeRaw => AF_PACKET
  | _ => AF_INET

/-- What holds of an object throughout its life. -/
structure Proper (o : CSimpleSocket) : Prop where
  domain : o.m_nSocketDomain = o.m_nSocketType.domain
  flags : o.m_nFlags = 0
  code : o.m_socketErrno.reported = true

theorem proper_construct (raw : CSimpleSocket) (nType : CSocketType) :
    Proper (.construct raw nType) := ⟨by cases nType <;> rfl, rfl, rfl⟩

/-- The object of a connection is constructed as one of `Accept`'s. -/
theorem proper_accepted (raw : CSimpleSocket) (fd : ℕ) (peer : SockaddrIn)
    (name : Answer SockaddrIn) : Proper (CPassiveSocket.accepted raw fd peer name) := ⟨rfl, rfl, rfl⟩

/-- The licence of an object of a type, for one descriptor. -/
def Licence.of (nType : CSocketType) (fd : Int) : Licence where
  owns d := d = fd ∨ d = -1
  invalid := Or.inr rfl
  nType := nType
  nDomain := nType.domain
  moves := true

theorem Proper.held {o : CSimpleSocket} (h : Proper o) :
    (Licence.of o.m_nSocketType o.m_socket).Held o :=
  ⟨Or.inl rfl, rfl, h.domain, h.flags, h.code⟩

theorem Licence.Held.proper {nType : CSocketType} {fd : Int} {o : CSimpleSocket}
    (h : (Licence.of nType fd).Held o) : Proper o ∧ o.m_nSocketType = nType :=
  ⟨⟨h.domain.trans (congrArg CSocketType.domain h.type.symm), h.flags, h.code⟩, h.type⟩

/-! ### What an operation calls -/

/-- The calls `SendFile` makes on the descriptors it is handed. -/
def Op.Handed : Op → Event → Prop
  | .sendFile _ nInFd _ _, .lseek fd _ _ | .sendFile _ nInFd _ _, .read fd _ _ => fd = nInFd
  | .sendFile nOutFd _ _ _, .send fd _ _ => fd = nOutFd
  | _, _ => False

/-- Calls were added to the trace, each covered by the object's licence or made on what the
operation was handed. -/
def LicensedBy (op : Op) (s t : State) : Prop :=
  ∃ calls, t.trace = s.trace ++ calls ∧
    ∀ e ∈ calls, (Licence.of s.self.m_nSocketType s.self.m_socket).Allows e ∨ op.Handed e

/-- The object is still what it was made for. -/
def Enduring (s t : State) : Prop :=
  Proper t.self ∧ t.self.m_nSocketType = s.self.m_nSocketType

/-- `SendFile` leaves the object alone but for its code, and works on what it was handed. -/
def Filed (op : Op) (s t : State) : Prop :=
  (Proper s.self → Enduring s t) ∧ ∃ calls, t.trace = s.trace ++ calls ∧ ∀ e ∈ calls, op.Handed e

instance (op : Op) : Std.Refl (Filed op) := ⟨fun _ => ⟨fun h => ⟨h, rfl⟩, [], by simp, by simp⟩⟩

instance (op : Op) : IsTrans State (Filed op) := ⟨by
  rintro s t u ⟨hst, calls, ht, hall⟩ ⟨htu, calls', hu, hall'⟩
  refine ⟨fun hs => ?_, calls ++ calls', by rw [hu, ht, List.append_assoc], fun e he => ?_⟩
  · exact ⟨(htu (hst hs).1).1, (htu (hst hs).1).2.trans (hst hs).2⟩
  · exact (List.mem_append.mp he).elim (hall e) (hall' e)⟩

theorem filed_issue {op : Op} {α : Type} {queue : Script → List (Answer α)}
    {put : List (Answer α) → Script → Script} {ev : Answer α → Event} (h : ∀ a, op.Handed (ev a)) :
    Keeps (Filed op) (issue queue put ev) := by
  intro s
  rw [wp_issue_iff]
  refine ⟨fun _ => Std.Refl.refl s, fun a rest _ => ⟨fun hs => ⟨hs, rfl⟩, [ev a], rfl, ?_⟩⟩
  rw [List.forall_mem_singleton]
  exact h a

theorem filed_sendFile (nOutFd nInFd pOffset nCount : Int) :
    Keeps (Filed (.sendFile nOutFd nInFd pOffset nCount)) (sendFile nOutFd nInFd pOffset nCount) := by
  -- the object is written by the translation alone; every call names a descriptor that was handed in
  have hpure : ∀ {α : Type} {x : M α}, (∀ s, ∃ a t, x s = .done a t ∧ t.self = s.self ∧
      t.trace = s.trace) → Keeps (Filed (.sendFile nOutFd nInFd pOffset nCount)) x := by
    intro α x hx s
    obtain ⟨a, t, hrun, hself, htrace⟩ := hx s
    have hfiled : Filed (.sendFile nOutFd nInFd pOffset nCount) s t :=
      ⟨fun hs => by rw [Enduring, hself]; exact ⟨hs, rfl⟩, [], by rw [htrace]; simp, by simp⟩
    unfold wp
    rw [hrun]
    exact hfiled
  have htranslate : Keeps (Filed (.sendFile nOutFd nInFd pOffset nCount)) translateSocketError :=
    fun s => ⟨fun hs => ⟨⟨hs.domain, hs.flags, reported_translateErrno _⟩, rfl⟩, [], by simp, by simp⟩
  have hsum : ∀ a b, Keeps (Filed (.sendFile nOutFd nInFd pOffset nCount)) (addInt32 a b) :=
    fun _ _ => keeps_ite (keeps_pure _) (keeps_stop _)
  have hdifference : ∀ a b, Keeps (Filed (.sendFile nOutFd nInFd pOffset nCount)) (subInt32 a b) :=
    fun _ _ => keeps_ite (keeps_pure _) (keeps_stop _)
  -- a round reads from the one and sends on the other
  have hround : ∀ nOutCount, Keeps (Filed (.sendFile nOutFd nInFd pOffset nCount))
      (sendFileRound nOutFd nInFd nCount nOutCount) := by
    intro nOutCount
    refine keeps_ite (keeps_bind (hdifference _ _) fun left =>
      keeps_bind (filed_issue fun _ => rfl) fun res => ?_) (keeps_pure _)
    cases res with
    | fail _ => exact keeps_pure _
    | ok bs =>
      refine keeps_bind (hpure fun s => ⟨_, _, rfl, rfl, rfl⟩) fun _ => keeps_ite (keeps_pure _) ?_
      exact keeps_bind (hpure fun s => ⟨_, _, rfl, rfl, rfl⟩) fun _ =>
        keeps_bind (filed_issue fun _ => rfl) fun _ => keeps_ite (keeps_pure _)
          (keeps_bind (hsum _ _) fun _ => keeps_pure _)
  refine keeps_bind (filed_issue fun _ => rfl) fun res => ?_
  cases res with
  | fail _ => exact keeps_pure _
  | ok _ =>
    refine keeps_bind keeps_script fun sc => keeps_bind (keeps_iter hround _ _) fun r => ?_
    cases r with
    | none => exact keeps_pure _
    | some _ => exact keeps_bind htranslate fun _ => keeps_pure _

/-- An operation of a proper object: what it calls, also when it does not return, and what it leaves
behind. -/
theorem wp_run_licensed (cls : SocketClass) (op : Op) {s : State} (hs : Proper s.self) :
    wp (op.run cls) (fun _ t => Enduring s t ∧ LicensedBy op s t) (fun _ t => LicensedBy op s t) s := by
  -- all but two operations keep to a licence of their object's own
  by_cases hop : op.isOwn = true
  · have hheld : ∀ t, Conduct (.of s.self.m_nSocketType s.self.m_socket) s t →
        Enduring s t ∧ LicensedBy op s t := by
      intro t hconduct
      obtain ⟨ht, calls, htrace, hall, -⟩ := hconduct hs.held
      exact ⟨ht.proper, calls, htrace, fun e he => Or.inl (hall e he)⟩
    exact wp_mono (fun _ t h => hheld t h) (fun _ t h => (hheld t h).2)
      (conduct_run cls hop (fun _ => rfl) s)
  cases op with
  | initializeSocket =>
    rw [Op.run, wp_map]
    refine wp_mono ?_ (fun _ t h => ⟨[], by rw [h]; simp, by simp⟩) (wp_initializeSocket_conduct s)
    rintro b t ⟨res, htrace, -, hheld, -⟩
    -- `Initialize` makes one call, and the licence is for what that returns
    have ht := hheld (.of s.self.m_nSocketType res.ret) ⟨Or.inl rfl, rfl, hs.domain, hs.flags, rfl⟩
    refine ⟨ht.proper, _, htrace, ?_⟩
    rw [List.forall_mem_singleton]
    exact Or.inl ⟨hs.domain, rfl⟩
  | sendFile nOutFd nInFd pOffset nCount =>
    have hfiled : ∀ t, Filed (.sendFile nOutFd nInFd pOffset nCount) s t →
        Enduring s t ∧ LicensedBy (.sendFile nOutFd nInFd pOffset nCount) s t := by
      rintro t ⟨henduring, calls, htrace, hall⟩
      exact ⟨henduring hs, calls, htrace, fun e he => Or.inr (hall e he)⟩
    exact wp_mono (fun _ t h => hfiled t h) (fun _ t h => (hfiled t h).2)
      (Keeps.map (filed_sendFile nOutFd nInFd pOffset nCount) _ s)
  | _ => exact absurd rfl hop

/-- The calls of one operation. -/
theorem licensed_call {cls : SocketClass} {op : Op} {o : CSimpleSocket} (ho : Proper o) (os : Os) :
    ∀ e ∈ (call (op.run cls) o os).state.trace,
      (Licence.of o.m_nSocketType o.m_socket).Allows e ∨ op.Handed e := by
  have hrun := wp_run_licensed cls op (s := ⟨o, os, []⟩) ho
  have hlicensed : LicensedBy op ⟨o, os, []⟩ (call (op.run cls) o os).state := by
    cases hcall : call (op.run cls) o os with
    | done ret t => exact (wp_done hrun hcall).2
    | stop e t =>
      have hstopped := wp_stopped hrun hcall
      exact hstopped
  obtain ⟨calls, htrace, hall⟩ := hlicensed
  rw [htrace]
  exact hall

/-- What `Accept` returns. -/
theorem proper_of_accept {o raw client : CSimpleSocket} {os : Os} {t : State}
    (hrun : call (CPassiveSocket.accept raw) o os = .done (some client) t) : Proper client := by
  obtain ⟨-, fails, fd, peer, name', name, rfl, -⟩ := wp_call (CPassiveSocket.wp_accept raw _) hrun
  exact proper_accepted raw fd peer name

/-- An object a program can hold is proper. -/
theorem Reachable.proper {cls : SocketClass} {o : CSimpleSocket} (h : Reachable cls o) : Proper o := by
  induction h with
  | constructed cls raw nType => exact proper_construct raw nType
  | @called cls o op os ret t _ _ hrun ih => exact (wp_call (wp_run_licensed cls op ih) hrun).1.1
  | accepted _ hrun _ => exact proper_of_accept hrun

/-! ### Whole programs -/

/-- All objects are proper. -/
def AllProper (s : System) : Prop := ∀ i ob, s.objects i = some ob → Proper ob.self

/-- The objects that live on through a step are of the same class and type. -/
def SameKinds (s s' : System) : Prop :=
  ∀ i ob ob', s.objects i = some ob → s'.objects i = some ob' →
    ob'.cls = ob.cls ∧ ob'.self.m_nSocketType = ob.self.m_nSocketType

section

variable {s s' : System} {m : Move} {i j : ℕ} {ob : Object} {t : State}

/-- After a method of the object `i`. -/
theorem AllProper.ran {client : Option CSimpleSocket} (hs : AllProper s) (live : s.objects i = some ob)
    (dead : s.objects j = none) (ht : Enduring ⟨ob.self, t.os, []⟩ t)
    (hclient : ∀ c, client = some c → Proper c) :
    AllProper (s.ran i j ob client t) ∧ SameKinds s (s.ran i j ob client t) := by
  -- an object afterwards is the client, the one that ran, or an old one
  have hobjects : ∀ k ob', (s.ran i j ob client t).objects k = some ob' →
      (k = j ∧ ∃ c, client = some c ∧ ob' = ⟨.active, c, false⟩) ∨ (k = i ∧ ob' = ob.ran t) ∨
        s.objects k = some ob' := by
    intro k ob' hk
    unfold System.ran at hk
    rcases eq_or_ne k j with rfl | hj
    · cases client with
      | none => simp at hk
      | some c => exact Or.inl ⟨rfl, c, rfl, by simpa using hk.symm⟩
    · rcases eq_or_ne k i with rfl | hi
      · exact Or.inr (Or.inl ⟨rfl, by simpa [hj] using hk.symm⟩)
      · exact Or.inr (Or.inr (by simpa [hj, hi] using hk))
  refine ⟨fun k ob' hk => ?_, fun k ob₁ ob₂ h₁ h₂ => ?_⟩
  · rcases hobjects k ob' hk with ⟨rfl, c, hc, rfl⟩ | ⟨rfl, rfl⟩ | hsame
    · exact hclient c hc
    · exact ht.1
    · exact hs k ob' hsame
  · rcases hobjects k ob₂ h₂ with ⟨rfl, -⟩ | ⟨rfl, rfl⟩ | hsame
    · cases dead.symm.trans h₁
    · obtain rfl : ob = ob₁ := Option.some.inj (live.symm.trans h₁)
      exact ⟨rfl, ht.2⟩
    · obtain rfl : ob₁ = ob₂ := Option.some.inj (h₁.symm.trans hsame)
      exact ⟨rfl, rfl⟩

/-- What `Accept` returns is proper. -/
theorem proper_client {cls : SocketClass} {op : Op} {os : Os} {ret : Ret} {c : CSimpleSocket}
    (hrun : call (op.run cls) ob.self os = .done ret t) (hc : ret.client = some c) : Proper c := by
  cases op with
  | accept raw =>
    obtain ⟨r, hr, rfl⟩ := call_done hrun
    obtain rfl : r = some c := hc
    exact proper_of_accept hr
  | _ =>
    obtain ⟨r, -, rfl⟩ := call_done hrun
    cases hc

/-- **A step keeps the objects proper**, and of the kind they are. -/
theorem Step.proper (h : Step s m s') (hs : AllProper s) : AllProper s' ∧ SameKinds s s' := by
  cases h with
  | @construct i cls nType raw dead =>
    refine ⟨fun k ob' hk => ?_, fun k ob₁ ob₂ h₁ h₂ => ?_⟩
    · rcases eq_or_ne k i with rfl | hi
      · obtain rfl : _ = ob' := by simpa using hk
        exact proper_construct raw nType
      · exact hs k ob' (by simpa [hi] using hk)
    · rcases eq_or_ne k i with rfl | hi
      · cases dead.symm.trans h₁
      · obtain rfl : ob₁ = ob₂ := Option.some.inj (h₁.symm.trans (by simpa [hi] using h₂))
        exact ⟨rfl, rfl⟩
  | @call i j ob op os ret t live dead has hrun legal =>
    exact hs.ran live dead (wp_call (wp_run_licensed ob.cls op (hs i ob live)) hrun).1
      fun c hc => proper_client hrun hc
  -- `new` throws in `Receive` alone, which is conducted like the rest
  | @throw i j ob nMaxBytes pBuffer os t live dead hrun =>
    have hconduct := wp_stopped (conduct_receive (l := .of ob.self.m_nSocketType ob.self.m_socket)
      rfl nMaxBytes pBuffer _) hrun
    exact hs.ran live dead (hconduct (hs i ob live).held).1.proper fun c hc => by cases hc
  -- the object that is gone has no properties to keep
  | @destroy i ob os t live hrun =>
    refine ⟨fun k ob' hk => ?_, fun k ob₁ ob₂ h₁ h₂ => ?_⟩
    · rcases eq_or_ne k i with rfl | hi
      · simp at hk
      · exact hs k ob' (by simpa [hi] using hk)
    · rcases eq_or_ne k i with rfl | hi
      · simp at h₂
      · obtain rfl : ob₁ = ob₂ := Option.some.inj (h₁.symm.trans (by simpa [hi] using h₂))
        exact ⟨rfl, rfl⟩

/-- Only its destructor ends an object. -/
theorem Step.survives (h : Step s m s') (live : s.objects i = some ob)
    (hkept : ∀ os, m.act ≠ .destroy i os) : ∃ ob', s'.objects i = some ob' := by
  -- a method changes the object it runs on, and may add one where there was none
  have hran : ∀ {k j : ℕ} {ob' : Object} {client : Option CSimpleSocket} {t : State},
      s.objects j = none → ∃ ob'', (s.ran k j ob' client t).objects i = some ob'' := by
    intro k j ob' client t dead
    have hj : i ≠ j := by
      rintro rfl
      cases dead.symm.trans live
    unfold System.ran
    rcases eq_or_ne i k with rfl | hk
    · exact ⟨ob'.ran t, by simp [hj]⟩
    · exact ⟨ob, by simpa [hj, hk] using live⟩
  cases h with
  | @construct k cls nType raw dead =>
    have hk : i ≠ k := by
      rintro rfl
      cases dead.symm.trans live
    exact ⟨ob, by simpa [hk] using live⟩
  | call _ dead => exact hran dead
  | throw _ dead => exact hran dead
  | @destroy k ob' os t live' hrun =>
    have hk : i ≠ k := by
      rintro rfl
      exact hkept os rfl
    exact ⟨ob, by simpa [hk] using live⟩

/-- Every object of a program is proper. -/
theorem allProper_of_run {steps : List (Taken System Move)} (h : Run Step .empty steps s) :
    AllProper s :=
  (h.invariant AllProper (fun _ _ _ => True) (fun _ _ _ hstep hs => ⟨(hstep.proper hs).1, trivial⟩)
    fun _ _ hi => by cases hi).1

end

/-! ### The calls of an object -/

/-- The descriptors a call names: the one it is made on, and for `select` those in its sets. -/
def Event.fds : Event → Finset Int
  | .close fd _ | .bind fd _ _ | .listen fd _ _ | .accept fd _ | .connect fd _ _ => {fd}
  | .getpeername fd _ | .getsockname fd _ | .setsockopt fd _ _ _ _ => {fd}
  | .getsockopt fd _ _ _ _ | .send fd _ _ | .sendto fd _ _ _ | .writev fd _ _ => {fd}
  | .recv fd _ _ _ _ | .recvfrom fd _ _ | .getfl fd _ | .setfl fd _ _ | .shutdown fd _ _ => {fd}
  | .lseek fd _ _ | .read fd _ _ => {fd}
  | .select _ readFds writeFds errorFds _ _ => readFds ∪ writeFds ∪ errorFds
  | .socket _ _ _ | .gethostbyname _ _ | .alloc _ _ | .free _ => ∅

/-- A call a licence covers names descriptors the licence owns. -/
theorem Licence.Allows.owns {l : Licence} {e : Event} {fd : Int} (h : l.Allows e)
    (hfd : fd ∈ e.fds) : l.owns fd := by
  cases e with
  | socket | gethostbyname | alloc | free => cases hfd
  | lseek | read => exact h.elim
  | select => exact h fd hfd
  | listen | accept | connect | send | recv | sendto | recvfrom | writev =>
    obtain rfl : fd = _ := Finset.mem_singleton.mp hfd
    exact h.1
  | _ =>
    obtain rfl : fd = _ := Finset.mem_singleton.mp hfd
    exact h

/-- The number is no descriptor at all, or the one that was opened for the object and that nobody
else holds. -/
def System.Own (s : System) (i : ℕ) (fd : Int) : Prop :=
  fd = -1 ∨ s.owner fd = some i ∧ ∀ j, s.held j = some fd → j = i

/-- What a live object takes for its descriptor is its own. -/
theorem Orderly.own {s : System} (hs : Orderly s) {i : ℕ} {ob : Object}
    (live : s.objects i = some ob) (hclean : ob.closeFailed = false) {fd : Int}
    (hfd : fd = ob.self.m_socket ∨ fd = -1) : s.Own i fd := by
  rcases hfd with rfl | rfl
  · by_cases hv : ob.self.m_socket = -1
    · exact Or.inl hv
    have hheld : s.held i = some ob.self.m_socket :=
      (System.held_of_live live).trans (Object.held_eq_some.mpr ⟨hclean, hv, rfl⟩)
    have howner := (hs.matched i _).mp hheld
    refine Or.inr ⟨howner, fun j hj => ?_⟩
    have hother := (hs.matched j _).mp hj
    exact Option.some.inj (hother.symm.trans howner)
  · exact Or.inl rfl

/-- **Objects keep to themselves.** In a program that copies no object and neither forgets a descriptor
nor closes one again, every call made for an object, by an operation or by its destructor, names
descriptors of its own and no others, `select` in its sets too; only what `SendFile` is handed may be
another's. -/
theorem calls_isolated {steps : List (Taken System Move)} {s : System}
    (h : Run Step .empty steps s)
    (hgood : ∀ x ∈ steps, ¬ Forgets x.pre x.label ∧ ¬ Recloses x.pre x.label)
    {i : ℕ} {ob : Object} (live : s.objects i = some ob) (hclean : ob.closeFailed = false) :
    (∀ (op : Op) (os : Os), ∀ e ∈ (call (op.run ob.cls) ob.self os).state.trace,
      ∀ fd ∈ e.fds, op.Handed e ∨ s.Own i fd) ∧
    ∀ os, ∀ e ∈ (call (destroy ob.cls) ob.self os).state.trace,
      ∀ fd ∈ e.fds, s.Own i fd := by
  have horderly : Orderly s :=
    ((h.and (P := fun s m _ => ¬ Forgets s m ∧ ¬ Recloses s m) hgood).invariant Orderly
      (fun _ _ _ => True) (fun _ _ _ hstep hs =>
        ⟨hstep.1.orderly hs hstep.2.1 hstep.2.2, trivial⟩) orderly_empty).1
  have hproper := allProper_of_run h i ob live
  refine ⟨fun op os e he fd hfd => ?_, fun os e he fd hfd => ?_⟩
  · rcases licensed_call hproper os e he with hallows | hhanded
    · exact Or.inr (horderly.own live hclean (hallows.owns hfd))
    · exact Or.inl hhanded
  · obtain ⟨-, calls, htrace, hall, -⟩ := (conduct_destroy
      (l := .of ob.self.m_nSocketType ob.self.m_socket) ob.cls).state ⟨ob.self, os, []⟩ hproper.held
    rw [call, htrace] at he
    exact horderly.own live hclean ((hall e he).owns hfd)

/-! A program that has constructed and initialized one object. -/

/-- Its steps. -/
def opening : List (Taken System Move) :=
  [⟨.empty, ⟨.construct 0 .active .socketTypeTcp, []⟩, withBorn .active⟩,
    ⟨withBorn .active, ⟨.call 0 .initializeSocket shortLifeOs 1, handles (opened .active).trace⟩,
      withOpened .active⟩]

/-- The second of them. -/
theorem step_opening : Step (withBorn .active)
    ⟨.call 0 .initializeSocket shortLifeOs 1, handles (opened .active).trace⟩
      (withOpened .active) :=
  @Step.call (withBorn .active) 0 1 (born .active) .initializeSocket shortLifeOs (.bool true)
    (opened .active) rfl rfl rfl rfl ⟨rfl, trivial⟩

/-- Its object shuts its own descriptor down. -/
theorem calls_isolated_opening :
    (3 : Int) ∈ (Event.shutdown 3 .both (.ok ())).fds ∧ (withOpened .active).Own 0 3 := by
  have live : (withOpened .active).objects 0 = some ((born .active).ran (opened .active)) := rfl
  have h := calls_isolated (s := withOpened .active) (i := 0)
    (.cons (.construct .zeroed rfl) (.cons step_opening (.nil _))) ?good live rfl
  case good =>
    simp only [List.forall_mem_cons, List.not_mem_nil, false_imp_iff, implies_true,
      and_true]
    refine ⟨⟨?_, ?_⟩, ?_, ?_⟩
    · rintro ⟨ob', hob, -⟩
      cases hob
    · rintro ⟨ob', hob, -⟩
      cases hob
    · rintro ⟨ob', hob, hv, -⟩
      cases hob
      exact hv rfl
    · rintro ⟨ob', hob, hfailed, -⟩
      cases hob
      cases hfailed
  have hnamed : (3 : Int) ∈ (Event.shutdown 3 .both (.ok ())).fds := Finset.mem_singleton_self 3
  exact ⟨hnamed, (h.1 (.shutdown .both) (.idle { shutdown := [.ok ()] }) _
    (List.mem_singleton_self _) 3 hnamed).resolve_left id⟩

/-- What a type of socket has to do with a call: streams connect, listen, accept, send and receive;
datagram sockets connect, send to and receive from. -/
def CSocketType.Permits (nType : CSocketType) : Event → Prop
  | .socket domain type _ => domain = nType.domain ∧ type = nType.code
  | .listen _ _ _ | .accept _ _ | .send _ _ _ => nType = .socketTypeTcp
  | .recv _ _ _ flags _ => nType = .socketTypeTcp ∧ flags = 0
  | .connect _ _ _ => nType = .socketTypeTcp ∨ nType = .socketTypeUdp
  | .sendto _ _ _ _ | .recvfrom _ _ _ => nType = .socketTypeUdp
  | .lseek _ _ _ | .read _ _ _ => False
  | _ => True

theorem Licence.Allows.permits {nType : CSocketType} {fd : Int} {e : Event}
    (h : (Licence.of nType fd).Allows e) : nType.Permits e := by
  cases e with
  | socket => exact h
  | listen | accept => exact h.2
  | send | sendto | recvfrom => exact h.2.1
  | recv => exact ⟨h.2.1, h.2.2.2⟩
  | connect => exact h.2
  | lseek | read => exact h
  | _ => trivial

/-- **An object is what it was made for**: as long as it is not destroyed it keeps its class and its
type, and whatever is called on it, the calls that come of it are those of its type. -/
theorem calls_of_type {steps more : List (Taken System Move)} {s t : System}
    (h : Run Step .empty steps s) {i : ℕ} {ob₀ : Object} (live : s.objects i = some ob₀)
    (hmore : Run Step s more t) (hkept : ∀ x ∈ more, ∀ os, x.label.act ≠ .destroy i os) :
    ∃ ob, t.objects i = some ob ∧ ob.cls = ob₀.cls ∧
      ob.self.m_nSocketType = ob₀.self.m_nSocketType ∧
        ∀ (op : Op) (os : Os), ∀ e ∈ (call (op.run ob.cls) ob.self os).state.trace,
          ob₀.self.m_nSocketType.Permits e ∨ op.Handed e := by
  -- the object lives on through every step, and keeps its kind
  have hlives : AllProper t ∧ ∃ ob, t.objects i = some ob ∧ ob.cls = ob₀.cls ∧
      ob.self.m_nSocketType = ob₀.self.m_nSocketType := by
    refine ((hmore.and (P := fun _ m _ => ∀ os, m.act ≠ .destroy i os) hkept).invariant
      (fun t => AllProper t ∧ ∃ ob, t.objects i = some ob ∧ ob.cls = ob₀.cls ∧
        ob.self.m_nSocketType = ob₀.self.m_nSocketType) (fun _ _ _ => True)
        (fun u m u' hstep hu => ⟨?_, trivial⟩) ⟨allProper_of_run h, ob₀, live, rfl, rfl⟩).1
    obtain ⟨hproper, ob, hob, hcls, htype⟩ := hu
    obtain ⟨hproper', hkinds⟩ := hstep.1.proper hproper
    obtain ⟨ob', hob'⟩ := hstep.1.survives hob hstep.2
    obtain ⟨hcls', htype'⟩ := hkinds i ob ob' hob hob'
    exact ⟨hproper', ob', hob', hcls'.trans hcls, htype'.trans htype⟩
  obtain ⟨hproper, ob, hob, hcls, htype⟩ := hlives
  refine ⟨ob, hob, hcls, htype, fun op os e he => ?_⟩
  refine (licensed_call (hproper i ob hob) os e he).imp_left fun hallows => ?_
  rw [← htype]
  exact hallows.permits

/-- The object of the program above is a stream. -/
theorem calls_of_type_opening : ∃ ob, (withOpened .active).objects 0 = some ob ∧
    ob.cls = .active ∧ ob.self.m_nSocketType = .socketTypeTcp ∧
      ∀ (op : Op) (os : Os), ∀ e ∈ (call (op.run ob.cls) ob.self os).state.trace,
        CSocketType.socketTypeTcp.Permits e ∨ op.Handed e :=
  have live : (withBorn .active).objects 0 = some (born .active) := rfl
  calls_of_type (.cons (.construct .zeroed rfl) (.nil _)) live (.cons step_opening (.nil _)) (by simp)

/-! ### What objects report -/

/-- An object of some program has this code. -/
def Seen (c : CSocketError) : Prop :=
  ∃ steps s i ob, Run Step .empty steps s ∧ s.objects i = some ob ∧ ob.self.m_socketErrno = c

/-- What a further call leaves behind is seen. -/
theorem seen_of_call {steps : List (Taken System Move)} {s : System} {op : Op} {os : Os} {ret : Ret}
    {t : State} (ob : Object) (h : Run Step .empty steps s) (live : s.objects 0 = some ob)
    (dead : s.objects 1 = none) (has : op.ofClass ob.cls = true)
    (hrun : call (op.run ob.cls) ob.self os = .done ret t)
    (legal : (kernel 0 1).Accepts s.owner (handles t.trace)) : Seen t.self.m_socketErrno := by
  refine ⟨_, s.ran 0 1 ob ret.client t, 0, ob.ran t,
    h.append (.cons (.call live dead has hrun legal) (.nil _)), ?_, rfl⟩
  unfold System.ran
  simp

/-- The translation of every error number is seen: `socket` fails with it. -/
theorem seen_translateErrno (e : Errno) : Seen (translateErrno e.1) := by
  have hrun : ∃ ret t, call (Op.initializeSocket.run .active) (born .active).self
      (.idle { socket := [.fail e] }) = .done ret t ∧ handles t.trace = [.socket 2 1 (.fail e)] ∧
        t.self.m_socketErrno = translateErrno e.1 := ⟨_, _, rfl, rfl, rfl⟩
  obtain ⟨ret, t, hrun, hhandles, hcode⟩ := hrun
  rw [← hcode]
  have live : (withBorn .active).objects 0 = some (born .active) := rfl
  exact seen_of_call (born .active) (.cons (.construct .zeroed rfl) (.nil _)) live rfl rfl hrun
    (by rw [hhandles]; exact ⟨trivial, trivial⟩)

/-- **What `DescribeError` can tell of an object** in the programs that copy none: the text of every code
but `SocketError` and `SocketInvalidPointer`. -/
theorem described_iff (c : CSocketError) :
    (∃ steps s i ob, Run Step .empty steps s ∧ s.objects i = some ob ∧
      describeError ob.self.m_socketErrno = describeError c) ↔
    c ≠ .socketError ∧ c ≠ .socketInvalidPointer := by
  simp only [describeError_inj]
  refine ⟨?_, fun hc => ?_⟩
  · rintro ⟨steps, s, i, ob, h, live, rfl⟩
    have hcode := (allProper_of_run h i ob live).code
    constructor
    · rintro heq
      rw [heq] at hcode
      cases hcode
    · rintro heq
      rw [heq] at hcode
      cases hcode
  have hseen : ∀ {e : Int} (he : e ≠ 0), Seen (translateErrno e) := fun he => seen_translateErrno ⟨_, he⟩
  have hopening : Run Step .empty opening (withOpened .active) :=
    .cons (.construct .zeroed rfl) (.cons step_opening (.nil _))
  have hopen : ∀ addr port, (∃ ret t, call ((Op.openSocket addr port).run .active)
      (opened .active).self (.idle {}) = .done ret t ∧ handles t.trace = [] ∧
        t.self.m_socketErrno = c) → Seen c := by
    rintro addr port ⟨ret, t, hrun, hhandles, rfl⟩
    exact seen_of_call ((born .active).ran (opened .active)) hopening rfl rfl rfl hrun
      (by rw [hhandles]; trivial)
  cases c with
  | socketError => exact absurd rfl hc.1
  | socketInvalidPointer => exact absurd rfl hc.2
  -- `Initialize` succeeded
  | socketSuccess => exact ⟨_, _, 0, _, hopening, rfl, rfl⟩
  -- `Open` looks at its arguments first
  | socketInvalidAddress => exact hopen none 0 ⟨_, _, rfl, rfl, rfl⟩
  | socketInvalidPort => exact hopen (some "") 0 ⟨_, _, rfl, rfl, rfl⟩
  | socketInvalidSocket => exact hseen (e := EBADF) (by decide)
  | socketConnectionRefused => exact hseen (e := ECONNREFUSED) (by decide)
  | socketTimedout => exact hseen (e := ETIMEDOUT) (by decide)
  | socketEwouldblock => exact hseen (e := EWOULDBLOCK) (by decide)
  | socketNotconnected => exact hseen (e := ENOTCONN) (by decide)
  | socketEinprogress => exact hseen (e := EINPROGRESS) (by decide)
  | socketInterrupted => exact hseen (e := EINTR) (by decide)
  | socketConnectionAborted => exact hseen (e := ECONNABORTED) (by decide)
  | socketProtocolError => exact hseen (e := EPROTO) (by decide)
  | socketFirewallError => exact hseen (e := EPERM) (by decide)
  | socketInvalidSocketBuffer => exact hseen (e := EFAULT) (by decide)
  | socketConnectionReset => exact hseen (e := ECONNRESET) (by decide)
  | socketAddressInUse => exact hseen (e := EADDRINUSE) (by decide)
  | socketEunknown => exact hseen (e := 1000) (by decide)

end ClSocket
