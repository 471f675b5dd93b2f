import ClSocket.Framework.Transition
import ClSocket.Memory.Owned
import ClSocket.Transfer.Receiving

/-!
# The buffer over the life of an object

An object is constructed, goes through any of the operations of its class and is destroyed, and the
heap hands out blocks that were not in use before (`LifeStep`). In every state of such a run the object
has no buffer, or its buffer is the only live block it ever allocated and has the length the object
remembers; no block is freed twice, and none is left after the destructor (`WellKept`). A `Receive` into
the internal buffer that succeeds leaves there a block of the length asked for, and returns no more
(`ReceivesInto`). `buffer_wellKept` says that all runs are so.
-/

namespace ClSocket

open Prog CSimpleSocket Heap

/-! ### What `Receive` returns -/

/-- The last call delivered no more than was asked for, and nor do those ahead. -/
def InBounds (nMaxBytes : Int) (t : State) : Prop :=
  Bounded nMaxBytes t.os.script ∧ t.self.m_nBytesReceived ≤ nMaxBytes

def KeepsInBounds (nMaxBytes : Int) (s t : State) : Prop := InBounds nMaxBytes s → InBounds nMaxBytes t

instance (nMaxBytes : Int) : Std.Refl (KeepsInBounds nMaxBytes) := ⟨fun _ => id⟩

instance (nMaxBytes : Int) : IsTrans State (KeepsInBounds nMaxBytes) := ⟨fun _ _ _ h₁ h₂ => h₂ ∘ h₁⟩

theorem narrow_le {n : Int} (h : 0 ≤ n) : narrow n ≤ n := by
  dsimp only [narrow, Int.bmod]
  split <;> omega

section

variable {made : Trace} {nMaxBytes : Int} {s : State}

theorem inBounds_assign {f : CSimpleSocket → CSimpleSocket}
    (h : ∀ o, (f o).m_nBytesReceived = o.m_nBytesReceived) :
    Keeps (KeepsInBounds nMaxBytes) (assign f) := fun s hs => ⟨hs.1, (h s.self).trans_le hs.2⟩

theorem inBounds_deliver (pBuffer : Option Bytes) (offset : Int) (bs : Bytes) :
    Keeps (KeepsInBounds nMaxBytes) (deliver pBuffer offset bs) :=
  keeps_bind (keeps_ite (inBounds_assign fun _ => rfl) (keeps_pure _)) fun _ => keeps_pure _

/-- A call stores the count of an answer that is in bounds. -/
theorem narrow_count_le {α : Type} {size : α → ℕ} {res : Answer α} (hn : 0 ≤ nMaxBytes)
    (h : ∀ a, res = .ok a → (size a : Int) ≤ nMaxBytes) :
    narrow (res.count size).ret ≤ nMaxBytes := by
  cases res with
  | ok a => exact (narrow_le (Int.natCast_nonneg _)).trans (h a rfl)
  | fail e =>
    have hret : narrow ((Answer.fail e : Answer α).count size).ret = -1 := narrow_neg_one
    omega

/-- The rest of a round, after a call that stayed in bounds. -/
theorem inBounds_rest {α : Type} {x : M α} {t u : State} (hx : Keeps (KeepsInBounds nMaxBytes) x)
    (hcall : InBounds nMaxBytes t → InBounds nMaxBytes u) :
    wp x (fun _ v => KeepsInBounds nMaxBytes t v) (fun _ v => KeepsInBounds nMaxBytes t v) u :=
  wp_mono (fun _ _ h => h ∘ hcall) (fun _ _ h => h ∘ hcall) (hx u)

theorem inBounds_recvRound (hn : 0 ≤ nMaxBytes) (pBuffer : Option Bytes) :
    Keeps (KeepsInBounds nMaxBytes) (recvRound nMaxBytes pBuffer) := by
  intro t
  rw [recvRound, wp_bind, wp_this, wp_bind, sysRecv, wp_issue_iff]
  refine ⟨fun _ => id, fun res rest hq => ?_⟩
  have hfirst : InBounds nMaxBytes t → narrow (res.count List.length).ret ≤ nMaxBytes := fun hw =>
    narrow_count_le hn fun bs hbs => hw.1.recv bs (by simp [hq, hbs])
  rw [wp_bind, wp_assign]
  generalize narrow (res.count List.length).ret = n at hfirst
  refine inBounds_rest ?_ fun hw => ⟨⟨fun bs hbs => hw.1.recv bs ?_, hw.1.recvfrom⟩, hfirst hw⟩
  · cases res with
    | ok bs => exact inBounds_deliver _ _ _
    | fail _ => exact keeps_pure _
  -- the answers that are left were there before
  · rw [hq]
    exact List.mem_cons_of_mem _ hbs

theorem inBounds_recvfromRound (hn : 0 ≤ nMaxBytes) (pBuffer : Option Bytes) :
    Keeps (KeepsInBounds nMaxBytes) (recvfromRound nMaxBytes pBuffer) := by
  intro t
  rw [recvfromRound, wp_bind, wp_this, wp_bind, sysRecvfrom, wp_issue_iff]
  refine ⟨fun _ => id, fun res rest hq => ?_⟩
  have hfirst : InBounds nMaxBytes t → narrow (res.count fun d => d.1.length).ret ≤ nMaxBytes := fun hw =>
    narrow_count_le hn fun d hd => hw.1.recvfrom d (by simp [hq, hd])
  rw [wp_bind, wp_assign]
  generalize narrow (res.count fun d => d.1.length).ret = n at hfirst
  refine inBounds_rest ?_ fun hw => ⟨⟨hw.1.recv, fun d hd => hw.1.recvfrom d ?_⟩, hfirst hw⟩
  · cases res with
    | ok d =>
      refine keeps_bind (inBounds_assign fun o => ?_) fun _ => inBounds_deliver _ _ _
      split <;> rfl
    | fail _ => exact keeps_pure _
  · rw [hq]
    exact List.mem_cons_of_mem _ hd

theorem inBounds_receiveLoop (hn : 0 ≤ nMaxBytes) (pBuffer : Option Bytes) :
    Keeps (KeepsInBounds nMaxBytes) (receiveLoop nMaxBytes pBuffer) := by
  have htranslate : Keeps (KeepsInBounds nMaxBytes) translateSocketError := fun _ hs => hs
  exact keeps_bind keeps_this fun _ => keeps_bind keeps_script fun _ => keeps_ite
    (keeps_whileInterrupted (inBounds_recvRound hn) htranslate _ _)
    (keeps_ite (keeps_whileInterrupted (inBounds_recvfromRound hn) htranslate _ _) (keeps_pure _))

/-! ### `Receive` and the destructor -/

theorem owned_receiveTimed (pBuffer : Option Bytes) :
    Keeps (KeepsOwned made) (receiveTimed nMaxBytes pBuffer) :=
  keeps_bind (owned_of_unmoved (frame_setSocketError spared_shape _)) fun _ =>
    keeps_bind (owned_of_unmoved (frame_timerInitialize spared_shape)) fun _ =>
      keeps_bind (owned_of_unmoved (frame_setStartTime spared_shape)) fun _ =>
        keeps_bind (owned_of_unmoved (frame_receiveLoop spared_shape_receive _ _)) fun _ =>
          keeps_bind (owned_of_unmoved (frame_setEndTime spared_shape)) fun _ =>
            keeps_bind (owned_of_unmoved (frame_translateSocketError spared_shape)) fun _ =>
              keeps_bind keeps_this fun _ =>
                keeps_bind (keeps_ite owned_deleteBuffer (keeps_pure _)) fun _ => keeps_pure _

/-- The object has a buffer of the length that was asked for. -/
def Holding (nMaxBytes : Int) (o : CSimpleSocket) : Prop :=
  ∃ b, o.m_pBuffer = some b ∧ (b.data.length : Int) = nMaxBytes

theorem Filled.holding (h : Filled made nMaxBytes s) : Holding nMaxBytes s.self := by
  obtain ⟨b, hb⟩ := Option.ne_none_iff_exists'.mp h.buffer
  exact ⟨b, hb, (h.owns.sized b hb).trans h.size⟩

theorem holding_of_shape {a b : CSimpleSocket} (h : a.shape = b.shape) (hb : Holding nMaxBytes b) :
    Holding nMaxBytes a := by
  obtain ⟨y, hy, hlength⟩ := hb
  simp only [shape, Prod.mk.injEq, hy, Option.map_some, Option.map_eq_some_iff] at h
  obtain ⟨⟨x, hx, -, hsame⟩, -⟩ := h
  exact ⟨x, hx, hsame ▸ hlength⟩

theorem wp_receiveLoop_holding (hn : 0 ≤ nMaxBytes) (hs : Holding nMaxBytes s.self) :
    wp (receiveLoop nMaxBytes none)
      (fun _ t => Holding nMaxBytes t.self ∧ (InBounds nMaxBytes s → InBounds nMaxBytes t))
      (fun _ _ => True) s := by
  refine wp_and (wp_mono (fun _ t h => ?_) (fun _ _ _ => trivial)
    (frame_receiveLoop spared_shape_receive nMaxBytes none s)) (wp_mono (fun _ _ h => h)
      (fun _ _ _ => trivial) (inBounds_receiveLoop hn none s))
  exact holding_of_shape h.1 hs

/-- A `Receive` that succeeds leaves the buffer, and returns no more than its length. -/
theorem wp_receiveTimed_holding (hn : 0 ≤ nMaxBytes) (hs : Holding nMaxBytes s.self) :
    wp (receiveTimed nMaxBytes none) (fun r t => 0 ≤ r.1 →
      Holding nMaxBytes t.self ∧ (InBounds nMaxBytes s → r.1 ≤ nMaxBytes)) (fun _ _ => True) s := by
  simp only [receiveTimed, wp_bind, wp_setSocketError, wp_timerInitialize, wp_setStartTime,
    wp_setEndTime, wp_translateSocketError, wp_this, wp_when, wp_deleteBuffer, wp_pure]
  refine wp_mono (fun out u h => ⟨fun hfail hr => ?_, fun _ _ => ⟨h.1, fun hw => (h.2 hw).2⟩⟩)
    (fun _ _ _ => trivial) (wp_receiveLoop_holding hn hs)
  rw [hfail] at hr
  exact absurd hr (by decide)

/-- **`Receive`** keeps the ownership, and into the internal buffer of a valid socket it receives as it
should. -/
theorem wp_receive_owned (nMaxBytes : Int) (pBuffer : Option Bytes) (hs : Owns made s)
    (hfresh : s.os.nextAlloc ∉ (heapAfter (made ++ s.trace)).used) :
    wp (receive nMaxBytes pBuffer) (fun r t => Owns made t ∧
      (pBuffer = none → s.self.isSocketValid = true → 0 ≤ r.1 →
        Holding nMaxBytes t.self ∧ (Bounded nMaxBytes s.os.script → r.1 ≤ nMaxBytes)))
      (fun _ _ => True) s := by
  have howned : ∀ {t : State} (pBuffer : Option Bytes), Owns made t →
      wp (receiveTimed nMaxBytes pBuffer) (fun _ u => Owns made u) (fun _ _ => True) t := fun pBuffer ht =>
    wp_mono (fun _ _ h => h ht) (fun _ _ _ => trivial) (owned_receiveTimed pBuffer _)
  have hcleared : Owns made (s.upd fun o => { o with m_nBytesReceived := 0 }) :=
    ⟨hs.accepts, hs.sole, hs.sized⟩
  rw [wp_receive_iff]
  -- an invalid socket, the internal buffer, and the caller's
  refine ⟨fun hinvalid => ⟨hcleared, fun _ hvalid => ?_⟩, fun _ => ⟨fun hnone => ?_, fun hsome => ?_⟩⟩
  · rw [hinvalid] at hvalid
    cases hvalid
  · subst hnone
    refine wp_mono (fun _ t h => ?_) (fun _ _ h => h) (wp_provideBuffer_filled nMaxBytes hcleared hfresh)
    obtain ⟨hfilled, hscript, hcount⟩ := h
    have hw : Bounded nMaxBytes s.os.script → InBounds nMaxBytes t := fun hbounded =>
      ⟨hscript ▸ hbounded, hcount.trans_le hfilled.nonneg⟩
    refine wp_mono (fun r u h => ⟨h.1, fun _ _ hr => ?_⟩) (fun _ _ h => h)
      (wp_and (howned none hfilled.owns) (wp_receiveTimed_holding hfilled.nonneg hfilled.holding))
    obtain ⟨hholding, hle⟩ := h.2 hr
    exact ⟨hholding, hle ∘ hw⟩
  · exact wp_mono (fun _ _ h => ⟨h, fun hnone => absurd hnone hsome⟩) (fun _ _ h => h)
      (howned pBuffer hcleared)

/-- The destructor frees the buffer. -/
theorem wp_destroy_owned (cls : SocketClass) (hs : Owns made s) :
    wp (destroy cls) (fun _ t => Owns made t ∧ t.self.m_pBuffer = none) (fun _ _ => True) s := by
  have hclose : Keeps (KeepsOwned made) (do let _ ← closeSocket) :=
    keeps_bind owned_closeSocket fun _ => keeps_pure _
  rw [destroy, wp_bind]
  refine wp_mono (fun _ t h => ?_) (fun _ _ _ => trivial) ((keeps_ite hclose (keeps_pure _)) s)
  exact ⟨owned_deleteBuffer t (h hs), rfl⟩

end

/-! ### Runs -/

/-- An object, or nothing after the destructor, and all calls made so far. -/
structure Life where
  self : Option CSimpleSocket
  made : Trace

/-- What is done with an object. -/
inductive Deed where
  | called (op : Op) (os : Os) (ret : Ret)
  | destroyed (os : Os)

/-- An operation of the class returns, or the destructor does. A new block is one that was never
allocated. -/
inductive LifeStep (cls : SocketClass) : Life → Deed → Life → Prop where
  | called {o : CSimpleSocket} {made : Trace} {op : Op} {os : Os} {ret : Ret} {t : State}
      (has : op.ofClass cls = true) (fresh : allocs os.nextAlloc (heapCalls made) = 0)
      (hrun : call (op.run cls) o os = .done ret t) :
      LifeStep cls ⟨some o, made⟩ (.called op os ret) ⟨some t.self, made ++ t.trace⟩
  | destroyed {o : CSimpleSocket} {made : Trace} {os : Os} {t : State}
      (hrun : call (destroy cls) o os = .done () t) :
      LifeStep cls ⟨some o, made⟩ (.destroyed os) ⟨none, made ++ t.trace⟩

/-- A new object. -/
def Life.new (raw : CSimpleSocket) (nType : CSocketType) : Life := ⟨some (.construct raw nType), []⟩

/-- **The law of the buffer**, in a state. -/
structure WellKept (s : Life) : Prop where
  /-- A buffer has the length that is remembered. -/
  sized : ∀ o b, s.self = some o → o.m_pBuffer = some b → (b.data.length : Int) = o.m_nBufferSize
  /-- It is the only live block. -/
  only : ∀ id n, (heapAfter s.made).live id = some n ↔
    ∃ o b, s.self = some o ∧ o.m_pBuffer = some b ∧ b.id = id ∧ o.m_nBufferSize = n
  /-- What is freed is live. -/
  accepts : HeapAccepts s.made
  once : ∀ id, allocs id (heapCalls s.made) ≤ 1 ∧
    frees id (heapCalls s.made) ≤ allocs id (heapCalls s.made)
  /-- After the destructor all has been freed. -/
  gone : s.self = none → ∀ id, frees id (heapCalls s.made) = allocs id (heapCalls s.made)

/-- A `Receive` into the internal buffer of a valid socket leaves a buffer of the length asked for if it
succeeds, and returns no more as long as the system delivers no more. -/
def ReceivesInto (s : Life) (deed : Deed) (s' : Life) : Prop :=
  ∀ nMaxBytes os r out o, deed = .called (.receive nMaxBytes none) os (.received r out) →
    s.self = some o → o.isSocketValid = true → 0 ≤ r →
      ∃ o', s'.self = some o' ∧ Holding nMaxBytes o' ∧ (Bounded nMaxBytes os.script → r ≤ nMaxBytes)

/-- The invariant behind it. -/
structure Housed (s : Life) : Prop where
  accepts : HeapAccepts s.made
  sole : Sole (heapAfter s.made) (s.self.bind CSimpleSocket.block)
  sized : ∀ o, s.self = some o → BufferOk o

section

variable {cls : SocketClass} {made : Trace} {o : CSimpleSocket} {os : Os} {t : State} {s s' : Life}

theorem Housed.owns (h : Housed ⟨some o, made⟩) : Owns made ⟨o, os, []⟩ := by
  refine ⟨?_, ?_, h.sized o rfl⟩
  · rw [List.append_nil]
    exact h.accepts
  · rw [List.append_nil]
    exact h.sole

theorem Owns.housed (h : Owns made t) : Housed ⟨some t.self, made ++ t.trace⟩ :=
  ⟨h.accepts, h.sole, fun _ ho => Option.some.inj ho ▸ h.sized⟩

theorem Housed.wellKept (h : Housed s) : WellKept s where
  sized o b ho hb := h.sized o ho b hb
  only id n := by
    rw [h.sole id n, Option.bind_eq_some_iff]
    simp only [block, Option.map_eq_some_iff, Prod.mk.injEq, exists_and_left]
  accepts := h.accepts
  once id := ⟨allocs_le_one h.accepts id, frees_le_allocs h.accepts id⟩
  gone hnone id := by
    have hsole := h.sole
    rw [hnone, Option.bind_none] at hsole
    exact frees_eq_allocs h.accepts (hsole.live_eq_none id)

/-- **One operation.** -/
theorem owned_of_call {op : Op} {ret : Ret} (hs : Owns made ⟨o, os, []⟩)
    (hfresh : os.nextAlloc ∉ (heapAfter made).used)
    (hrun : call (op.run cls) o os = .done ret t) : Owns made t := by
  by_cases hq : op.isQuiet = true
  · exact wp_call (owned_of_unmoved (unmoved_of_quiet (quiet_run cls hq)) ⟨o, os, []⟩) hrun hs
  cases op with
  | initializeSocket =>
    obtain ⟨r, hr, rfl⟩ := call_done hrun
    exact wp_call (owned_of_unmoved unmoved_initializeSocket _) hr hs
  | close =>
    obtain ⟨r, hr, rfl⟩ := call_done hrun
    exact wp_call (owned_closeSocket _) hr hs
  -- a new block is one the process has not had before
  | receive n buf =>
    obtain ⟨r, hr, rfl⟩ := call_done hrun
    have hfresh' : os.nextAlloc ∉ (heapAfter (made ++ [])).used := by rwa [List.append_nil]
    exact (wp_call (wp_receive_owned n buf hs hfresh') hr).1
  | openSocket addr port =>
    obtain ⟨r, hr, rfl⟩ := call_done hrun
    exact wp_call (owned_of_unmoved (frame_openSocket spared_shape_open addr port) _) hr hs
  | listen addr port backlog =>
    obtain ⟨r, hr, rfl⟩ := call_done hrun
    exact wp_call (owned_listen addr port backlog _) hr hs
  | bindMulticast iface group port =>
    obtain ⟨r, hr, rfl⟩ := call_done hrun
    exact wp_call (owned_bindMulticast iface group port _) hr hs
  -- the listener keeps its block, and the new object has none
  | accept raw =>
    obtain ⟨r, hr, rfl⟩ := call_done hrun
    exact (wp_call (unmoved_accept raw _) hr).owned hs
  | _ => exact absurd rfl hq

theorem housed_step {deed : Deed} (h : LifeStep cls s deed s') (hs : Housed s) :
    Housed s' ∧ ReceivesInto s deed s' := by
  cases h with
  | @called o made op os ret t has fresh hrun =>
    have howns : Owns made ⟨o, os, []⟩ := hs.owns
    have hfresh : os.nextAlloc ∉ (heapAfter made).used := notMem_used hs.accepts fresh
    refine ⟨(owned_of_call howns hfresh hrun).housed, ?_⟩
    intro n os' r out o' hdeed ho hvalid hr
    cases hdeed
    cases ho
    obtain ⟨x, hx, heq⟩ := call_done hrun
    cases heq
    have hfresh' : os.nextAlloc ∉ (heapAfter (made ++ [])).used := by rwa [List.append_nil]
    obtain ⟨hholding, hcount⟩ :=
      (wp_call (wp_receive_owned _ none howns hfresh') hx).2 rfl hvalid hr
    exact ⟨t.self, rfl, hholding, hcount⟩
  -- the object is gone, and with it what was in use
  | @destroyed o made os t hrun =>
    have howns : Owns made ⟨o, os, []⟩ := hs.owns
    obtain ⟨hdone, hnone⟩ := wp_call (wp_destroy_owned cls howns) hrun
    refine ⟨⟨hdone.accepts, ?_, fun _ ho => by cases ho⟩, fun n os' r out o' hdeed => by cases hdeed⟩
    have hsole := hdone.sole
    rw [block, hnone] at hsole
    exact hsole

theorem housed_new (raw : CSimpleSocket) (nType : CSocketType) : Housed (.new raw nType) :=
  ⟨trivial, sole_empty, fun _ ho _ hb => by cases ho; cases hb⟩

end

/-- **The buffer is well kept** in every run. -/
theorem buffer_wellKept {cls : SocketClass} {raw : CSimpleSocket} {nType : CSocketType}
    {steps : List (Taken Life Deed)} {t : Life}
    (h : Run (LifeStep cls) (.new raw nType) steps t) :
    WellKept t ∧ ∀ x ∈ steps, ReceivesInto x.pre x.label x.post := by
  obtain ⟨ht, hall⟩ := h.invariant Housed ReceivesInto (fun _ _ _ hstep hs => housed_step hstep hs)
    (housed_new raw nType)
  exact ⟨ht.wellKept, hall⟩

/-- A process in which two bytes arrive, and blocks are handed out from `id` on. -/
def Os.handing (id : ℕ) : Os :=
  { Os.idle { socket := [.ok 3], recv := [.ok [1, 2]], close := [.ok ()] } with nextAlloc := id }

/-- An object that is initialized, receives into a buffer of two bytes and is destroyed has had one block
and freed it. -/
theorem buffer_wellKept_once : ∃ steps t,
    Run (LifeStep .active) (.new .zeroed .socketTypeTcp) steps t ∧ t.self = none ∧
      heapCalls t.made = [.alloc 0 2, .free 0] ∧
      WellKept t ∧ ∀ x ∈ steps, ReceivesInto x.pre x.label x.post := by
  have hsteps : ∃ s, LifeStep .active (.new .zeroed .socketTypeTcp)
      (.called .initializeSocket (.handing 0) (.bool true)) s ∧
      ∃ s', LifeStep .active s (.called (.receive 2 none) (.handing 0) (.received 2 none)) s' ∧
        ∃ t, LifeStep .active s' (.destroyed (.handing 1)) t ∧ t.self = none ∧
          heapCalls t.made = [.alloc 0 2, .free 0] :=
    ⟨_, .called rfl rfl rfl, _, .called rfl rfl rfl, _, .destroyed rfl, rfl, rfl⟩
  obtain ⟨s, hinit, s', hreceive, t, hdestroy, hgone, hcalls⟩ := hsteps
  have hrun := Run.cons hinit (.cons hreceive (.cons hdestroy (.nil t)))
  exact ⟨_, t, hrun, hgone, hcalls, buffer_wellKept hrun⟩

end ClSocket
