import ClSocket.Framework.Heap
import ClSocket.Descriptor.Effect

/-!
# The buffer as a block of the heap

Of all blocks an object has allocated, its buffer is the only one that is live, and it has the size the
object remembers (`Owns`). Most methods neither allocate nor free, and leave the block where it is
(`Unmoved`); what remains is freeing the buffer, in `Close` and after a failed `Receive`, and the one
allocation there is, in `Receive`.
-/

namespace ClSocket

open Prog CSimpleSocket Heap

/-- An event as a call on the heap. -/
def Event.heapCall? : Event → Option (HeapCall ℕ Int)
  | .alloc id size => some (.alloc id size)
  | .free id => some (.free id)
  | _ => none

/-- The calls of a trace on the heap. -/
def heapCalls (t : Trace) : List (HeapCall ℕ Int) := t.filterMap Event.heapCall?

def Event.isHeap (e : Event) : Bool := e.heapCall?.isSome

@[simp] theorem heapCalls_append (t u : Trace) : heapCalls (t ++ u) = heapCalls t ++ heapCalls u :=
  List.filterMap_append

/-- They are read off the heap events alone. -/
theorem heapCalls_of_heap {t u : Trace} (h : t.filter Event.isHeap = u.filter Event.isHeap) :
    heapCalls t = heapCalls u := by
  have hsub : ∀ v : Trace, heapCalls v = heapCalls (v.filter Event.isHeap) := by
    intro v
    unfold heapCalls
    rw [List.filterMap_filter]
    refine List.filterMap_congr fun e _ => ?_
    cases he : e.heapCall? <;> simp [Event.isHeap, he]
  rw [hsub t, hsub u, h]

/-- The heap after a trace. -/
def heapAfter (t : Trace) : Heap ℕ Int := rules.after empty (heapCalls t)

/-- The heap accepts the trace. -/
def HeapAccepts (t : Trace) : Prop := rules.Accepts empty (heapCalls t)

/-- The buffer of an object as a block. -/
def CSimpleSocket.block (o : CSimpleSocket) : Option (ℕ × Int) :=
  o.m_pBuffer.map fun b => (b.id, o.m_nBufferSize)

/-- **Ownership**: the buffer is the only live block of all that were ever allocated, and it has the
size the object remembers. `made` are the calls before those of the trace. -/
structure Owns (made : Trace) (s : State) : Prop where
  accepts : HeapAccepts (made ++ s.trace)
  sole : Sole (heapAfter (made ++ s.trace)) s.self.block
  sized : BufferOk s.self

/-- Ownership is kept. -/
def KeepsOwned (made : Trace) (s t : State) : Prop := Owns made s → Owns made t

instance (made : Trace) : Std.Refl (KeepsOwned made) := ⟨fun _ => id⟩

instance (made : Trace) : IsTrans State (KeepsOwned made) := ⟨fun _ _ _ h₁ h₂ => h₂ ∘ h₁⟩

/-- The buffer's identity, its length and the size that is remembered. -/
def CSimpleSocket.shape (o : CSimpleSocket) : Option (ℕ × ℕ) × Int :=
  (o.m_pBuffer.map fun b => (b.id, b.data.length), o.m_nBufferSize)

/-- The block is where it was, and neither allocated nor freed. -/
abbrev Unmoved : State → State → Prop := Frame CSimpleSocket.shape Event.isHeap

theorem shape_of_core {a b : CSimpleSocket} (h : a.core = b.core) : a.shape = b.shape := by
  simp only [core, Prod.mk.injEq] at h
  rw [shape, shape, h.2.2.1, h.2.2.2.1]

theorem block_of_shape {a b : CSimpleSocket} (h : a.shape = b.shape) : a.block = b.block := by
  have hblock : ∀ o : CSimpleSocket, o.block = o.shape.1.map fun x => (x.1, o.shape.2) := by
    intro o
    rw [block, shape, Option.map_map]
    rfl
  rw [hblock, hblock, h]

theorem bufferOk_of_shape {a b : CSimpleSocket} (h : a.shape = b.shape) (hb : BufferOk b) :
    BufferOk a := by
  simp only [shape, Prod.mk.injEq] at h
  obtain ⟨hbuffer, hsize⟩ := h
  intro x hx
  rw [hx, Option.map_some, eq_comm, Option.map_eq_some_iff] at hbuffer
  obtain ⟨y, hy, hxy⟩ := hbuffer
  rw [hsize, ← hb y hy, ← (Prod.mk.inj hxy).2]

section

variable {made : Trace} {s t : State}

theorem Unmoved.owned (h : Unmoved s t) : KeepsOwned made s t := by
  obtain ⟨hshape, hheap⟩ := h
  have hcalls : heapCalls (made ++ t.trace) = heapCalls (made ++ s.trace) := by
    rw [heapCalls_append, heapCalls_append, heapCalls_of_heap hheap]
  rintro ⟨haccepts, hsole, hsized⟩
  constructor
  · rwa [HeapAccepts, hcalls]
  · rwa [heapAfter, hcalls, block_of_shape hshape]
  · exact bufferOk_of_shape hshape hsized

theorem owned_of_unmoved {α : Type} {x : M α} (h : Keeps Unmoved x) : Keeps (KeepsOwned made) x :=
  fun s => wp_mono (fun _ _ h => h.owned) (fun _ _ h => h.owned) (h s)

/-! ### What does not move it -/

theorem isHeap_of_not_loud (e : Event) (h : e.isLoud = false) : e.isHeap = false := by
  cases e <;> first | rfl | cases h

theorem spared_shape : Spared CSimpleSocket.shape Event.isHeap :=
  spared_core.coarser (fun _ _ => shape_of_core) isHeap_of_not_loud

theorem spared_shape_open : SparedByOpen CSimpleSocket.shape Event.isHeap where
  toSpared := spared_shape
  server _ _ := rfl
  client _ _ := rfl
  gethostbyname _ _ := rfl
  connect _ _ _ := rfl
  getpeername _ _ := rfl
  getsockname _ _ := rfl

theorem spared_shape_receive : SparedByReceive CSimpleSocket.shape Event.isHeap where
  toSpared := spared_shape
  bytesReceived _ _ := rfl
  client _ _ := rfl
  multicastGroup _ _ := rfl
  written o off bs := by
    simp only [shape, Option.map_map, Prod.mk.injEq, and_true]
    refine Option.map_congr fun b _ => ?_
    simp [writeAt]
  recv _ _ _ _ _ := rfl
  recvfrom _ _ _ := rfl

theorem Quiet.unmoved {s t : State} (h : Quiet s t) : Unmoved s t :=
  Frame.coarser h (fun _ _ => shape_of_core) isHeap_of_not_loud

theorem unmoved_of_quiet {α : Type} {x : M α} (h : Keeps Quiet x) : Keeps Unmoved x := fun s =>
  wp_mono (fun _ _ h => h.unmoved) (fun _ _ h => h.unmoved) (h s)

theorem unmoved_initializeSocket : Keeps Unmoved initializeSocket := by
  refine keeps_bind (fun s => ⟨rfl, rfl⟩) fun _ =>
    keeps_bind (frame_timerInitialize spared_shape) fun _ =>
      keeps_bind (frame_setStartTime spared_shape) fun _ => keeps_bind keeps_this fun _ =>
        keeps_bind (frame_issue fun _ => rfl) fun _ => keeps_bind (frame_assign fun _ => rfl) fun _ =>
          keeps_bind (frame_setEndTime spared_shape) fun _ =>
            keeps_bind (frame_translateSocketError spared_shape) fun _ =>
              keeps_bind keeps_this fun _ => keeps_pure _

theorem unmoved_closeHandle : Keeps Unmoved closeHandle := by
  refine keeps_bind keeps_this fun _ => keeps_bind (frame_issue fun _ => rfl) fun res => ?_
  cases res with
  | ok _ => exact keeps_bind (frame_assign fun _ => rfl) fun _ => keeps_pure _
  | fail _ => exact keeps_pure _

theorem unmoved_bindAndListen (nConnectionBacklog : Int) :
    Keeps Unmoved (CPassiveSocket.bindAndListen nConnectionBacklog) :=
  frame_bindAndListen (fun _ _ _ => rfl) (fun _ _ _ => rfl) nConnectionBacklog

theorem unmoved_bindAndJoin (pGroup : String) :
    Keeps Unmoved (CPassiveSocket.bindAndJoin pGroup) :=
  frame_bindAndJoin spared_shape (fun _ _ _ => rfl) pGroup

/-- `Accept` has to do with the new object only. -/
theorem unmoved_accept (raw : CSimpleSocket) (s : State) :
    wp (CPassiveSocket.accept raw) (fun _ t => Unmoved s t) (fun _ _ => True) s := by
  -- the calls of `Accept` are not on the heap
  have hrejected : ∀ fd fails, (CPassiveSocket.rejections fd fails).filter Event.isHeap = [] := by
    intro fd fails
    rw [List.filter_eq_nil_iff]
    rintro _ he
    obtain ⟨e, -, rfl⟩ := List.mem_map.mp he
    exact Bool.false_ne_true
  refine wp_mono (fun r t h => ?_) (fun _ _ h => h) (CPassiveSocket.wp_accept raw s)
  obtain ⟨hl, fails, h⟩ := h
  refine ⟨by rw [shape, shape, hl.buffer, hl.bufferSize], ?_⟩
  cases r with
  | none =>
    obtain ⟨-, ht⟩ := h
    rw [ht, List.filter_append, hrejected, List.append_nil]
  | some client =>
    obtain ⟨fd, peer, name', name, -, ht⟩ := h
    rw [ht, List.filter_append, List.filter_append, hrejected, List.append_nil]
    exact List.append_nil _

/-! ### Freeing it -/

theorem owned_deleteBuffer : Keeps (KeepsOwned made) deleteBuffer := by
  rintro s ⟨haccepts, hsole, hsized⟩
  cases hb : s.self.m_pBuffer with
  | none =>
    have htrace : (bufferDeleted s).trace = s.trace := by simp [bufferDeleted, hb]
    have hblock : s.self.block = none := by rw [block, hb, Option.map_none]
    rw [hblock] at hsole
    exact ⟨htrace ▸ haccepts, htrace ▸ hsole, fun _ h => by cases h⟩
  | some b =>
    have htrace : made ++ (bufferDeleted s).trace = made ++ s.trace ++ [.free b.id] := by
      simp [bufferDeleted, hb]
    have hblock : s.self.block = some (b.id, s.self.m_nBufferSize) := by
      rw [block, hb, Option.map_some]
    have hcalls : heapCalls (made ++ s.trace ++ [.free b.id]) =
        heapCalls (made ++ s.trace) ++ [.free b.id] := heapCalls_append _ _
    rw [hblock] at hsole
    -- the block that is freed is the live one
    obtain ⟨hok, hnone⟩ := Sole.free hsole
    refine ⟨?_, ?_, fun _ h => by cases h⟩
    · rw [HeapAccepts, htrace, hcalls, Monitor.accepts_concat]
      exact ⟨haccepts, hok⟩
    · rw [heapAfter, htrace, hcalls, Monitor.after_append]
      exact hnone

theorem owned_closeSocket : Keeps (KeepsOwned made) closeSocket :=
  keeps_bind owned_deleteBuffer fun _ => keeps_bind keeps_this fun _ =>
    keeps_bind (keeps_ite (owned_of_unmoved unmoved_closeHandle) (keeps_pure _)) fun _ =>
      keeps_bind (owned_of_unmoved (frame_translateSocketError spared_shape)) fun _ => keeps_pure _

theorem owned_listen (pAddr : Option String) (nPort : UInt16) (nConnectionBacklog : Int) :
    Keeps (KeepsOwned made) (CPassiveSocket.listen pAddr nPort nConnectionBacklog) := by
  have hoptions : Keeps Unmoved CPassiveSocket.listenOptions :=
    keeps_bind keeps_this fun _ => keeps_bind (frame_issue fun _ => rfl) fun _ =>
      keeps_bind (frame_issue fun _ => rfl) fun _ => keeps_pure _
  have hclose : Keeps (KeepsOwned made) CPassiveSocket.closeKeepingError :=
    keeps_bind keeps_this fun _ => keeps_bind owned_closeSocket fun _ =>
      owned_of_unmoved (frame_setSocketError spared_shape _)
  exact keeps_bind (owned_of_unmoved hoptions) fun _ =>
    keeps_bind (owned_of_unmoved (frame_bindAddress pAddr)) fun _ =>
      keeps_bind (owned_of_unmoved (frame_assign fun _ => rfl)) fun _ =>
        keeps_bind (owned_of_unmoved (frame_timerInitialize spared_shape)) fun _ =>
          keeps_bind (owned_of_unmoved (frame_setStartTime spared_shape)) fun _ =>
            keeps_bind (owned_of_unmoved (unmoved_bindAndListen nConnectionBacklog)) fun _ =>
              keeps_bind (owned_of_unmoved (frame_setEndTime spared_shape)) fun _ =>
                keeps_bind (owned_of_unmoved (frame_translateSocketError spared_shape)) fun _ =>
                  keeps_bind (keeps_ite hclose (keeps_pure _)) fun _ => keeps_pure _

theorem owned_bindMulticast (pInterface : Option String) (pGroup : String) (nPort : UInt16) :
    Keeps (KeepsOwned made) (CPassiveSocket.bindMulticast pInterface pGroup nPort) :=
  keeps_bind (owned_of_unmoved (frame_bindAddress pInterface)) fun _ =>
    keeps_bind (owned_of_unmoved (frame_assign fun _ => rfl)) fun _ =>
      keeps_bind (owned_of_unmoved (unmoved_bindAndJoin pGroup)) fun _ =>
        keeps_bind (owned_of_unmoved (frame_timerInitialize spared_shape)) fun _ =>
          keeps_bind (owned_of_unmoved (frame_setStartTime spared_shape)) fun _ =>
            keeps_bind (owned_of_unmoved (frame_translateSocketError spared_shape)) fun _ =>
              keeps_bind (keeps_ite (keeps_bind owned_closeSocket fun _ => keeps_pure _) (keeps_pure _))
                fun _ => keeps_pure _

/-! ### Allocating it -/

/-- There is a buffer, of the size that was asked for. -/
structure Filled (made : Trace) (nMaxBytes : Int) (t : State) : Prop where
  owns : Owns made t
  buffer : t.self.m_pBuffer ≠ none
  size : t.self.m_nBufferSize = nMaxBytes
  nonneg : 0 ≤ nMaxBytes

/-- An object without a buffer gets an unused block. -/
theorem filled_allocated {n : Int} (hs : Owns made s) (hnone : s.self.m_pBuffer = none)
    (hfresh : s.os.nextAlloc ∉ (heapAfter (made ++ s.trace)).used) (hn : 0 ≤ n) :
    Filled made n (((s.upd fun o => { o with m_nBufferSize := n }).allocated n).upd fun o =>
      { o with m_pBuffer := some ⟨s.os.nextAlloc, (List.range n.toNat).map s.os.garbage⟩ }) := by
  obtain ⟨haccepts, hsole, hsized⟩ := hs
  rw [block, hnone, Option.map_none] at hsole
  -- the one call is an allocation of an unused block
  have hcalls : heapCalls (made ++ (s.trace ++ [.alloc s.os.nextAlloc n])) =
      heapCalls (made ++ s.trace) ++ [.alloc s.os.nextAlloc n] := by
    rw [← List.append_assoc, heapCalls_append]
    rfl
  refine ⟨⟨?_, ?_, fun b hb => ?_⟩, Option.some_ne_none _, rfl, hn⟩
  · refine (congrArg (rules.Accepts empty) hcalls).mpr ?_
    rw [Monitor.accepts_concat]
    exact ⟨haccepts, hfresh⟩
  · have hafter : heapAfter (made ++ (s.trace ++ [.alloc s.os.nextAlloc n])) =
        rules.next (heapAfter (made ++ s.trace)) (.alloc s.os.nextAlloc n) := by
      rw [heapAfter, hcalls, Monitor.after_append]
      rfl
    exact (congrArg (Sole · _) hafter).mpr (hsole.alloc _ _)
  · cases hb
    simp
    omega

/-- Freeing the buffer brings no block into use. -/
theorem used_bufferDeleted (s : State) : (heapAfter (made ++ (bufferDeleted s).trace)).used =
    (heapAfter (made ++ s.trace)).used := by
  cases hb : s.self.m_pBuffer with
  | none => simp [bufferDeleted, hb]
  | some b =>
    have htrace : made ++ (bufferDeleted s).trace = made ++ s.trace ++ [.free b.id] := by
      simp [bufferDeleted, hb]
    rw [htrace, heapAfter, heapCalls_append, Monitor.after_append]
    rfl

/-- **What `Receive` asks for**: a buffer of another size is freed, and what is left is used. -/
theorem wp_provideBuffer_filled (nMaxBytes : Int) (hs : Owns made s)
    (hfresh : s.os.nextAlloc ∉ (heapAfter (made ++ s.trace)).used) :
    wp (provideBuffer nMaxBytes) (fun _ t => Filled made nMaxBytes t ∧
      t.os.script = s.os.script ∧ t.self.m_nBytesReceived = s.self.m_nBytesReceived)
      (fun _ _ => True) s := by
  simp only [provideBuffer, wp_bind, wp_this, wp_when, wp_deleteBuffer, wp_assign, wp_newBytes]
  refine ⟨fun _ => ⟨fun _ => ⟨fun _ => trivial, fun hn => ?_⟩, fun hsome => absurd rfl hsome⟩,
    fun hkeep => ⟨fun hnone => ⟨fun _ => trivial, fun hn => ?_⟩, fun hsome => ?_⟩⟩
  -- a buffer of another size is freed, and a new one allocated
  · have hdeleted : Owns made (bufferDeleted s) := owned_deleteBuffer s hs
    have hfresh' : s.os.nextAlloc ∉ (heapAfter (made ++ (bufferDeleted s).trace)).used := by
      rwa [used_bufferDeleted]
    exact ⟨filled_allocated hdeleted rfl hfresh' (by omega), rfl, rfl⟩
  · exact ⟨filled_allocated hs hnone hfresh (by omega), rfl, rfl⟩
  -- the buffer that is kept has the size already
  · obtain ⟨b, hb⟩ := Option.ne_none_iff_exists'.mp hsome
    have hsize : s.self.m_nBufferSize = nMaxBytes := by
      by_contra hne
      exact hkeep ⟨hsome, Ne.symm hne⟩
    have hlength := hs.sized b hb
    exact ⟨⟨hs, hsome, hsize, by omega⟩, trivial, trivial⟩

end

end ClSocket
