import ClSocket.Descriptor.Reachable
import ClSocket.Transfer.Receiving

/-!
# Copies of an object

The copy constructor makes an object out of raw storage. All members are to come from the source, and
the buffer is to be a copy of the source's, or none when the source has none; assignment is to
leave such a buffer too (`WellCopied`).

The constructor writes the buffer and its size and nothing else, so that the other members are those
of the storage, whatever the source. It always allocates. Assignment does the same when the sizes
differ, and nothing when they are equal. So both copy a buffer that is there; a source without one,
whose size `Close` and a failed `Receive` leave behind, they get wrong (`well_copied_never`).
-/

namespace ClSocket

open Prog CSimpleSocket

/-- The object has a buffer exactly if the source has, and then one of the same size and contents. -/
structure BufferCopied (source o : CSimpleSocket) : Prop where
  null : o.m_pBuffer = none ↔ source.m_pBuffer = none
  copied : ∀ b, source.m_pBuffer = some b → o.m_nBufferSize = source.m_nBufferSize ∧
    ∃ b', o.m_pBuffer = some b' ∧ b'.data = b.data

/-- The copy constructor turns the storage into the object, and reads inside the source only. -/
def Constructs (source raw : CSimpleSocket) (os : Os) (o : CSimpleSocket) : Prop :=
  ∃ t, call (copyConstruct source) raw os = .done true t ∧ t.self = o

/-- **The law of copies**: on every storage the constructor makes one and the same object, which has
the source's buffer, and so has every other object after assignment. -/
structure WellCopied (source : CSimpleSocket) (os : Os) : Prop where
  determined : ∃ o, ∀ raw, Constructs source raw os o
  constructed : ∀ raw, ∃ o, Constructs source raw os o ∧ BufferCopied source o
  assigned : ∀ target, ∃ b t, call (operatorAssign source) target os = .done b t ∧
    BufferCopied source t.self

/-- The object but for its buffer. -/
def CSimpleSocket.unbuffered (o : CSimpleSocket) : CSimpleSocket :=
  { o with m_pBuffer := none, m_nBufferSize := 0 }

/-- What the buffer of an object holds. -/
def CSimpleSocket.contents (o : CSimpleSocket) : Option Bytes := o.m_pBuffer.map Buffer.data

/-- Assignment comes out right: it copies the buffer, or there is nothing to be done. -/
def Assignable (source target : CSimpleSocket) : Prop :=
  (source.m_pBuffer ≠ none ∧ target.m_nBufferSize ≠ source.m_nBufferSize) ∨
    target.m_nBufferSize = source.m_nBufferSize ∧ target.contents = source.contents

section

variable {source raw target o : CSimpleSocket} {os : Os} {b : Buffer}

theorem contents_eq_none : o.contents = none ↔ o.m_pBuffer = none := Option.map_eq_none_iff

/-- With equal sizes, the same contents are all there is to a copy. -/
theorem bufferCopied_iff (hsize : o.m_nBufferSize = source.m_nBufferSize) :
    BufferCopied source o ↔ o.contents = source.contents := by
  constructor
  · intro h
    cases hs : source.m_pBuffer with
    | none => rw [contents_eq_none.mpr (h.null.mpr hs), contents_eq_none.mpr hs]
    | some b =>
      obtain ⟨-, b', hb', hdata⟩ := h.copied b hs
      rw [contents, contents, hs, hb', Option.map_some, Option.map_some, hdata]
  · intro h
    refine ⟨by rw [← contents_eq_none, h, contents_eq_none], fun b hb => ⟨hsize, ?_⟩⟩
    rw [contents, contents, hb, Option.map_some, Option.map_eq_some_iff] at h
    exact h

/-! ### The buffer -/

/-- All bytes of a block are read from inside it. -/
theorem memcpyBytes_length : memcpyBytes (some b) b.data.length = some b.data := by
  rw [memcpyBytes, if_pos le_rfl, Int.toNat_natCast, List.take_length]

theorem writeAt_length {block bs : Bytes} (h : block.length = bs.length) : writeAt block 0 bs = bs := by
  have hfront := take_writeAt h.ge
  rwa [List.take_of_length_le (by simp [writeAt, h])] at hfront

/-- A buffer that is there is copied. -/
theorem wp_copyBuffer_some (hsize : (b.data.length : Int) = source.m_nBufferSize)
    (hb : source.m_pBuffer = some b) (o : CSimpleSocket) (os : Os) (tr : Trace) :
    wp (copyBuffer source) (fun r t => r = true ∧ t.self = { o with
      m_pBuffer := some ⟨os.nextAlloc, b.data⟩, m_nBufferSize := source.m_nBufferSize })
      (fun _ _ => False) ⟨o, os, tr⟩ := by
  simp only [copyBuffer, wp_bind, wp_newBytes, wp_assign]
  refine ⟨fun h => ?_, fun _ => ?_⟩
  · rw [← hsize] at h
    exact absurd h (by omega)
  · rw [hb, ← hsize, memcpyBytes_length]
    have hfull : writeAt ((List.range (b.data.length : Int).toNat).map os.garbage) 0 b.data =
        b.data := writeAt_length (by simp)
    exact ⟨rfl, congrArg (fun data => { o with
      m_pBuffer := some ⟨os.nextAlloc, data⟩, m_nBufferSize := (b.data.length : Int) }) hfull⟩

/-- There is a buffer afterwards in any case. -/
theorem wp_copyBuffer_ne_none (source : CSimpleSocket) (s : State) :
    wp (copyBuffer source) (fun _ t => t.self.m_pBuffer ≠ none) (fun _ _ => True) s := by
  simp only [copyBuffer, wp_bind, wp_newBytes, wp_assign]
  refine ⟨fun _ => trivial, fun _ => ?_⟩
  cases memcpyBytes source.m_pBuffer source.m_nBufferSize with
  | none => exact Option.some_ne_none _
  | some bs => exact Option.some_ne_none _

/-- The rest of the object is as it was. -/
theorem wp_copyBuffer_unbuffered (source : CSimpleSocket) (s : State) :
    wp (copyBuffer source) (fun _ t => t.self.unbuffered = s.self.unbuffered) (fun _ _ => True) s := by
  simp only [copyBuffer, wp_bind, wp_newBytes, wp_assign]
  refine ⟨fun _ => trivial, fun _ => ?_⟩
  cases memcpyBytes source.m_pBuffer source.m_nBufferSize with
  | none => exact rfl
  | some bs => exact rfl

/-- Assignment with equal sizes does nothing. -/
theorem operatorAssign_same (hsize : target.m_nBufferSize = source.m_nBufferSize) :
    call (operatorAssign source) target os = .done true ⟨target, os, []⟩ := by
  have hsame : wp (operatorAssign source) (fun r t => r = true ∧ t = ⟨target, os, []⟩)
      (fun _ _ => False) ⟨target, os, []⟩ := by
    simp only [operatorAssign, wp_bind, wp_this, wp_ite]
    exact ⟨fun h => absurd hsize h, fun _ => ⟨rfl, rfl⟩⟩
  obtain ⟨r, t, hrun, rfl, rfl⟩ := wp_returns hsame
  exact hrun

/-- With other sizes it copies. -/
theorem wp_operatorAssign {Q : Bool → State → Prop} {B : Stop → State → Prop}
    (hsize : target.m_nBufferSize ≠ source.m_nBufferSize)
    (h : ∀ tr, wp (copyBuffer source) Q B ⟨target, os, tr⟩) :
    wp (operatorAssign source) Q B ⟨target, os, []⟩ := by
  simp only [operatorAssign, wp_bind, wp_this, wp_ite]
  refine ⟨fun _ => ?_, fun heq => absurd hsize heq⟩
  cases target.m_pBuffer with
  | some b => exact h _
  | none => exact h _

/-! ### The two copies -/

/-- What the constructor makes has the members of the storage. -/
theorem Constructs.unbuffered (h : Constructs source raw os o) : o.unbuffered = raw.unbuffered := by
  obtain ⟨t, hrun, rfl⟩ := h
  exact wp_call (wp_copyBuffer_unbuffered source _) hrun

/-- So it is not the source alone that it is made from: two storages with different descriptors give
two objects. -/
theorem not_determined (source : CSimpleSocket) (os : Os) : ¬ ∃ o, ∀ raw, Constructs source raw os o := by
  rintro ⟨o, h⟩
  have hsame : ∀ fd : Int, o.m_socket = fd := fun fd =>
    congrArg m_socket (h { CSimpleSocket.zeroed with m_socket := fd }).unbuffered
  exact absurd ((hsame 0).symm.trans (hsame 1)) (by decide)

/-- **The buffer of a construction** comes out right exactly if the source has one. -/
theorem constructed_iff (os : Os) (hsource : BufferOk source) :
    (∃ o, Constructs source raw os o ∧ BufferCopied source o) ↔ source.m_pBuffer ≠ none := by
  cases hb : source.m_pBuffer with
  | none =>
    -- the copy has a buffer in any case
    refine iff_of_false ?_ fun h => h rfl
    rintro ⟨o, ⟨t, hrun, rfl⟩, hcopied⟩
    exact wp_call (wp_copyBuffer_ne_none source _) hrun (hcopied.null.mpr hb)
  | some b =>
    refine iff_of_true ?_ (Option.some_ne_none b)
    obtain ⟨r, t, hrun, rfl, hself⟩ := wp_returns (wp_copyBuffer_some (hsource b hb) hb raw os [])
    refine ⟨t.self, ⟨t, hrun, rfl⟩, ?_⟩
    rw [bufferCopied_iff (by rw [hself]), hself, contents, contents, hb]
    rfl

/-- **Assignment** comes out right exactly if it copies a buffer, or does not have to. -/
theorem assigned_iff (os : Os) (hsource : BufferOk source) :
    (∃ b t, call (operatorAssign source) target os = .done b t ∧ BufferCopied source t.self) ↔
      Assignable source target := by
  by_cases hsize : target.m_nBufferSize = source.m_nBufferSize
  -- nothing is done, so the two have to be alike before
  · rw [operatorAssign_same hsize, Assignable, ← bufferCopied_iff hsize]
    constructor
    · rintro ⟨r, t, hrun, hcopied⟩
      cases hrun
      exact Or.inr ⟨hsize, hcopied⟩
    · rintro (⟨-, hother⟩ | ⟨-, hcopied⟩)
      · exact absurd hsize hother
      · exact ⟨_, _, rfl, hcopied⟩
  · cases hb : source.m_pBuffer with
    | none =>
      -- a buffer is made where the source has none
      refine iff_of_false ?_ ?_
      · rintro ⟨r, t, hrun, hcopied⟩
        have hsome := wp_call (wp_operatorAssign hsize fun _ => wp_copyBuffer_ne_none source _) hrun
        exact hsome (hcopied.null.mpr hb)
      · rintro (⟨hsome, -⟩ | ⟨heq, -⟩)
        · exact hsome hb
        · exact hsize heq
    | some b =>
      refine iff_of_true ?_ (Or.inl ⟨by simp [hb], hsize⟩)
      obtain ⟨r, t, hrun, -, hself⟩ := wp_returns
        (wp_operatorAssign hsize (wp_copyBuffer_some (hsource b hb) hb target os))
      refine ⟨r, t, hrun, ?_⟩
      rw [bufferCopied_iff (by rw [hself]), hself, contents, contents, hb]
      rfl

/-- **Copies are not well formed**, whatever the source: no object is determined by it alone. Of the
buffers, that of a construction is right exactly if the source has one, and that of an assignment exactly
if it is copied or need not be. -/
theorem well_copied_never {cls : SocketClass} (hsource : Reachable cls source) (os : Os) :
    ¬ WellCopied source os ∧
    (∀ raw o, Constructs source raw os o → o.unbuffered = raw.unbuffered) ∧
    (∀ raw, (∃ o, Constructs source raw os o ∧ BufferCopied source o) ↔ source.m_pBuffer ≠ none) ∧
    ∀ target, (∃ b t, call (operatorAssign source) target os = .done b t ∧
      BufferCopied source t.self) ↔ Assignable source target :=
  ⟨fun h => not_determined source os h.determined, fun _ _ h => h.unbuffered,
    fun _ => constructed_iff os hsource.bufferOk, fun _ => assigned_iff os hsource.bufferOk⟩

end

/-- A process in which two bytes arrive. -/
def twoArrive : Os := .idle { recv := [.ok [1, 2]] }

/-- An object that has received them: its buffer is copied to any storage, and to a new object, but
the copy has the descriptor of its storage. -/
theorem well_copied_never_received : ∃ source, Reachable .active source ∧
    source.contents = some [1, 2] ∧ ¬ WellCopied source twoArrive ∧
    (∃ o, Constructs source .zeroed twoArrive o ∧ BufferCopied source o ∧ o.m_socket = 0) ∧
    ∃ b t, call (operatorAssign source) (.construct .zeroed .socketTypeTcp) twoArrive = .done b t ∧
      BufferCopied source t.self := by
  have hrun : ∃ ret t, call ((Op.receive 2 none).run .active) Reachable.initialized twoArrive =
      .done ret t ∧ t.self.contents = some [1, 2] ∧ t.self.m_nBufferSize = 2 := ⟨_, _, rfl, rfl, rfl⟩
  obtain ⟨ret, t, hrun, hcontents, hsize⟩ := hrun
  have hsource : Reachable .active t.self := .called .of_initialized rfl hrun
  have hbuffer : t.self.m_pBuffer ≠ none := by simp [← contents_eq_none, hcontents]
  obtain ⟨hnever, hrest, hconstructed, hassigned⟩ := well_copied_never hsource twoArrive
  obtain ⟨o, hmade, hcopied⟩ := (hconstructed .zeroed).mpr hbuffer
  refine ⟨t.self, hsource, hcontents, hnever,
    ⟨o, hmade, hcopied, congrArg m_socket (hrest .zeroed o hmade)⟩,
    (hassigned (.construct .zeroed .socketTypeTcp)).mpr (Or.inl ⟨hbuffer, ?_⟩)⟩
  rw [hsize]
  decide

/-- Once it is closed the size is left and the buffer is not, and the copy reads from nowhere. -/
theorem not_well_copied_closed : ∃ source, Reachable .active source ∧ source.contents = none ∧
    source.m_nBufferSize = 2 ∧
    (∃ t, call (copyConstruct source) .zeroed twoArrive = .done false t) ∧
    ¬ WellCopied source twoArrive := by
  have hrun : ∃ ret t, call ((Op.receive 2 none).run .active) Reachable.initialized twoArrive =
      .done ret t ∧ ∃ ret' t', call (Op.close.run .active) t.self (.idle { close := [.ok ()] }) =
        .done ret' t' ∧ t'.self.m_pBuffer = none ∧ t'.self.m_nBufferSize = 2 ∧
        ∃ u, call (copyConstruct t'.self) .zeroed twoArrive = .done false u :=
    ⟨_, _, rfl, _, _, rfl, rfl, rfl, _, rfl⟩
  obtain ⟨ret, t, hreceive, ret', t', hclose, hbuffer, hsize, hcopy⟩ := hrun
  refine ⟨t'.self, .called (.called .of_initialized rfl hreceive) rfl hclose,
    contents_eq_none.mpr hbuffer, hsize, hcopy, fun h => ?_⟩
  obtain ⟨u, hfalse⟩ := hcopy
  obtain ⟨o, ⟨u', htrue, -⟩, -⟩ := h.constructed .zeroed
  rw [hfalse] at htrue
  cases htrue

end ClSocket
