import ClSocket.Descriptor.Reachable

/-!
# What `Receive` returns is what it took

`Receive` writes to the buffer at the offset the last call returned, starts from offset zero
and asks `errno` whether to go on. The bytes it returns are nevertheless exactly the bytes it
took out of the kernel's queue, and they stand at the front of the buffer the caller reads
(`receive_exact`).

The invariant of the loop is a disjunction: either nothing has been taken yet and the offset is
still zero (`Fresh`), or `errno` is `EINTR`. A successful call leaves `errno` alone, so from
the second state the loop can only be left by a failure, with the result `-1`; a return of
a count therefore comes from the first call, made in a fresh state.
-/

namespace ClSocket

open Prog CSimpleSocket

/-- What a call took out of the kernel's queue. -/
def Event.removed? : Event → Option Bytes
  | .recv _ _ _ _ (.ok bs) => some bs
  | .recvfrom _ _ (.ok d) => some d.1
  | _ => none

/-- What a trace took out of it, call by call. -/
def removedIn (t : Trace) : List Bytes := t.filterMap Event.removed?

@[simp] theorem removedIn_nil : removedIn [] = [] := rfl

@[simp] theorem removedIn_cons (e : Event) (t : Trace) :
    removedIn (e :: t) = e.removed?.toList ++ removedIn t := by
  unfold removedIn
  cases h : e.removed? with
  | none => rw [List.filterMap_cons_none h]; rfl
  | some bs => rw [List.filterMap_cons_some h]; rfl

@[simp] theorem removedIn_append (t u : Trace) : removedIn (t ++ u) = removedIn t ++ removedIn u :=
  List.filterMap_append

/-- The block the caller reads: its own, or the internal one `GetData` points at. -/
def readBlock (pBuffer : Option Bytes) (internal : Option Buffer) : Option Bytes :=
  match pBuffer with
  | some b => some b
  | none => internal.map Buffer.data

/-- The operating system delivers no more than it is asked for. -/
structure Bounded (nMaxBytes : Int) (sc : Script) : Prop where
  recv : ∀ bs, .ok bs ∈ sc.recv → (bs.length : Int) ≤ nMaxBytes
  recvfrom : ∀ d, .ok d ∈ sc.recvfrom → (d.1.length : Int) ≤ nMaxBytes

/-- One call took bytes; they are the count, and stand at the front of the block. -/
def Landed (out : Option Bytes) (t : State) : Prop :=
  ∃ bs block, removedIn t.trace = [bs] ∧ t.self.m_nBytesReceived = bs.length ∧
    readBlock out t.self.m_pBuffer = some block ∧ block.take bs.length = bs

/-- Nothing has been taken, and there is room at the front of the block. -/
structure Fresh (nMaxBytes : Int) (pBuffer : Option Bytes) (t : State) : Prop where
  removed : removedIn t.trace = []
  offset : t.self.m_nBytesReceived = 0
  room : ∃ block, readBlock pBuffer t.self.m_pBuffer = some block ∧ nMaxBytes ≤ block.length
  bounded : Bounded nMaxBytes t.os.script

/-- What a round does: it fails, or it leaves `errno` alone and lands what it took. -/
def Delivers (nMaxBytes : Int) (round : Option Bytes → M (Option Bytes)) : Prop :=
  ∀ pBuffer t, wp (round pBuffer) (fun out u => u.self.m_nBytesReceived = -1 ∨
    u.os.errno = t.os.errno ∧ (Fresh nMaxBytes pBuffer t → Landed out u)) (fun _ _ => True) t

/-- Bytes written at the front of a block that has room are its front. -/
theorem take_writeAt {block bs : Bytes} (h : bs.length ≤ block.length) :
    (writeAt block 0 bs).take bs.length = bs := by
  refine List.ext_getElem (by simp [writeAt, h]) fun i h₁ h₂ => ?_
  simp [writeAt, h₂]

theorem wp_deliver (pBuffer : Option Bytes) (offset : Int) (bs : Bytes) (t : State) :
    wp (deliver pBuffer offset bs) (fun out u =>
      readBlock out u.self.m_pBuffer = (readBlock pBuffer t.self.m_pBuffer).map (fun b => writeAt b offset bs) ∧
        u.os = t.os ∧ u.trace = t.trace ∧ u.self.m_nBytesReceived = t.self.m_nBytesReceived)
      (fun _ _ => False) t := by
  cases pBuffer with
  | some b => simp [deliver, readBlock]
  | none =>
    simp only [deliver, wp_bind, wp_when, wp_assign, wp_pure]
    refine ⟨fun _ => ⟨?_, rfl, rfl, rfl⟩, fun h => absurd trivial h⟩
    cases h : t.self.m_pBuffer <;> simp [readBlock, h]

/-- The landing of a call made in a fresh state. -/
theorem landed_of_deliver {nMaxBytes : Int} {pBuffer out : Option Bytes} {t u : State} {bs : Bytes}
    (hmax : InInt32 nMaxBytes) (hfresh : Fresh nMaxBytes pBuffer t)
    (hbs : (bs.length : Int) ≤ nMaxBytes) (htrace : removedIn u.trace = removedIn t.trace ++ [bs])
    (hcount : u.self.m_nBytesReceived = narrow bs.length)
    (hblock : readBlock out u.self.m_pBuffer = (readBlock pBuffer t.self.m_pBuffer).map fun b => writeAt b 0 bs) :
    Landed out u := by
  obtain ⟨block, hb, hroom⟩ := hfresh.room
  have hnarrow : narrow bs.length = bs.length := by
    obtain ⟨-, hle⟩ := hmax
    exact narrow_eq_self.mpr ⟨by omega, by omega⟩
  refine ⟨bs, writeAt block 0 bs, ?_, hcount.trans hnarrow, ?_, take_writeAt (by omega)⟩
  · rw [htrace, hfresh.removed]
    rfl
  · rw [hblock, hb]
    rfl

theorem delivers_recvRound {nMaxBytes : Int} (hmax : InInt32 nMaxBytes) :
    Delivers nMaxBytes (recvRound nMaxBytes) := by
  intro pBuffer t
  rw [recvRound, wp_bind, wp_this, wp_bind, sysRecv, wp_issue_iff]
  refine ⟨fun _ => trivial, fun res rest hq => ?_⟩
  rw [wp_bind, wp_assign]
  -- the stored count is a number of its own from here on
  generalize hn : narrow (res.count List.length).ret = n
  cases res with
  | fail e => exact Or.inl (hn.symm.trans narrow_neg_one)
  | ok bs =>
    refine wp_mono (fun out u h => Or.inr ?_) (fun _ _ h => h.elim) (wp_deliver pBuffer _ bs _)
    obtain ⟨hblock, hos, htrace, hcount⟩ := h
    refine ⟨by rw [hos]; rfl, fun hfresh => ?_⟩
    have hbs : (bs.length : Int) ≤ nMaxBytes := hfresh.bounded.recv bs (by rw [hq]; simp)
    rw [hfresh.offset] at hblock
    refine landed_of_deliver hmax hfresh hbs ?_ (hcount.trans hn.symm) hblock
    rw [htrace]
    simp [Event.removed?]

theorem delivers_recvfromRound {nMaxBytes : Int} (hmax : InInt32 nMaxBytes) :
    Delivers nMaxBytes (recvfromRound nMaxBytes) := by
  intro pBuffer t
  rw [recvfromRound, wp_bind, wp_this, wp_bind, sysRecvfrom, wp_issue_iff]
  refine ⟨fun _ => trivial, fun res rest hq => ?_⟩
  rw [wp_bind, wp_assign]
  generalize hn : narrow (res.count fun d => d.1.length).ret = n
  cases res with
  | fail e => exact Or.inl (hn.symm.trans narrow_neg_one)
  | ok d =>
    obtain ⟨bs, src⟩ := d
    rw [wp_bind, wp_assign]
    refine wp_mono (fun out u h => Or.inr ?_) (fun _ _ h => h.elim) (wp_deliver pBuffer _ bs _)
    obtain ⟨hblock, hos, htrace, hcount⟩ := h
    refine ⟨by rw [hos]; rfl, fun hfresh => ?_⟩
    have hbs : (bs.length : Int) ≤ nMaxBytes :=
      hfresh.bounded.recvfrom (bs, src) (by rw [hq]; simp)
    -- which of the two addresses the sender went to makes no difference
    refine landed_of_deliver hmax hfresh hbs ?_ (Eq.trans ?_ hn.symm) ?_
    · rw [htrace]
      simp [Event.removed?]
    · rw [hcount]
      cases h : t.self.m_bIsMulticast <;> simp [h]
    · rw [hblock]
      cases h : t.self.m_bIsMulticast <;> simp [h]

/-! ### The loop -/

/-- **The loop of `Receive`.** Between rounds it is fresh or interrupted; it leaves after a
failure or with what the first call took. -/
theorem wp_receiveRounds {nMaxBytes : Int} {round : Option Bytes → M (Option Bytes)}
    (hround : Delivers nMaxBytes round) (n : ℕ) (pBuffer : Option Bytes) {t : State}
    (ht : Fresh nMaxBytes pBuffer t) :
    wp (whileInterrupted n round pBuffer)
      (fun out u => u.self.m_nBytesReceived = -1 ∨ Landed out u) (fun _ _ => True) t := by
  -- a round after the first finds `EINTR`, so only a failure gets it out of the loop
  refine wp_iter (fun _ buf u => u.os.errno = EINTR ∨ Fresh nMaxBytes buf u) ?_
    (fun _ _ _ => trivial) n pBuffer t (Or.inr ht)
  intro _ buf u hu
  rw [wp_bind]
  refine wp_mono (fun out v h => ?_) (fun _ _ _ => trivial) (hround buf u)
  simp only [wp_bind, wp_translateSocketError, wp_this, wp_ite, wp_pure, State.upd_self,
    translateErrno_eq_interrupted, Round.post_again, Round.post_leave]
  refine ⟨fun he => Or.inl he, fun he => ?_⟩
  rcases h with hfail | ⟨herrno, hland⟩
  · exact Or.inl hfail
  · rcases hu with hintr | hfresh
    · exact absurd (herrno.trans hintr) he
    · exact Or.inr (hland hfresh)

/-- What the caller of `Receive` is asked for, and what nothing of the rest depends on. -/
structure Provided (nMaxBytes : Int) (t u : State) : Prop where
  room : ∃ b, u.self.m_pBuffer = some b ∧ nMaxBytes ≤ b.data.length
  removed : removedIn u.trace = removedIn t.trace
  script : u.os.script = t.os.script
  count : u.self.m_nBytesReceived = t.self.m_nBytesReceived
  type : u.self.m_nSocketType = t.self.m_nSocketType

/-- A buffer of another size is freed; what is left, or allocated then, has room. -/
theorem wp_provideBuffer {nMaxBytes : Int} {t : State} (hpos : 0 < nMaxBytes)
    (hok : BufferOk t.self) :
    wp (provideBuffer nMaxBytes) (fun _ u => Provided nMaxBytes t u) (fun _ _ => False) t := by
  have hfree : removedIn (bufferDeleted t).trace = removedIn t.trace :=
    filterMap_bufferDeleted (fun _ => rfl) t
  have hroom : nMaxBytes ≤ ((List.range nMaxBytes.toNat).map t.os.garbage).length := by
    simp
  simp only [provideBuffer, wp_bind, wp_this, wp_when, wp_assign, wp_newBytes]
  refine ⟨fun _ => ⟨fun _ => ⟨fun hneg => absurd hneg (by omega), fun _ => ?_⟩,
    fun hnone => absurd rfl hnone⟩, fun hkeep => ⟨fun _ => ⟨fun hneg => absurd hneg (by omega),
      fun _ => ?_⟩, fun hsome => ?_⟩⟩
  · exact ⟨⟨_, rfl, hroom⟩, by simpa [Event.removed?] using hfree, rfl, rfl, rfl⟩
  · exact ⟨⟨_, rfl, hroom⟩, by simp [Event.removed?], rfl, rfl, rfl⟩
  -- the buffer that is kept has the size asked for
  · obtain ⟨b, hb⟩ := Option.ne_none_iff_exists'.mp hsome
    have hsize : nMaxBytes = t.self.m_nBufferSize := by
      by_contra hne
      exact hkeep ⟨hsome, hne⟩
    exact ⟨⟨b, hb, by rw [hok b hb, hsize]⟩, rfl, rfl, rfl, rfl⟩

/-- The `switch` of `Receive` on a TCP or UDP socket. -/
theorem wp_receiveLoop {nMaxBytes : Int} (hmax : InInt32 nMaxBytes) {pBuffer : Option Bytes}
    {t : State} (htype : t.self.m_nSocketType = .socketTypeTcp ∨
      t.self.m_nSocketType = .socketTypeUdp) (ht : Fresh nMaxBytes pBuffer t) :
    wp (receiveLoop nMaxBytes pBuffer)
      (fun out u => u.self.m_nBytesReceived = -1 ∨ Landed out u) (fun _ _ => True) t := by
  simp only [receiveLoop, wp_bind, wp_this, wp_script, wp_ite, wp_pure]
  refine ⟨fun _ => wp_receiveRounds (delivers_recvRound hmax) _ _ ht,
    fun htcp => ⟨fun _ => wp_receiveRounds (delivers_recvfromRound hmax) _ _ ht, fun hudp => ?_⟩⟩
  exact absurd htype (not_or.mpr ⟨htcp, hudp⟩)

/-- The rest of `Receive`, once there is a block with room. -/
theorem wp_receiveTimed {nMaxBytes : Int} (hmax : InInt32 nMaxBytes) {pBuffer : Option Bytes}
    {t : State} (htype : t.self.m_nSocketType = .socketTypeTcp ∨
      t.self.m_nSocketType = .socketTypeUdp) (ht : Fresh nMaxBytes pBuffer t) :
    wp (receiveTimed nMaxBytes pBuffer)
      (fun r u => 0 ≤ r.1 → r.1 = u.self.m_nBytesReceived ∧ Landed r.2 u) (fun _ _ => True) t := by
  simp only [receiveTimed, wp_bind, wp_setSocketError, wp_timerInitialize, wp_setStartTime,
    wp_setEndTime, wp_translateSocketError, wp_this, wp_when, wp_deleteBuffer, wp_pure]
  refine wp_mono (fun out u h => ?_) (fun _ _ h => h) (wp_receiveLoop hmax htype
    ⟨ht.removed, ht.offset, ht.room, ht.bounded⟩)
  -- the buffer is freed after a failure alone, of which nothing is said
  refine ⟨fun hfail hr => absurd hr ?_, fun hne _ => ?_⟩
  · rw [hfail]
    decide
  · rcases h with hfail | hland
    · exact absurd hfail hne
    · exact ⟨trivial, hland⟩

/-- **`Receive` neither loses nor misplaces data.** When it returns a count, one call took
that many bytes (one datagram, for UDP), and the block the caller reads starts with them. -/
theorem receive_exact {cls : SocketClass} {o : CSimpleSocket} {os : Os} {nMaxBytes r : Int}
    {pBuffer out : Option Bytes} {t : State} (hreach : Reachable cls o)
    (hvalid : o.isSocketValid = true)
    (htype : o.m_nSocketType = .socketTypeTcp ∨ o.m_nSocketType = .socketTypeUdp)
    (hpos : 0 < nMaxBytes) (hmax : InInt32 nMaxBytes)
    (hroom : ∀ b, pBuffer = some b → nMaxBytes ≤ b.length) (hos : Bounded nMaxBytes os.script)
    (hrun : call (receive nMaxBytes pBuffer) o os = .done (r, out) t) (hr : 0 ≤ r) :
    ∃ bs block, removedIn t.trace = [bs] ∧ r = bs.length ∧
      readBlock out t.self.m_pBuffer = some block ∧ block.take bs.length = bs := by
  have h : wp (receive nMaxBytes pBuffer)
      (fun r u => 0 ≤ r.1 → r.1 = u.self.m_nBytesReceived ∧ Landed r.2 u)
      (fun _ _ => True) ⟨o, os, []⟩ := by
    rw [wp_receive_iff]
    refine ⟨fun hinv => absurd (hvalid.symm.trans hinv) (by decide), fun _ => ⟨?internal, ?supplied⟩⟩
    -- the buffer of the object: `Receive` has provided one of the size
    case internal =>
      rintro rfl
      refine wp_mono (fun _ u hu => ?_) (fun _ _ hF => hF.elim)
        (wp_provideBuffer hpos hreach.bufferOk)
      obtain ⟨b, hb, hlen⟩ := hu.room
      have htype' : u.self.m_nSocketType = .socketTypeTcp ∨
          u.self.m_nSocketType = .socketTypeUdp :=
        htype.imp hu.type.trans hu.type.trans
      exact wp_receiveTimed hmax htype' ⟨hu.removed, hu.count, ⟨b.data, by rw [hb]; rfl, hlen⟩,
        hu.script ▸ hos⟩
    -- a buffer of the caller's, which is as long as he says
    case supplied =>
      intro hsome
      obtain ⟨b, rfl⟩ := Option.ne_none_iff_exists'.mp hsome
      exact wp_receiveTimed hmax htype ⟨rfl, rfl, ⟨b, rfl, hroom b rfl⟩, hos⟩
  obtain ⟨hcount, bs, block, hrem, hlen, hblock, htake⟩ := wp_call h hrun hr
  exact ⟨bs, block, hrem, hcount.trans hlen, hblock, htake⟩

/-- Two bytes delivered to the internal buffer. -/
theorem receive_exact_internal :
    ∃ bs block, removedIn (call (receive 4 none) Reachable.initialized
        (.idle { recv := [.ok [7, 8]] })).state.trace = [bs] ∧ (2 : Int) = bs.length ∧
      readBlock none (call (receive 4 none) Reachable.initialized
        (.idle { recv := [.ok [7, 8]] })).state.self.m_pBuffer = some block ∧
      block.take bs.length = bs := by
  have hrun : call (receive 4 none) Reachable.initialized (.idle { recv := [.ok [7, 8]] }) =
      .done (2, none) (call (receive 4 none) Reachable.initialized
        (.idle { recv := [.ok [7, 8]] })).state := rfl
  have hreach : Reachable .active Reachable.initialized := Reachable.of_initialized
  refine receive_exact hreach (by decide) (Or.inl rfl) (by decide) (by decide)
    (fun _ hb => by cases hb) ⟨fun _ hbs => ?_, fun _ hd => by cases hd⟩
    hrun (by decide)
  cases List.mem_singleton.mp hbs
  decide

end ClSocket
