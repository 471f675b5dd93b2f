import ClSocket.Transfer.Copying

/-!
# The block arithmetic of `SendFile`

The counter starts at the error value `-1`, so the loop counts up to one more than it was asked
for, and `nCount - nOutCount` is largest before the first block. `sendFile_inRange_iff` says when
all of this stays in range: of the counts of the type `int32` only the largest one overflows,
and it does as soon as `lseek` succeeds. Otherwise no operation overflows, every block is of a
size from 1 to that of `szData`, and the loop ends after `blockCount nCount` rounds at the latest.

The loop invariant is `Ranged`. Its measure, the blocks that are left, falls by one a round
(`blocksLeft_again`), and with it the answers the loop can still take.
-/

namespace ClSocket

open Prog CSimpleSocket

/-- The size of the block a call was passed. -/
def Event.blockSize? : Event → Option Int
  | .read _ len _ => some len
  | .send _ data _ => some data.length
  | _ => none

/-- The sizes of the blocks passed to `read` and `send`. -/
def blockSizes (t : Trace) : List Int := t.filterMap Event.blockSize?

@[simp] theorem blockSizes_append (t u : Trace) :
    blockSizes (t ++ u) = blockSizes t ++ blockSizes u := List.filterMap_append

/-- Every block passed on is of a size in range. -/
def BlocksOk (t : Trace) : Prop := ∀ k ∈ blockSizes t, 0 < k ∧ k ≤ SOCKET_SENDFILE_BLOCKSIZE

/-- The `read`s of a trace. -/
def readsIn (t : Trace) : Trace := t.filter fun
  | .read _ _ _ => true
  | _ => false

@[simp] theorem readsIn_append (t u : Trace) : readsIn (t ++ u) = readsIn t ++ readsIn u :=
  List.filter_append t u

/-- The blocks that are left: what is left, divided by the size of a block and rounded up. -/
def blocksLeft (nCount nOutCount : Int) : ℕ :=
  ((nCount - nOutCount + (SOCKET_SENDFILE_BLOCKSIZE - 1)) / SOCKET_SENDFILE_BLOCKSIZE).toNat

/-- The blocks of a whole call. -/
abbrev blockCount (nCount : Int) : ℕ := blocksLeft nCount (-1)

/-- A round copies one of the blocks that are left. -/
theorem blocksLeft_again {nCount nOutCount : Int} (more : nOutCount < nCount) :
    blocksLeft nCount nOutCount = blocksLeft nCount (nOutCount + blockSize nCount nOutCount) + 1 := by
  unfold blocksLeft blockSize SOCKET_SENDFILE_BLOCKSIZE
  split <;> omega

/-- **The property**, of a run with these answers. -/
structure InRange (nCount : Int) (os : Os) (run : Outcome State Stop (Int × Int)) : Prop where
  noOverflow : ∀ t, run ≠ .stop .overflow t
  blocksOk : BlocksOk run.state.trace
  rounds : (readsIn run.state.trace).length ≤ blockCount nCount
  /-- It returns once the calls of so many rounds are answered. -/
  returns : ∀ e t, run = .stop e t → os.script.lseek = [] ∨
    os.script.read.length < blockCount nCount ∨ os.script.send.length < blockCount nCount

/-- **The loop with `n` rounds left**: `done` blocks have been copied. -/
structure Ranged (nCount : Int) (sc : Script) (n : ℕ) (nOutCount : Int) (t : State) : Prop where
  lower : -1 ≤ nOutCount
  upper : nOutCount ≤ max nCount (-1)
  bound : n = t.os.script.read.length + 1
  blocksOk : BlocksOk t.trace
  measure : (readsIn t.trace).length + blocksLeft nCount nOutCount = blockCount nCount
  reads : sc.read.length = (readsIn t.trace).length + t.os.script.read.length
  sends : sc.send.length = (readsIn t.trace).length + t.os.script.send.length

/-- **How a run stops short**: answers are missing, and no block is out of range. -/
structure RangedStop (nCount : Int) (sc : Script) (e : Stop) (t : State) : Prop where
  waiting : e = .waiting
  blocksOk : BlocksOk t.trace
  rounds : (readsIn t.trace).length ≤ blockCount nCount
  unanswered : sc.read.length < blockCount nCount ∨ sc.send.length < blockCount nCount

/-- The subtraction and the addition of a round stay in range. -/
theorem inInt32_round {nCount nOutCount : Int} (hcount : InInt32 nCount)
    (hmax : nCount ≠ 2147483647) (hlower : -1 ≤ nOutCount) (more : nOutCount < nCount) :
    InInt32 (nCount - nOutCount) ∧ InInt32 (nOutCount + blockSize nCount nOutCount) := by
  have hle : nOutCount + blockSize nCount nOutCount ≤ nCount := add_blockSize_le
  have hpos := blockSize_pos more
  obtain ⟨hlow, hhigh⟩ := hcount
  exact ⟨⟨by omega, by omega⟩, ⟨by omega, by omega⟩⟩

section

variable {nOutFd nInFd nCount nOutCount : Int} {sc : Script} {n : ℕ} {s t : State}

/-- The blocks of the calls of a round. -/
theorem BlocksOk.append {evs : Trace} (h : BlocksOk s.trace) (more : nOutCount < nCount)
    (hevs : ∀ k ∈ blockSizes evs, k = blockSize nCount nOutCount) (ht : t.trace = s.trace ++ evs) :
    BlocksOk t.trace := by
  intro k hk
  rw [ht, blockSizes_append, List.mem_append] at hk
  rcases hk with hk | hk
  · exact h k hk
  · rw [hevs k hk]
    exact ⟨blockSize_pos more, blockSize_le⟩

/-- A round that leaves has made calls of one block, with at most one `read`. -/
theorem CopyCase.blocksOk {r : Round Int (Option Int)}
    (h : CopyCase nOutFd nInFd nCount nOutCount s r t) (hs : BlocksOk s.trace) :
    BlocksOk t.trace := by
  cases h with
  | finished => exact hs
  | unread _ res more _ _ _ htrace =>
    exact hs.append more (fun k hk => by simpa [blockSizes, Event.blockSize?] using hk) htrace
  | unsent _ bs res more _ full _ _ _ htrace =>
    refine hs.append more (fun k hk => ?_) htrace
    simpa [blockSizes, Event.blockSize?, full] using hk
  | copied _ bs more _ full _ _ _ _ htrace =>
    refine hs.append more (fun k hk => ?_) htrace
    simpa [blockSizes, Event.blockSize?, full] using hk

/-- **One round** stays in range. -/
theorem wp_sendFileRound_ranged (hcount : InInt32 nCount) (hmax : nCount ≠ 2147483647)
    (h : Ranged nCount sc (n + 1) nOutCount t) :
    wp (sendFileRound nOutFd nInFd nCount nOutCount)
      (Round.post (Ranged nCount sc n)
        (fun _ u => BlocksOk u.trace ∧ (readsIn u.trace).length ≤ blockCount nCount))
      (RangedStop nCount sc) t := by
  obtain ⟨hlower, hupper, hbound, hblocks, hmeasure, hreads, hsends⟩ := h
  -- a round that has something to copy is one of the rounds that are left
  have hleft : nOutCount < nCount → (readsIn t.trace).length + 1 ≤ blockCount nCount := fun more => by
    have := blocksLeft_again more
    omega
  refine wp_mono (fun r u hcase => ?_) (fun e u hstop => ?_)
    (wp_sendFileRound_case nOutFd nInFd nCount nOutCount t)
  · have hblocks' := hcase.blocksOk hblocks
    cases hcase with
    | finished enough => exact ⟨hblocks', by omega⟩
    | unread _ res more _ _ _ htrace =>
      refine ⟨hblocks', ?_⟩
      rw [htrace, readsIn_append, List.length_append]
      exact hleft more
    | unsent _ bs res more _ _ _ _ _ htrace =>
      refine ⟨hblocks', ?_⟩
      rw [htrace, readsIn_append, List.length_append]
      exact hleft more
    -- the `read` and the `send` of the round took one answer each
    | copied _ bs more _ _ answer sent hread hsend htrace =>
      have hpos := blockSize_pos more
      have hle : nOutCount + blockSize nCount nOutCount ≤ nCount := add_blockSize_le
      have hagain := blocksLeft_again more
      have hread' : t.os.script.read.length = u.os.script.read.length + 1 := by
        rw [hread, List.eq_cons_of_mem_head? answer]
        rfl
      have hsend' : t.os.script.send.length = u.os.script.send.length + 1 := by
        rw [hsend, List.eq_cons_of_mem_head? sent]
        rfl
      have hone : (readsIn u.trace).length = (readsIn t.trace).length + 1 := by
        rw [htrace, readsIn_append, List.length_append]
        rfl
      exact ⟨by omega, by omega, by omega, hblocks', by omega, by omega, by omega⟩
  -- it cannot be an overflow, so an answer was missing, and there are fewer than rounds
  · cases hstop with
    | difference _ more hout => exact absurd (inInt32_round hcount hmax hlower more).1 hout
    | sum _ more hout => exact absurd (inInt32_round hcount hmax hlower more).2 hout
    | reading _ more hnone htrace =>
      have := hleft more
      refine ⟨rfl, htrace ▸ hblocks, by rw [htrace]; omega, Or.inl ?_⟩
      rw [hreads, hnone, List.length_nil]
      omega
    | sending _ bs more full hnone htrace =>
      have := hleft more
      refine ⟨rfl, hblocks.append more (fun k hk => ?_) htrace, ?_, Or.inr ?_⟩
      · simpa [blockSizes, Event.blockSize?] using hk
      · rw [htrace, readsIn_append, List.length_append]
        exact this
      · rw [hsends, hnone, List.length_nil]
        omega

/-- **The loop.** The rounds it is given are enough. -/
theorem wp_sendFileLoop_ranged (hcount : InInt32 nCount) (hmax : nCount ≠ 2147483647)
    (h : Ranged nCount sc (t.os.script.read.length + 1) (-1) t) :
    wp (iter .waiting (sendFileRound nOutFd nInFd nCount) (t.os.script.read.length + 1) (-1))
      (fun _ u => BlocksOk u.trace ∧ (readsIn u.trace).length ≤ blockCount nCount)
      (RangedStop nCount sc) t := by
  refine wp_iter (Ranged nCount sc) (fun n c u hu => wp_sendFileRound_ranged hcount hmax hu)
    (fun c u hu => ?_) _ _ t h
  exact absurd hu.bound.symm (Nat.succ_ne_zero _)

/-- **`SendFile`**, unless the largest count meets a successful `lseek`. -/
theorem wp_sendFile_ranged {pOffset : Int} (hcount : InInt32 nCount) (hs : s.trace = [])
    (hmax : nCount = 2147483647 → ∀ u, s.os.script.lseek.head? ≠ some (.ok u)) :
    wp (sendFile nOutFd nInFd pOffset nCount)
      (fun _ t => BlocksOk t.trace ∧ (readsIn t.trace).length ≤ blockCount nCount)
      (fun e t => e = .waiting ∧ BlocksOk t.trace ∧ (readsIn t.trace).length ≤ blockCount nCount ∧
        (s.os.script.lseek = [] ∨ s.os.script.read.length < blockCount nCount ∨
          s.os.script.send.length < blockCount nCount)) s := by
  -- before the loop no block has been passed on
  have hnone : ∀ res, BlocksOk (s.trace ++ [.lseek nInFd pOffset res]) ∧
      readsIn (s.trace ++ [.lseek nInFd pOffset res]) = [] := by
    intro res
    rw [hs]
    exact ⟨fun k hk => by simp [blockSizes, Event.blockSize?] at hk, rfl⟩
  rw [sendFile, wp_bind, sysLseek, wp_issue_iff]
  refine ⟨fun hempty => ⟨rfl, ?_, ?_, Or.inl hempty⟩, fun res rest hq => ?_⟩
  · intro k hk
    rw [hs] at hk
    exact absurd hk List.not_mem_nil
  · rw [hs]
    exact Nat.zero_le _
  cases res with
  | fail e =>
    refine ⟨(hnone _).1, ?_⟩
    rw [State.answered_trace, (hnone _).2]
    exact Nat.zero_le _
  | ok u =>
    have hmax' : nCount ≠ 2147483647 := fun h => hmax h u (by rw [hq]; rfl)
    -- the loop starts with nothing read, and with all the answers of the script
    have hreads : (readsIn (s.trace ++ [.lseek nInFd pOffset (.ok u)])).length = 0 := by
      rw [(hnone _).2]
      rfl
    have hstart : Ranged nCount s.os.script (s.os.script.read.length + 1) (-1)
        (s.answered { s.os.script with lseek := rest } s.os.errno
          (.lseek nInFd pOffset (.ok u))) := by
      refine ⟨le_rfl, by omega, rfl, (hnone _).1, ?_, ?_, ?_⟩
      · rw [State.answered_trace, hreads, Nat.zero_add]
      · rw [State.answered_trace, hreads, Nat.zero_add]
        rfl
      · rw [State.answered_trace, hreads, Nat.zero_add]
        rfl
    rw [wp_bind, wp_script, wp_bind]
    refine wp_mono (fun r t h => ?_) (fun e t h => ?_) (wp_sendFileLoop_ranged hcount hmax' hstart)
    · cases r with
      | none => exact h
      | some c => exact h
    · exact ⟨h.waiting, h.blocksOk, h.rounds, Or.inr h.unanswered⟩

/-- The largest count overflows the first subtraction. -/
theorem wp_sendFile_overflow {pOffset : Int} {u : Unit}
    (hseek : s.os.script.lseek.head? = some (.ok u)) :
    wp (sendFile nOutFd nInFd pOffset 2147483647) (fun _ _ => False) (fun e _ => e = .overflow) s := by
  rw [sendFile, wp_bind, sysLseek, wp_issue_iff]
  refine ⟨fun hempty => ?_, fun res rest hq => ?_⟩
  · rw [hempty] at hseek
    cases hseek
  · rw [hq] at hseek
    cases hseek
    -- `nCount - nOutCount` is `2147483647 - (-1)` in the first round
    rw [wp_bind, wp_script, wp_bind, iter, wp_bind, sendFileRound, if_pos (by decide), wp_bind,
      wp_subInt32]
    exact ⟨fun hin => absurd hin (by decide), fun _ => rfl⟩

end

/-- **The block arithmetic is in range** unless the largest count meets a successful `lseek`. -/
theorem sendFile_inRange_iff {nOutFd nInFd pOffset nCount : Int} {self : CSimpleSocket} {os : Os}
    (hcount : InInt32 nCount) :
    InRange nCount os (call (sendFile nOutFd nInFd pOffset nCount) self os) ↔
      (nCount = 2147483647 → ∀ u, os.script.lseek.head? ≠ some (.ok u)) := by
  constructor
  · rintro h rfl u hseek
    -- the counter starts at -1, so that what is left before the first block is one more than fits
    have hover : wp (sendFile nOutFd nInFd pOffset 2147483647) (fun _ _ => False)
        (fun e _ => e = .overflow) ⟨self, os, []⟩ := wp_sendFile_overflow hseek
    cases hrun : call (sendFile nOutFd nInFd pOffset 2147483647) self os with
    | done r t => exact wp_done hover hrun
    | stop e t =>
      have hwhy := wp_stopped hover hrun
      have he : e = .overflow := hwhy
      subst he
      exact h.noOverflow t hrun
  · intro hmax
    -- whatever it is below the maximum, every sum and difference fits
    have hranged := @wp_sendFile_ranged nOutFd nInFd nCount ⟨self, os, []⟩ pOffset hcount rfl hmax
    cases hrun : call (sendFile nOutFd nInFd pOffset nCount) self os with
    | done r t =>
      obtain ⟨hblocks, hrounds⟩ := wp_done hranged hrun
      refine ⟨fun t' heq => ?_, hblocks, hrounds, fun e t' heq => ?_⟩
      · cases heq
      · cases heq
    | stop e t =>
      obtain ⟨rfl, hblocks, hrounds, hmissing⟩ := wp_stopped hranged hrun
      refine ⟨fun t' heq => ?_, hblocks, hrounds, fun e t' heq => hmissing⟩
      cases heq

/-- Nothing but a successful `lseek`. -/
def onlySeeks : Os := .idle { lseek := [.ok ()] }

/-- The largest count but one. -/
theorem sendFile_inRange_below :
    InRange 2147483646 onlySeeks (call (sendFile 5 6 0 2147483646) .zeroed onlySeeks) :=
  (sendFile_inRange_iff (by decide)).mpr fun h => absurd h (by decide)

/-- The largest count. -/
theorem sendFile_overflows : ∃ t,
    call (sendFile 5 6 0 2147483647) .zeroed onlySeeks = .stop .overflow t ∧
      ¬ InRange 2147483647 onlySeeks (call (sendFile 5 6 0 2147483647) .zeroed onlySeeks) :=
  ⟨_, rfl, fun h => h.noOverflow _ rfl⟩

end ClSocket
