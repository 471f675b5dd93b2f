import ClSocket.Method.Quiet

/-!
# A round of `SendFile`

`CopyCase` lists the ways a round of the loop of `SendFile` can go: the count is reached, the
`read` fails or is short, the `send` is, or a whole block is copied. A block that is sent is the
block that was read just before, because the two calls share the front of `szData` and nothing
comes between them.

The size of a block is `blockSize`, of which `blockSize_pos` and `blockSize_le` say that it is
positive and fits `szData` and what is left.
-/

namespace ClSocket

open Prog CSimpleSocket

/-- `nInCount`. -/
def blockSize (nCount nOutCount : Int) : Int :=
  if nCount - nOutCount < SOCKET_SENDFILE_BLOCKSIZE then nCount - nOutCount
  else SOCKET_SENDFILE_BLOCKSIZE

section

variable {nCount nOutCount : Int}

theorem blockSize_pos (h : nOutCount < nCount) : 0 < blockSize nCount nOutCount := by
  unfold blockSize SOCKET_SENDFILE_BLOCKSIZE
  split <;> omega

theorem blockSize_le : blockSize nCount nOutCount ≤ SOCKET_SENDFILE_BLOCKSIZE := by
  unfold blockSize
  split <;> omega

theorem add_blockSize_le : nOutCount + blockSize nCount nOutCount ≤ nCount := by
  unfold blockSize
  split <;> omega

end

/-- **The outcomes of a round.** -/
inductive CopyCase (nOutFd nInFd nCount nOutCount : Int) (s : State) :
    Round Int (Option Int) → State → Prop where
  /-- The count is reached. -/
  | finished (enough : nCount ≤ nOutCount) :
      CopyCase nOutFd nInFd nCount nOutCount s (.leave (some nOutCount)) s
  /-- The block could not be read. -/
  | unread (t : State) (res : Answer Bytes) (more : nOutCount < nCount) (self_eq : t.self = s.self)
      (answer : s.os.script.read.head? = some res)
      (short : ∀ bs, res = .ok bs → (bs.length : Int) ≠ blockSize nCount nOutCount)
      (trace_eq : t.trace = s.trace ++ [.read nInFd (blockSize nCount nOutCount) res]) :
      CopyCase nOutFd nInFd nCount nOutCount s (.leave none) t
  /-- It was read, and not sent in full. -/
  | unsent (t : State) (bs : Bytes) (res : Answer ℕ) (more : nOutCount < nCount)
      (self_eq : t.self = s.self) (full : (bs.length : Int) = blockSize nCount nOutCount)
      (answer : s.os.script.read.head? = some (.ok bs))
      (sent : s.os.script.send.head? = some res)
      (short : res.ret ≠ blockSize nCount nOutCount)
      (trace_eq : t.trace = s.trace ++
        [.read nInFd (blockSize nCount nOutCount) (.ok bs), .send nOutFd bs res]) :
      CopyCase nOutFd nInFd nCount nOutCount s (.leave none) t
  /-- It was copied. -/
  | copied (t : State) (bs : Bytes) (more : nOutCount < nCount) (self_eq : t.self = s.self)
      (full : (bs.length : Int) = blockSize nCount nOutCount)
      (answer : s.os.script.read.head? = some (.ok bs))
      (sent : s.os.script.send.head? = some (.ok bs.length))
      (read_eq : t.os.script.read = s.os.script.read.tail)
      (send_eq : t.os.script.send = s.os.script.send.tail)
      (trace_eq : t.trace = s.trace ++ [.read nInFd (blockSize nCount nOutCount) (.ok bs),
        .send nOutFd bs (.ok bs.length)]) :
      CopyCase nOutFd nInFd nCount nOutCount s (.again (nOutCount + blockSize nCount nOutCount)) t

/-- **Why a round does not end**: a difference or a sum overflows, or an answer is missing. -/
inductive CopyStop (nInFd nCount nOutCount : Int) (s : State) : Stop → State → Prop where
  | difference (t : State) (more : nOutCount < nCount) (out : ¬ InInt32 (nCount - nOutCount)) :
      CopyStop nInFd nCount nOutCount s .overflow t
  | sum (t : State) (more : nOutCount < nCount)
      (out : ¬ InInt32 (nOutCount + blockSize nCount nOutCount)) :
      CopyStop nInFd nCount nOutCount s .overflow t
  | reading (t : State) (more : nOutCount < nCount) (none : s.os.script.read = [])
      (trace_eq : t.trace = s.trace) : CopyStop nInFd nCount nOutCount s .waiting t
  | sending (t : State) (bs : Bytes) (more : nOutCount < nCount)
      (full : (bs.length : Int) = blockSize nCount nOutCount) (none : s.os.script.send = [])
      (trace_eq : t.trace = s.trace ++ [.read nInFd (blockSize nCount nOutCount) (.ok bs)]) :
      CopyStop nInFd nCount nOutCount s .waiting t

/-- The call of `send`, the block having been read. -/
theorem wp_sendBlock {nOutFd nInFd nCount nOutCount : Int} {s u : State} {bs : Bytes}
    (more : nOutCount < nCount) (full : (bs.length : Int) = blockSize nCount nOutCount)
    (answer : s.os.script.read.head? = some (.ok bs)) (hself : u.self = s.self)
    (hread : u.os.script.read = s.os.script.read.tail)
    (hsend : u.os.script.send = s.os.script.send)
    (htrace : u.trace = s.trace ++ [.read nInFd (blockSize nCount nOutCount) (.ok bs)]) :
    wp (do
      let res ← sysSend nOutFd bs
      if res.ret ≠ blockSize nCount nOutCount then return .leave none
      else
        let nOutCount' ← addInt32 nOutCount (blockSize nCount nOutCount)
        return .again nOutCount')
      (CopyCase nOutFd nInFd nCount nOutCount s) (CopyStop nInFd nCount nOutCount s) u := by
  rw [wp_bind, sysSend, wp_issue_iff]
  refine ⟨fun hempty => .sending u bs more full (hsend ▸ hempty) htrace, fun res rest hq => ?_⟩
  have hsent : s.os.script.send.head? = some res := by
    rw [← hsend, hq]
    rfl
  rw [wp_ite]
  refine ⟨fun hshort => ?short, fun hfull => ?whole⟩
  case short =>
    refine .unsent _ bs res more hself full answer hsent hshort ?_
    simp [htrace]
  case whole =>
    -- the answer is the length of the block
    have hres : res = .ok bs.length := by
      have hret : res.ret = bs.length := (not_not.mp hfull).trans full.symm
      cases res with
      | ok k => exact congrArg Answer.ok (Int.ofNat_inj.mp hret)
      | fail e =>
        have := blockSize_pos more
        rw [Answer.ret_fail] at hret
        omega
    subst hres
    rw [wp_bind, wp_addInt32]
    refine ⟨fun _ => ?_, fun hout => .sum _ more hout⟩
    refine .copied _ bs more hself full answer hsent hread ?_ ?_
    · show rest = s.os.script.send.tail
      rw [← hsend, hq]
      rfl
    · simp [htrace]

/-- **A round** goes one of these ways. -/
theorem wp_sendFileRound_case (nOutFd nInFd nCount nOutCount : Int) (s : State) :
    wp (sendFileRound nOutFd nInFd nCount nOutCount) (CopyCase nOutFd nInFd nCount nOutCount s)
      (CopyStop nInFd nCount nOutCount s) s := by
  rw [sendFileRound, wp_ite]
  refine ⟨fun more => ?_, fun enough => .finished (not_lt.mp enough)⟩
  rw [wp_bind, wp_subInt32]
  refine ⟨fun _ => ?_, fun hout => .difference _ more hout⟩
  have hblock : (if nCount - nOutCount < SOCKET_SENDFILE_BLOCKSIZE then nCount - nOutCount
      else SOCKET_SENDFILE_BLOCKSIZE) = blockSize nCount nOutCount := rfl
  rw [hblock]
  rw [wp_bind, sysRead, wp_issue_iff]
  refine ⟨fun hempty => .reading _ more hempty rfl, fun res rest hq => ?_⟩
  have hanswer : s.os.script.read.head? = some res := by
    rw [hq]
    rfl
  cases res with
  | fail e => exact .unread _ _ more rfl hanswer (fun _ h => by cases h) rfl
  | ok bs =>
    rw [wp_bind, wp_fillData, wp_ite]
    refine ⟨fun hshort => ?short, fun hfull => ?whole⟩
    case short =>
      refine .unread _ _ more rfl hanswer (fun bs' h => ?_) rfl
      cases h
      exact hshort
    case whole =>
      have full : (bs.length : Int) = blockSize nCount nOutCount := not_not.mp hfull
      -- what is sent is the front of `szData`, which is the block just read
      have hfront : (bs ++ s.os.szData.drop bs.length).take (blockSize nCount nOutCount).toNat =
          bs := by
        rw [List.take_append_of_le_length (by omega), List.take_of_length_le (by omega)]
      rw [wp_bind, wp_frontData, dataFilled_szData]
      simp only [State.answered, hfront]
      exact wp_sendBlock more full hanswer rfl (by simp [hq]) rfl rfl

end ClSocket
