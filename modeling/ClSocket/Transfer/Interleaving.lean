import ClSocket.Framework.Transition
import ClSocket.Transfer.SendFile

/-!
# Two `SendFile`s at once

`szData` is a `static` array of `SendFile`, so all calls in progress share it. A round of the loop
is two steps, a `read` into the front of the array and a `send` of the front of the array
(`sendFileRound_eq`), and between the two the other call may do as many steps as it likes.

`CopyStep` interleaves two calls so, each step being one of the two halves of the round, run in full.
`unmixed_iff` says which interleavings keep the data apart: those in which no `read` writes over
a block that the other call has yet to send (`Intrudes`). Along them the output of a call is a
stretch of its own file (`output_own`).

The invariant is `Ready`: of each block that is read and not yet sent the bytes are those at the
front of `szData`. Both calls may hold a block at once, as long as the two agree where they overlap.
-/

namespace ClSocket

open Prog CSimpleSocket

/-! ### The two halves of a round -/

/-- The first half: the size of the block and the `read`; `none` is the `return -1`. -/
def readHalf (nInFd nCount nOutCount : Int) : M (Option Int) := do
  let left ← subInt32 nCount nOutCount
  let nInCount := if left < SOCKET_SENDFILE_BLOCKSIZE then left else SOCKET_SENDFILE_BLOCKSIZE
  match ← sysRead nInFd nInCount with
  | .fail _ => return none
  | .ok bs =>
    fillData bs
    if (bs.length : Int) ≠ nInCount then return none else return some nInCount

/-- The second half: the `send` and the count. -/
def sendHalf (nOutFd nOutCount nInCount : Int) : M (Option Int) := do
  let data ← frontData nInCount
  let res ← sysSend nOutFd data
  if res.ret ≠ nInCount then return none
  else
    let nOutCount' ← addInt32 nOutCount nInCount
    return some nOutCount'

/-- **A round is its two halves** one after the other. -/
theorem sendFileRound_eq (nOutFd nInFd nCount nOutCount : Int) :
    sendFileRound nOutFd nInFd nCount nOutCount =
      if nOutCount < nCount then
        readHalf nInFd nCount nOutCount >>= fun r => r.elim (pure (.leave none)) fun nInCount =>
          sendHalf nOutFd nOutCount nInCount >>= fun c => pure (c.elim (.leave none) .again)
      else pure (.leave (some nOutCount)) := by
  unfold sendFileRound
  by_cases hmore : nOutCount < nCount
  · rw [if_pos hmore, if_pos hmore, readHalf, bind_assoc]
    -- `readHalf` ends with the check of the length, `sendHalf` with that of what was sent
    refine bind_congr fun left => ?_
    generalize (if left < SOCKET_SENDFILE_BLOCKSIZE then left
      else SOCKET_SENDFILE_BLOCKSIZE) = nInCount
    rw [bind_assoc]
    refine bind_congr fun res => ?_
    cases res with
    | fail e => rfl
    | ok bs =>
      simp only [bind_assoc]
      refine bind_congr fun _ => ?_
      -- a short read leaves the loop before anything is sent
      by_cases hshort : (bs.length : Int) ≠ nInCount
      · rw [if_pos hshort, if_pos hshort]
        rfl
      · rw [if_neg hshort, if_neg hshort]
        simp only [sendHalf, bind_assoc, pure_bind, Option.elim_some]
        refine bind_congr fun data => bind_congr fun res => ?_
        -- so does a short send
        by_cases hpart : res.ret ≠ nInCount
        · rw [if_pos hpart, if_pos hpart]
          rfl
        · rw [if_neg hpart, if_neg hpart]
          simp only [bind_assoc, pure_bind, Option.elim_some]
  · rw [if_neg hmore, if_neg hmore]

/-- A block that is read stands at the front of `szData`. -/
theorem wp_readHalf (nInFd nCount nOutCount : Int) (s : State) :
    wp (readHalf nInFd nCount nOutCount) (fun r t => ∀ nInCount, r = some nInCount → ∃ bs,
      t.trace = s.trace ++ [.read nInFd nInCount (.ok bs)] ∧ (bs.length : Int) = nInCount ∧
        t.os.szData = bs ++ s.os.szData.drop bs.length) (fun _ _ => True) s := by
  rw [readHalf, wp_bind, wp_subInt32]
  refine ⟨fun _ => ?_, fun _ => trivial⟩
  generalize (if nCount - nOutCount < SOCKET_SENDFILE_BLOCKSIZE then nCount - nOutCount
    else SOCKET_SENDFILE_BLOCKSIZE) = k
  rw [wp_bind, sysRead, wp_issue_iff]
  refine ⟨fun _ => trivial, fun res rest _ => ?_⟩
  cases res with
  | fail e =>
    intro nInCount h
    cases h
  | ok bs =>
    rw [wp_bind, wp_fillData, wp_ite]
    -- of a short block nothing is sent
    refine ⟨fun _ nInCount h => ?_, fun hfull nInCount h => ?_⟩
    · cases h
    · cases h
      exact ⟨bs, rfl, not_not.mp hfull, rfl⟩

/-- What is sent is the front of `szData`. -/
theorem wp_sendHalf (nOutFd nOutCount nInCount : Int) (s : State) :
    wp (sendHalf nOutFd nOutCount nInCount) (fun r t => ∀ c, r = some c → ∃ res,
      t.trace = s.trace ++ [.send nOutFd (s.os.szData.take nInCount.toNat) res] ∧
        t.os.szData = s.os.szData) (fun _ _ => True) s := by
  rw [sendHalf, wp_bind, wp_frontData, wp_bind, sysSend, wp_issue_iff]
  refine ⟨fun _ => trivial, fun res rest _ => ?_⟩
  rw [wp_ite]
  refine ⟨fun _ c h => ?_, fun _ => ?_⟩
  · cases h
  · rw [wp_bind, wp_addInt32]
    exact ⟨fun _ c _ => ⟨res, rfl, rfl⟩, fun _ => trivial⟩

/-! ### Two calls -/

/-- A call in progress. -/
structure Copier where
  nOutFd : Int
  nInFd : Int
  nCount : Int
  /-- What `nInFd` is open on, and the position it has there. -/
  file : Bytes
  position : ℕ
  nOutCount : Int
  /-- The block of the last `read`, until it is sent. -/
  held : Option Bytes

namespace Copier

/-- The next `n` bytes of the file. -/
def ahead (c : Copier) (n : Int) : Bytes := slice c.file c.position n.toNat

/-- After a `read` of them. -/
def loaded (c : Copier) (n : Int) : Copier :=
  { c with position := c.position + n.toNat, held := some (c.ahead n) }

/-- After a `send`. -/
def counted (c : Copier) (nOutCount : Int) : Copier :=
  { c with nOutCount := nOutCount, held := none }

end Copier

/-- Two calls and the array they share. -/
structure Shared where
  szData : Bytes
  copier : Bool → Copier

namespace Shared

variable (s : Shared) (i : Bool) (szData : Bytes) (c : Copier)

/-- The call `i` goes on to `c`, and leaves this in the array. -/
def advance : Shared := ⟨szData, Function.update s.copier i c⟩

@[simp] theorem advance_szData : (s.advance i szData c).szData = szData := rfl

@[simp] theorem advance_copier_self : (s.advance i szData c).copier i = c := by
  unfold advance
  exact Function.update_self _ _ _

@[simp] theorem advance_copier_of_ne {j : Bool} (h : j ≠ i) :
    (s.advance i szData c).copier j = s.copier j := by
  unfold advance
  exact Function.update_of_ne h _ _

end Shared

/-- What a step does: a `read` took these bytes, or a `send` put them out. -/
inductive Copy where
  | read (i : Bool) (bs : Bytes)
  | send (i : Bool) (data : Bytes)

/-- **A step of one of the calls**: half a round, run on the shared array, its call succeeding in
full. -/
inductive CopyStep : Shared → Copy → Shared → Prop where
  | read {s : Shared} (i : Bool) {self : CSimpleSocket} {os : Os} {nInCount : Int} {t : State}
      (idle : (s.copier i).held = none) (more : (s.copier i).nOutCount < (s.copier i).nCount)
      (memory : os.szData = s.szData)
      (hrun : call (readHalf (s.copier i).nInFd (s.copier i).nCount (s.copier i).nOutCount) self os =
        .done (some nInCount) t)
      (inFull : t.trace = [.read (s.copier i).nInFd nInCount (.ok ((s.copier i).ahead nInCount))]) :
      CopyStep s (.read i ((s.copier i).ahead nInCount))
        (s.advance i t.os.szData ((s.copier i).loaded nInCount))
  | send {s : Shared} (i : Bool) {self : CSimpleSocket} {os : Os} {b data : Bytes} {c : Int}
      {t : State} (holds : (s.copier i).held = some b) (memory : os.szData = s.szData)
      (hrun : call (sendHalf (s.copier i).nOutFd (s.copier i).nOutCount b.length) self os =
        .done (some c) t)
      (inFull : t.trace = [.send (s.copier i).nOutFd data (.ok data.length)]) :
      CopyStep s (.send i data) (s.advance i t.os.szData ((s.copier i).counted c))

/-- What a `send` of each block that is held would put out is that block. -/
def Ready (s : Shared) : Prop :=
  ∀ i b, (s.copier i).held = some b → s.szData.take b.length = b

/-- **The property**: a block that is sent is the one its call has read, and so is each that
could be sent next. -/
structure Unmixed (s : Shared) (a : Copy) (s' : Shared) : Prop where
  sent : ∀ i data, a = .send i data → (s.copier i).held = some data
  ready : Ready s'

/-- **The defect**: a `read` writes other bytes over a block that is still to be sent. -/
def Intrudes (s : Shared) (a : Copy) : Prop :=
  ∃ i bs b, a = .read i bs ∧ (s.copier (!i)).held = some b ∧ bs.take b.length ≠ b.take bs.length

/-- A block at the front of an array is still there after another has been written to the front
exactly when the two agree where they overlap. -/
theorem take_overwritten {mem b bs : Bytes} (hb : mem.take b.length = b) :
    (bs ++ mem.drop bs.length).take b.length = b ↔ bs.take b.length = b.take bs.length := by
  have hrest : (mem.drop bs.length).take (b.length - bs.length) = b.drop bs.length := by
    rw [← List.drop_take, hb]
  -- what the shorter of the two does not cover is left of the older block
  rw [List.take_append, hrest]
  constructor
  · intro h
    have hsplit : bs.take b.length ++ b.drop bs.length = b.take bs.length ++ b.drop bs.length := by
      rw [h, List.take_append_drop]
    exact List.append_cancel_right hsplit
  · intro h
    rw [h, List.take_append_drop]

/-- A `read` puts its block at the front, and leaves the other call alone. -/
theorem ready_after_read {s : Shared} {i : Bool} {bs : Bytes} {c : Copier}
    (hs : Ready s) (hheld : c.held = some bs) :
    Ready (s.advance i (bs ++ s.szData.drop bs.length) c) ↔
      ∀ b, (s.copier (!i)).held = some b → bs.take b.length = b.take bs.length := by
  have hother : (s.advance i (bs ++ s.szData.drop bs.length) c).copier (!i) = s.copier (!i) :=
    s.advance_copier_of_ne i _ c (Bool.not_ne_self i)
  constructor
  · intro h b hb
    -- the other block is still at the front, under the new one
    have hfront := h (!i) b (by rw [hother]; exact hb)
    exact (take_overwritten (hs (!i) b hb)).mp hfront
  · intro h j b hb
    by_cases hj : j = i
    · -- its own block
      subst hj
      rw [Shared.advance_copier_self, hheld] at hb
      cases hb
      exact List.take_left
    · -- the block of the other call
      obtain rfl : j = !i := by
        cases i <;> cases j <;> first | rfl | exact absurd rfl hj
      rw [hother] at hb
      exact (take_overwritten (hs (!i) b hb)).mpr (h b hb)

/-- **One step** keeps the data apart exactly when it does not intrude. -/
theorem CopyStep.apart_iff {s s' : Shared} {a : Copy} (h : CopyStep s a s') (hs : Ready s) :
    Unmixed s a s' ↔ ¬ Intrudes s a := by
  cases h with
  | @read i self os nInCount t idle more memory hrun inFull =>
    obtain ⟨bs, htrace, hlen, hmem⟩ := wp_call (wp_readHalf _ _ _ _) hrun nInCount rfl
    -- the bytes of the trace are those of the file
    have hbs : bs = (s.copier i).ahead nInCount := by
      rw [inFull] at htrace
      simpa using htrace.symm
    have hmem : t.os.szData = bs ++ s.szData.drop bs.length := by
      rw [hmem, ← memory]
    rw [← hbs, hmem]
    have hready := @ready_after_read s i bs ((s.copier i).loaded nInCount) hs (by rw [hbs]; rfl)
    constructor
    · rintro hun ⟨j, bs', b, ha, hheld, hne⟩
      cases ha
      exact hne (hready.mp hun.ready b hheld)
    · intro hno
      refine ⟨fun j data ha => ?_, hready.mpr fun b hheld => ?_⟩
      · cases ha
      · by_contra hne
        exact hno ⟨i, bs, b, rfl, hheld, hne⟩
  | @send i self os b data c t holds memory hrun inFull =>
    obtain ⟨res, htrace, hmem⟩ := wp_call (wp_sendHalf _ _ _ _) hrun c rfl
    -- the block it holds is still at the front of the array
    have hfront : os.szData.take (b.length : Int).toNat = b := by
      rw [memory, Int.toNat_natCast]
      exact hs i b holds
    have hdata : data = b := by
      rw [inFull] at htrace
      have hcall : data = os.szData.take (b.length : Int).toNat ∧ Answer.ok data.length = res := by
        simpa using htrace
      exact hcall.1.trans hfront
    refine iff_of_true ⟨fun j data' ha => ?_, fun j b' hb' => ?_⟩ ?_
    · cases ha
      rw [hdata]
      exact holds
    · -- the array is as it was, and no more blocks are held
      have hb' : (s.copier j).held = some b' := by
        by_cases hj : j = i
        · subst hj
          rw [Shared.advance_copier_self] at hb'
          cases hb'
        · rwa [Shared.advance_copier_of_ne _ _ _ _ hj] at hb'
      rw [Shared.advance_szData, hmem, show os.szData = s.szData from memory]
      exact hs j b' hb'
    · rintro ⟨j, bs, b', ha, -⟩
      cases ha

/-- **The data of two calls are not mixed** exactly when no step intrudes. -/
theorem unmixed_iff {s t : Shared} {steps : List (Taken Shared Copy)}
    (hstart : ∀ i, (s.copier i).held = none) (hrun : Run CopyStep s steps t) :
    (∀ x ∈ steps, Unmixed x.pre x.label x.post) ↔ ∀ x ∈ steps, ¬ Intrudes x.pre x.label := by
  have hready : Ready s := fun i b hb => by
    rw [hstart i] at hb
    cases hb
  exact Run.forall_iff Ready Unmixed (fun s a _ => ¬ Intrudes s a)
    (fun _ _ _ h hs => h.apart_iff hs) (fun _ _ _ h hs hc => ((h.apart_iff hs).mpr hc).ready)
    hrun hready

/-! ### The output of a call -/

/-- What the steps put out for the call `i`. -/
def sentBy (i : Bool) (steps : List (Taken Shared Copy)) : Bytes :=
  (steps.filterMap fun x => match x.label with
    | .send j data => if j = i then some data else none
    | .read _ _ => none).flatten

/-- The block that is held, if any. -/
abbrev Copier.pending (c : Copier) : Bytes := c.held.getD []

/-- The bytes of the file from one position to a later one. -/
def Copier.between (c d : Copier) : Bytes := slice c.file c.position (d.position - c.position)

/-- A step of a call, or of the other one, seen from the call `i`: what it held and takes from the
file is what it puts out and holds. -/
theorem CopyStep.own {s s' : Shared} {a : Copy} (h : CopyStep s a s') (hun : Unmixed s a s')
    (i : Bool) : (s'.copier i).file = (s.copier i).file ∧
      (s.copier i).position ≤ (s'.copier i).position ∧
      (s.copier i).pending ++ (s.copier i).between (s'.copier i) =
        sentBy i [⟨s, a, s'⟩] ++ (s'.copier i).pending := by
  cases h with
  | @read j self os nInCount t idle more memory hrun inFull =>
    by_cases hj : i = j
    · subst hj
      rw [Shared.advance_copier_self]
      refine ⟨rfl, Nat.le_add_right _ _, ?_⟩
      simp [Copier.pending, Copier.between, Copier.loaded, Copier.ahead, sentBy, idle]
    · rw [Shared.advance_copier_of_ne _ _ _ _ hj]
      refine ⟨rfl, le_rfl, ?_⟩
      simp [Copier.between, slice, sentBy]
  | @send j self os b data c t holds memory hrun inFull =>
    by_cases hj : i = j
    · subst hj
      -- unmixed, the bytes sent are those of the block that was held
      have hheld : (s.copier i).held = some data := hun.sent i data rfl
      rw [Shared.advance_copier_self]
      refine ⟨rfl, le_rfl, ?_⟩
      simp [Copier.pending, Copier.between, Copier.counted, slice, sentBy, hheld]
    · rw [Shared.advance_copier_of_ne _ _ _ _ hj]
      refine ⟨rfl, le_rfl, ?_⟩
      have hne : ¬ j = i := fun h => hj h.symm
      simp [Copier.between, slice, sentBy, hne]

/-- **The output of a call** whose data are not mixed is a stretch of its own file: with the block
it still holds it is what lies between the positions it started and ended at. -/
theorem output_own {s t : Shared} {steps : List (Taken Shared Copy)}
    (hrun : Run CopyStep s steps t) (hun : ∀ x ∈ steps, Unmixed x.pre x.label x.post) (i : Bool) :
    (t.copier i).file = (s.copier i).file ∧ (s.copier i).position ≤ (t.copier i).position ∧
      (s.copier i).pending ++ (s.copier i).between (t.copier i) =
        sentBy i steps ++ (t.copier i).pending := by
  -- on the run; a step moves bytes from the file to the block, or from the block to the output
  induction hrun with
  | nil s =>
    refine ⟨rfl, le_rfl, ?_⟩
    simp [Copier.between, slice, sentBy]
  | @cons s s' t a steps hstep _ ih =>
    rw [List.forall_mem_cons] at hun
    obtain ⟨hfile, hle, hout⟩ := hstep.own hun.1 i
    obtain ⟨hfile', hle', hout'⟩ := ih hun.2
    refine ⟨hfile'.trans hfile, hle.trans hle', ?_⟩
    -- the stretch of the first step and that of the others
    have hsplit : (s.copier i).between (t.copier i) =
        (s.copier i).between (s'.copier i) ++ (s'.copier i).between (t.copier i) := by
      have hposition : (s.copier i).position + ((s'.copier i).position - (s.copier i).position) =
          (s'.copier i).position := by omega
      have hlength : (t.copier i).position - (s.copier i).position =
          ((s'.copier i).position - (s.copier i).position) +
            ((t.copier i).position - (s'.copier i).position) := by omega
      unfold Copier.between
      rw [hlength, ← slice_append, hposition, hfile]
    have hsent : sentBy i (⟨s, a, s'⟩ :: steps) = sentBy i [⟨s, a, s'⟩] ++ sentBy i steps := by
      unfold sentBy
      rw [← List.flatten_append, ← List.filterMap_append]
      rfl
    calc (s.copier i).pending ++ (s.copier i).between (t.copier i)
        = ((s.copier i).pending ++ (s.copier i).between (s'.copier i)) ++
            (s'.copier i).between (t.copier i) := by rw [hsplit, List.append_assoc]
      _ = sentBy i [⟨s, a, s'⟩] ++ ((s'.copier i).pending ++
            (s'.copier i).between (t.copier i)) := by rw [hout, List.append_assoc]
      _ = sentBy i [⟨s, a, s'⟩] ++ (sentBy i steps ++ (t.copier i).pending) := by rw [hout']
      _ = sentBy i (⟨s, a, s'⟩ :: steps) ++ (t.copier i).pending := by
          rw [hsent, List.append_assoc]

/-! ### Two calls of one block each -/

/-- A call about to read the one byte of its file. -/
def copierOf (nInFd nOutFd : Int) (byte : UInt8) : Copier where
  nOutFd := nOutFd
  nInFd := nInFd
  nCount := 0
  file := [byte]
  position := 0
  nOutCount := -1
  held := none

/-- Two such calls, of different files. -/
def twoCopiers : Shared := ⟨[0, 0], fun i => if i then copierOf 5 6 2 else copierOf 3 4 1⟩

/-- A process with this array and these answers. -/
def withData (szData : Bytes) (script : Script) : Os := { Os.idle script with szData := szData }

/-- After the first call's `read`. -/
def firstRead : Shared := twoCopiers.advance false [1, 0] ((copierOf 3 4 1).loaded 1)

/-- After its `send` right away. -/
def firstSent : Shared := firstRead.advance false [1, 0] (((copierOf 3 4 1).loaded 1).counted 0)

/-- After the second call's `read` instead. -/
def bothRead : Shared := firstRead.advance true [2, 0] ((copierOf 5 6 2).loaded 1)

/-- After the first call's `send` then. -/
def mixedSent : Shared := bothRead.advance false [2, 0] (((copierOf 3 4 1).loaded 1).counted 0)

theorem step_firstRead : CopyStep twoCopiers (.read false [1]) firstRead :=
  @CopyStep.read twoCopiers false .zeroed (withData [0, 0] { read := [.ok [1]] }) 1 _ rfl
    (by decide) rfl rfl rfl

theorem step_firstSent : CopyStep firstRead (.send false [1]) firstSent :=
  @CopyStep.send firstRead false .zeroed (withData [1, 0] { send := [.ok 1] }) [1] [1] 0 _ rfl rfl
    rfl rfl

theorem step_bothRead : CopyStep firstRead (.read true [2]) bothRead :=
  @CopyStep.read firstRead true .zeroed (withData [1, 0] { read := [.ok [2]] }) 1 _ rfl
    (by decide) rfl rfl rfl

theorem step_mixedSent : CopyStep bothRead (.send false [2]) mixedSent :=
  @CopyStep.send bothRead false .zeroed (withData [2, 0] { send := [.ok 1] }) [1] [2] 0 _ rfl rfl
    rfl rfl

/-- One call after the other. -/
def inTurn : List (Taken Shared Copy) :=
  [⟨twoCopiers, .read false [1], firstRead⟩, ⟨firstRead, .send false [1], firstSent⟩]

/-- Their data are not mixed. -/
theorem unmixed_inTurn : Run CopyStep twoCopiers inTurn firstSent ∧
    ∀ x ∈ inTurn, Unmixed x.pre x.label x.post := by
  have hrun : Run CopyStep twoCopiers inTurn firstSent :=
    .cons step_firstRead (.cons step_firstSent (.nil _))
  refine ⟨hrun, (unmixed_iff (fun i => by cases i <;> rfl) hrun).mpr fun x hx => ?_⟩
  rintro ⟨i, bs, b, hread, hheld, -⟩
  rcases List.mem_cons.mp hx with rfl | hx
  · -- the other call holds nothing
    cases hread
    cases hheld
  · obtain rfl := List.mem_singleton.mp hx
    cases hread

/-- The `read` of one between the `read` and the `send` of the other. -/
def crossing : List (Taken Shared Copy) :=
  [⟨twoCopiers, .read false [1], firstRead⟩, ⟨firstRead, .read true [2], bothRead⟩,
    ⟨bothRead, .send false [2], mixedSent⟩]

/-- The first call sends what the second has read. -/
theorem mixed_crossing : Run CopyStep twoCopiers crossing mixedSent ∧
    ¬ ∀ x ∈ crossing, Unmixed x.pre x.label x.post := by
  refine ⟨.cons step_firstRead (.cons step_bothRead (.cons step_mixedSent (.nil _))), fun h => ?_⟩
  have hsent := (h ⟨bothRead, .send false [2], mixedSent⟩ (by simp [crossing])).sent false [2] rfl
  have hheld : (bothRead.copier false).held = some [1] := rfl
  rw [hheld] at hsent
  exact absurd hsent (by decide)

end ClSocket
