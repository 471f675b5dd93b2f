import ClSocket.Transfer.SendFile

/-!
# Resuming a `SendFile` that failed

`SendFile` returns `-1` from the middle of its loop, and the update of `*pOffset` stands after the
loop. So a failure leaves `*pOffset` where it was however many blocks have gone out, and
repeating the call from there repeats them. A negative count is the other way for it to
return `-1`: the counter, which starts at the error value, is what it returns and also what it
adds to the offset.

`sendFile_resumable_iff` says that the offset is right after a return of `-1` only when `lseek`
failed or nothing of the first block went out (`NothingSent`). The loop invariant is
`Progress`: before the first block nothing is out and the answers are those of the start;
after it something is, and stays.
-/

namespace ClSocket

open Prog CSimpleSocket

/-- Nothing of the first block goes out: its `read` fails or is short, or its `send` takes no
byte. -/
def NothingSent (nCount : Int) (sc : Script) : Prop :=
  (∀ bs, sc.read.head? = some (.ok bs) → (bs.length : Int) ≠ blockSize nCount (-1)) ∨
    ∀ k, sc.send.head? = some (.ok k) → k = 0

/-- **The condition** on the arguments and the answers. -/
def Resumable (nCount : Int) (sc : Script) : Prop :=
  (∃ e, sc.lseek.head? = some (.fail e)) ∨ 0 ≤ nCount ∧ NothingSent nCount sc

/-- **The loop before a round.** -/
inductive Progress (nOutFd nCount : Int) (sc : Script) : Int → State → Prop where
  | fresh (t : State) (emitted : emittedOn nOutFd t.trace = [])
      (read_eq : t.os.script.read = sc.read) (send_eq : t.os.script.send = sc.send) :
      Progress nOutFd nCount sc (-1) t
  | moved (nOutCount : Int) (t : State) (counted : 0 ≤ nOutCount)
      (emitted : emittedOn nOutFd t.trace ≠ []) (sent : ¬ NothingSent nCount sc) :
      Progress nOutFd nCount sc nOutCount t

/-- **How the loop ends.** -/
def Left (nOutFd nCount : Int) (sc : Script) : Option Int → State → Prop
  | none, t => 0 ≤ nCount ∧ (emittedOn nOutFd t.trace = [] ↔ NothingSent nCount sc)
  | some nOutCount, t => 0 ≤ nOutCount ∨
      nCount < 0 ∧ nOutCount = -1 ∧ emittedOn nOutFd t.trace = []

/-- The part of a block that a `send` took. -/
def sentPart (bs : Bytes) : Answer ℕ → Bytes
  | .ok n => bs.take n
  | .fail _ => []

/-- What a `read` and a `send` put out. -/
theorem emittedOn_block {fd nInFd k : Int} {bs : Bytes} {r : Answer Bytes} {res : Answer ℕ} :
    emittedOn fd [.read nInFd k r, .send fd bs res] = sentPart bs res := by
  cases res <;> simp [Event.emitted?, sentPart]

/-- The first block: what is out after it, when it was read in full. -/
theorem nothingSent_iff {nCount : Int} {sc : Script} {bs : Bytes}
    (hread : sc.read.head? = some (.ok bs)) (hfull : (bs.length : Int) = blockSize nCount (-1)) :
    NothingSent nCount sc ↔ ∀ k, sc.send.head? = some (.ok k) → k = 0 := by
  refine ⟨fun h => h.resolve_left fun hshort => ?_, Or.inr⟩
  exact hshort bs hread hfull

/-- **One round** makes progress or leaves. -/
theorem wp_sendFileRound_progress {nOutFd nInFd nCount nOutCount : Int} {sc : Script} {t : State}
    (h : Progress nOutFd nCount sc nOutCount t) :
    wp (sendFileRound nOutFd nInFd nCount nOutCount)
      (Round.post (Progress nOutFd nCount sc) (Left nOutFd nCount sc)) (fun _ _ => True) t := by
  refine wp_mono (fun r u hcase => ?_) (fun _ _ _ => trivial)
    (wp_sendFileRound_case nOutFd nInFd nCount nOutCount t)
  cases hcase with
  -- the first block is always due, except for a negative count
  | finished enough =>
    cases h with
    | fresh _ hemit hread hsend => exact Or.inr ⟨by omega, rfl, hemit⟩
    | moved _ _ hcounted => exact Or.inl hcounted
  -- nothing new went out; what is in `Progress` decides
  | unread _ res more _ answer short htrace =>
    have hemit : emittedOn nOutFd u.trace = emittedOn nOutFd t.trace := by
      rw [htrace, emittedOn_append]
      simp [Event.emitted?]
    cases h with
    | fresh _ hnothing hread hsend =>
      refine ⟨by omega, iff_of_true (hemit.trans hnothing) (Or.inl fun bs hbs => ?_)⟩
      rw [← hread, answer] at hbs
      exact short bs (Option.some.inj hbs)
    | moved _ _ hcounted hsome hsent =>
      exact ⟨by omega, iff_of_false (fun hnil => hsome (hemit.symm.trans hnil)) hsent⟩
  | unsent _ bs res more _ full answer sent short htrace =>
    have hemit : emittedOn nOutFd u.trace = emittedOn nOutFd t.trace ++ sentPart bs res := by
      rw [htrace, emittedOn_append, emittedOn_block]
    cases h with
    | fresh _ hnothing hread hsend =>
      rw [hread] at answer
      rw [hsend] at sent
      rw [hnothing, List.nil_append] at hemit
      have hpos : 0 < bs.length := by
        have := blockSize_pos more
        omega
      refine ⟨by omega, ?_⟩
      rw [nothingSent_iff answer full, hemit, sent]
      -- of a block that is not empty, nothing is out exactly when no byte was taken
      cases res with
      | ok k =>
        have hne : bs ≠ [] := List.ne_nil_of_length_pos hpos
        simp [sentPart, hne]
      | fail e => simp [sentPart]
    -- an earlier block is out, whatever became of this one
    | moved _ _ hcounted hsome hsent =>
      refine ⟨by omega, iff_of_false (fun hnil => hsome ?_) hsent⟩
      rw [hemit] at hnil
      exact (List.append_eq_nil_iff.mp hnil).1
  | copied _ bs more _ full answer sent _ _ htrace =>
    have hemit : emittedOn nOutFd u.trace = emittedOn nOutFd t.trace ++ bs := by
      rw [htrace, emittedOn_append, emittedOn_block, sentPart, List.take_length]
    have hpos := blockSize_pos more
    have hne : emittedOn nOutFd u.trace ≠ [] := by
      rw [hemit]
      exact List.append_ne_nil_of_right_ne_nil _ (List.ne_nil_of_length_pos (by omega))
    cases h with
    | fresh _ hnothing hread hsend =>
      rw [hread] at answer
      rw [hsend] at sent
      refine .moved _ u (by omega) hne fun hno => ?_
      have hzero := (nothingSent_iff answer full).mp hno _ sent
      omega
    | moved _ _ hcounted _ hsent => exact .moved _ u (by omega) hne hsent

/-- **The loop.** -/
theorem wp_sendFileLoop_progress {nOutFd nInFd nCount : Int} {sc : Script} {t : State}
    (h : Progress nOutFd nCount sc (-1) t) (n : ℕ) :
    wp (iter .waiting (sendFileRound nOutFd nInFd nCount) n (-1)) (Left nOutFd nCount sc)
      (fun _ _ => True) t :=
  wp_iter (fun _ => Progress nOutFd nCount sc) (fun _ _ _ h => wp_sendFileRound_progress h)
    (fun _ _ _ => trivial) n (-1) t h

/-- **`SendFile`**: where it leaves `*pOffset` when it returns `-1`. -/
theorem wp_sendFile_resumable {nOutFd nInFd pOffset nCount : Int} {s : State} (hs : s.trace = []) :
    wp (sendFile nOutFd nInFd pOffset nCount) (fun r t => r.1 = -1 →
      (r.2 = pOffset + (emittedOn nOutFd t.trace).length ↔ Resumable nCount s.os.script))
      (fun _ _ => True) s := by
  rw [sendFile, wp_bind, sysLseek, wp_issue_iff]
  refine ⟨fun _ => trivial, fun res rest hq => ?_⟩
  cases res with
  | fail e =>
    intro _
    refine iff_of_true ?_ (Or.inl ⟨e, ?_⟩)
    · simp [hs, Event.emitted?]
    · rw [hq]
      rfl
  | ok _ =>
    -- past a successful `lseek` it is the loop that decides
    have hseek : Resumable nCount s.os.script ↔ 0 ≤ nCount ∧ NothingSent nCount s.os.script := by
      refine ⟨fun h => h.resolve_left fun hfail => ?_, Or.inr⟩
      obtain ⟨e, he⟩ := hfail
      rw [hq] at he
      cases he
    have hstart : Progress nOutFd nCount s.os.script (-1)
        (s.answered { s.os.script with lseek := rest } s.os.errno (.lseek nInFd pOffset (.ok ()))) := by
      refine .fresh _ ?_ rfl rfl
      simp [hs, Event.emitted?]
    rw [wp_bind, wp_script, wp_bind]
    refine wp_mono (fun r t h => ?_) (fun _ _ h => h) (wp_sendFileLoop_progress hstart _)
    rw [hseek]
    cases r with
    | none =>
      intro _
      rw [and_iff_right h.1, ← h.2]
      show pOffset = pOffset + ((emittedOn nOutFd t.trace).length : Int) ↔ _
      rw [← List.length_eq_zero_iff]
      omega
    | some nOutCount =>
      rw [wp_bind, wp_translateSocketError, wp_pure]
      intro hreturned
      have hreturned : nOutCount = -1 := hreturned
      -- the normal exit returns `-1` for a negative count alone, and moves the offset back
      rcases h with hcounted | ⟨hneg, -, hnothing⟩
      · omega
      · refine iff_of_false ?_ fun hc => by omega
        show ¬ pOffset + nOutCount = pOffset + ((emittedOn nOutFd t.trace).length : Int)
        omega

/-- **A failed `SendFile` can be resumed** from `*pOffset` exactly under the condition. -/
theorem sendFile_resumable_iff {nOutFd nInFd pOffset nCount : Int} {self : CSimpleSocket} {os : Os}
    {r : Int × Int} {t : State} (hrun : call (sendFile nOutFd nInFd pOffset nCount) self os = .done r t)
    (hfailed : r.1 = -1) :
    r.2 = pOffset + (emittedOn nOutFd t.trace).length ↔ Resumable nCount os.script :=
  wp_call (wp_sendFile_resumable rfl) hrun hfailed

/-- A block of three bytes is read, and the `send` of it answers so. -/
def threeBytes (res : Answer ℕ) : Os :=
  .idle { lseek := [.ok ()], read := [.ok [2, 3, 4]], send := [res] }

/-- A first block that is read and refused. -/
theorem sendFile_resumable_refused : ∃ t,
    call (sendFile 5 6 100 2) .zeroed (threeBytes (.fail ⟨EPIPE, by decide⟩)) =
      .done (-1, 100) t ∧ (100 : Int) = 100 + (emittedOn 5 t.trace).length := by
  have hrun : ∃ t, call (sendFile 5 6 100 2) .zeroed (threeBytes (.fail ⟨EPIPE, by decide⟩)) =
      .done (-1, 100) t := ⟨_, rfl⟩
  obtain ⟨t, hrun⟩ := hrun
  refine ⟨t, hrun, (sendFile_resumable_iff hrun rfl).mpr (Or.inr ⟨by decide, Or.inr ?_⟩)⟩
  intro k hk
  cases hk

/-- A first block of which two bytes are taken: the offset does not move. -/
theorem sendFile_repeats_bytes : ∃ t,
    call (sendFile 5 6 100 2) .zeroed (threeBytes (.ok 2)) = .done (-1, 100) t ∧
      emittedOn 5 t.trace = [2, 3] ∧ ¬ (100 : Int) = 100 + (emittedOn 5 t.trace).length :=
  ⟨_, rfl, rfl, by decide⟩

end ClSocket
