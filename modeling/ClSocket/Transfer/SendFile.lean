import ClSocket.Framework.Monitor
import ClSocket.Transfer.Copying

/-!
# What `SendFile` sends

`inFull file` is the monitor of a file being read and a socket being written to, both without a
short count or a failure: a position, which `lseek` sets and `read` advances.

`SendFile` counts from the error value `-1`, so it transfers one byte more than it is asked to,
and reports the number it was asked for: on every run of which every call succeeds in full
it sends `file[o, o + nCount + 1)`, returns `nCount` and moves `*pOffset` by `nCount`
(`wp_sendFile`). A sequence of calls that share `*pOffset` sends the last byte of each range
again as the first of the next (`sendFiles_inFull`).
-/

namespace ClSocket

open Prog CSimpleSocket

/-- The bytes of `file` from `o` on, `n` of them. -/
def slice (file : Bytes) (o n : ℕ) : Bytes := (file.drop o).take n

theorem slice_append (file : Bytes) (o m n : ℕ) :
    slice file o m ++ slice file (o + m) n = slice file o (m + n) := by
  unfold slice
  rw [List.take_add, List.drop_drop]

/-- **The file**: its position, with every call succeeding in full. -/
def inFull (file : Bytes) : Monitor ℕ Event where
  next p
    | .lseek _ offset (.ok _) => offset.toNat
    | .read _ _ (.ok bs) => p + bs.length
    | _ => p
  ok p
    | .lseek _ _ res => res = .ok ()
    | .read _ len res => res = .ok (slice file p len.toNat) ∧ (slice file p len.toNat).length = len
    | .send _ data res => res = .ok data.length
    | _ => True

/-- What a trace put on the descriptor `fd`. -/
def Event.emitted? (fd : Int) : Event → Option Bytes
  | .send fd' data (.ok k) => if fd' = fd then some (data.take k) else none
  | _ => none

def emittedOn (fd : Int) (t : Trace) : Bytes := (t.filterMap (Event.emitted? fd)).flatten

@[simp] theorem emittedOn_nil (fd : Int) : emittedOn fd [] = [] := rfl

@[simp] theorem emittedOn_append (fd : Int) (t u : Trace) :
    emittedOn fd (t ++ u) = emittedOn fd t ++ emittedOn fd u := by
  simp [emittedOn]

@[simp] theorem emittedOn_cons (fd : Int) (e : Event) (t : Trace) :
    emittedOn fd (e :: t) = (e.emitted? fd).getD [] ++ emittedOn fd t := by
  unfold emittedOn
  cases h : e.emitted? fd with
  | none => rw [List.filterMap_cons_none h]; rfl
  | some bs => rw [List.filterMap_cons_some h]; rfl

/-- The loop of `SendFile` between rounds: `nOutCount + 1` bytes from `o` on have been read
and sent. -/
structure Copied (file : Bytes) (fd : Int) (o : ℕ) (nCount nOutCount : Int) (t : State) : Prop where
  lower : -1 ≤ nOutCount
  upper : nOutCount ≤ nCount
  position : (inFull file).after 0 t.trace = o + (nOutCount + 1).toNat
  emitted : emittedOn fd t.trace = slice file o (nOutCount + 1).toNat
  length : (slice file o (nOutCount + 1).toNat).length = (nOutCount + 1).toNat

/-- A block read and sent. -/
theorem Copied.block {file bs : Bytes} {nOutFd nInFd nCount nOutCount : Int} {o : ℕ} {t u : State}
    (h : Copied file nOutFd o nCount nOutCount t) (more : nOutCount < nCount)
    (hbs : bs = slice file (o + (nOutCount + 1).toNat) (blockSize nCount nOutCount).toNat)
    (full : (bs.length : Int) = blockSize nCount nOutCount)
    (hu : u.trace = t.trace ++ [.read nInFd (blockSize nCount nOutCount) (.ok bs),
      .send nOutFd bs (.ok bs.length)]) :
    Copied file nOutFd o nCount (nOutCount + blockSize nCount nOutCount) u := by
  obtain ⟨hlower, -, hpos, hemit, hlength⟩ := h
  have hblock := blockSize_pos more
  have hto : (nOutCount + blockSize nCount nOutCount + 1).toNat =
      (nOutCount + 1).toNat + (blockSize nCount nOutCount).toNat := by omega
  refine ⟨by omega, add_blockSize_le, ?_, ?_, ?_⟩
  -- only the `read` moves the position in the file
  · rw [hu, hto, Monitor.after_append, hpos]
    simp only [Monitor.after_cons, Monitor.after_nil, inFull]
    omega
  · rw [hu, hto, emittedOn_append, hemit, ← slice_append, ← hbs]
    simp [Event.emitted?]
  · rw [hto, ← slice_append, List.length_append, hlength, ← hbs]
    omega

/-- One round copies one block. -/
theorem wp_sendFileRound {file : Bytes} {nOutFd nInFd nCount nOutCount : Int} {o : ℕ} {t : State}
    (ht : (inFull file).Accepts 0 t.trace → Copied file nOutFd o nCount nOutCount t) :
    wp (sendFileRound nOutFd nInFd nCount nOutCount) (Round.post
        (fun c u => (inFull file).Accepts 0 u.trace → Copied file nOutFd o nCount c u)
        (fun r u => (inFull file).Accepts 0 u.trace → r = some nCount ∧
          Copied file nOutFd o nCount nCount u)) (fun _ _ => True) t := by
  refine wp_mono (fun r u hcase => ?_) (fun _ _ _ => trivial)
    (wp_sendFileRound_case nOutFd nInFd nCount nOutCount t)
  cases hcase with
  | finished enough =>
    intro hfull
    have hcopied := ht hfull
    obtain rfl : nOutCount = nCount := le_antisymm hcopied.upper enough
    exact ⟨rfl, hcopied⟩
  -- a run in full has no `read` and no `send` that fails or is short
  | unread _ res _ _ _ short htrace =>
    intro hfull
    rw [htrace, Monitor.accepts_concat] at hfull
    obtain ⟨-, rfl, hlen⟩ := hfull
    exact absurd hlen (short _ rfl)
  | unsent _ bs res _ _ full _ _ short htrace =>
    intro hfull
    rw [htrace, Monitor.accepts_append] at hfull
    obtain ⟨-, -, hres, -⟩ := hfull
    rw [show res = .ok bs.length from hres, Answer.ret_ok] at short
    exact absurd full short
  | copied _ bs more _ full _ _ _ _ htrace =>
    intro hfull
    rw [htrace, Monitor.accepts_append] at hfull
    obtain ⟨hbefore, ⟨hread, -⟩, -⟩ := hfull
    have hcopied := ht hbefore
    rw [hcopied.position] at hread
    exact hcopied.block more (Answer.ok.inj hread) full htrace

/-- **The loop.** When every call succeeded in full it returns `nCount`, having copied all. -/
theorem wp_sendFileLoop (file : Bytes) (o : ℕ) {nOutFd nInFd nCount : Int} {t : State}
    (ht : (inFull file).Accepts 0 t.trace → Copied file nOutFd o nCount (-1) t) (n : ℕ) :
    wp (iter .waiting (sendFileRound nOutFd nInFd nCount) n (-1))
      (fun r u => (inFull file).Accepts 0 u.trace → r = some nCount ∧
        Copied file nOutFd o nCount nCount u) (fun _ _ => True) t :=
  wp_iter (fun _ c u => (inFull file).Accepts 0 u.trace → Copied file nOutFd o nCount c u)
    (fun _ _ _ h => wp_sendFileRound h) (fun _ _ _ => trivial) n (-1) t ht

/-- **`SendFile` on a run in full** returns what it was asked for, and has sent one byte more. -/
theorem wp_sendFile {file : Bytes} {nOutFd nInFd nCount : Int} {o : ℕ} {s : State}
    (hcount : 0 ≤ nCount) (hs : s.trace = []) :
    wp (sendFile nOutFd nInFd o nCount) (fun r t => (inFull file).Accepts 0 t.trace →
      r = (nCount, o + nCount) ∧ emittedOn nOutFd t.trace = slice file o (nCount.toNat + 1) ∧
        (emittedOn nOutFd t.trace).length = nCount.toNat + 1) (fun _ _ => True) s := by
  rw [sendFile, wp_bind, sysLseek, wp_issue_iff]
  refine ⟨fun _ => trivial, fun res rest _ => ?_⟩
  cases res with
  | fail e =>
    intro hfull
    exact absurd (((inFull file).accepts_concat 0 s.trace _).mp hfull).2 (by simp [inFull])
  | ok u =>
    rw [wp_bind, wp_script, wp_bind]
    refine wp_mono (fun r t h => ?_) (fun _ _ h => h) (wp_sendFileLoop file o (fun _ => ?start) _)
    -- the count starts at `-1`, and `nOutCount + 1` bytes are none
    case start =>
      refine ⟨by omega, by omega, ?_, ?_, by simp [slice]⟩
      · simp [hs, inFull]
      · simp [hs, Event.emitted?, slice]
    cases r with
    | none => exact fun hfull => absurd (h hfull).1 (by simp)
    | some c =>
      rw [wp_bind, wp_translateSocketError, wp_pure]
      intro hfull
      obtain ⟨hc, hcopied⟩ := h hfull
      obtain rfl : c = nCount := Option.some.inj hc
      refine ⟨rfl, ?_⟩
      rw [State.upd_trace, show c.toNat + 1 = (c + 1).toNat by omega, hcopied.emitted]
      exact ⟨rfl, hcopied.length⟩

/-- **What `SendFile` is to do**: return the count, send that many bytes from the offset on, and
move the offset by them. -/
structure Transfers (file : Bytes) (nOutFd : Int) (o : ℕ) (nCount : Int) (r : Int × Int)
    (t : State) : Prop where
  returned : r.1 = nCount
  sent : emittedOn nOutFd t.trace = slice file o nCount.toNat
  offset : r.2 = o + nCount

/-- **`SendFile` never does**: on no run of which every call succeeds in full. -/
theorem sendFile_never_transfers {file : Bytes} {nOutFd nInFd nCount : Int} {o : ℕ}
    {self : CSimpleSocket} {os : Os} {r : Int × Int} {t : State} (hcount : 0 ≤ nCount)
    (hrun : call (sendFile nOutFd nInFd o nCount) self os = .done r t)
    (hfull : (inFull file).Accepts 0 t.trace) : ¬ Transfers file nOutFd o nCount r t := by
  intro h
  obtain ⟨-, -, hlen⟩ := wp_call (wp_sendFile hcount rfl) hrun hfull
  -- one byte more has gone out than the range asked for is long
  rw [h.sent] at hlen
  have hle : (slice file o nCount.toNat).length ≤ nCount.toNat := List.length_take_le _ _
  omega

/-- Asked for two bytes of a file, and three are sent. -/
theorem sendFile_two_bytes :
    ¬ Transfers [1, 2, 3, 4] 5 1 2 (2, 3)
      (call (sendFile 5 6 1 2) .zeroed
        (.idle { lseek := [.ok ()], read := [.ok [2, 3, 4]], send := [.ok 3] })).state :=
  have hrun : call (sendFile 5 6 (1 : ℕ) 2) .zeroed
      (.idle { lseek := [.ok ()], read := [.ok [2, 3, 4]], send := [.ok 3] }) = .done (2, 3)
        (call (sendFile 5 6 1 2) .zeroed
          (.idle { lseek := [.ok ()], read := [.ok [2, 3, 4]], send := [.ok 3] })).state := rfl
  sendFile_never_transfers (by decide) hrun
    ⟨rfl, ⟨rfl, rfl⟩, rfl, trivial⟩

/-- Asked for nothing, and a byte is sent. -/
theorem sendFile_empty_range :
    ∃ r t, call (sendFile 5 6 (0 : ℕ) 0) .zeroed
        (.idle { lseek := [.ok ()], read := [.ok [9]], send := [.ok 1] }) = .done r t ∧
      (inFull [9]).Accepts 0 t.trace ∧ ¬ Transfers [9] 5 0 0 r t :=
  ⟨_, _, rfl, ⟨rfl, ⟨rfl, rfl⟩, rfl, trivial⟩, fun h => absurd h.sent (by decide)⟩

/-! ### Sequences of calls -/

/-- Calls one after the other that share `*pOffset`, each in full: the bytes they send. -/
inductive SendFiles (file : Bytes) (nOutFd nInFd : Int) : Int → List Int → Bytes → Int → Prop where
  | nil (pOffset : Int) : SendFiles file nOutFd nInFd pOffset [] [] pOffset
  | cons {self : CSimpleSocket} {os : Os} {t : State} {pOffset nCount r next last : Int}
      {counts : List Int} {rest : Bytes} :
      call (sendFile nOutFd nInFd pOffset nCount) self os = .done (r, next) t →
      (inFull file).Accepts 0 t.trace → SendFiles file nOutFd nInFd next counts rest last →
      SendFiles file nOutFd nInFd pOffset (nCount :: counts) (emittedOn nOutFd t.trace ++ rest) last

/-- The ranges such calls send: each one byte too long, the next from where it should be. -/
def overlapping (file : Bytes) : ℕ → List ℕ → Bytes
  | _, [] => []
  | o, n :: ns => slice file o (n + 1) ++ overlapping file (o + n) ns

/-- **A sequence of calls** sends a byte more for every call. -/
theorem sendFiles_inFull {file out : Bytes} {nOutFd nInFd last : Int} {o : ℕ} {counts : List ℕ}
    (h : SendFiles file nOutFd nInFd o (counts.map (↑)) out last) :
    out = overlapping file o counts ∧ out.length = counts.sum + counts.length ∧
      last = o + counts.sum := by
  induction counts generalizing o out with
  | nil =>
    cases h
    simp [overlapping]
  | cons n counts ih =>
    rw [List.map_cons] at h
    cases h with
    | cons hrun hfull hrest =>
      -- each call starts where the one before said it ended, which is a byte short
      obtain ⟨hr, hemit, hlen⟩ := wp_call (wp_sendFile (by omega) rfl) hrun hfull
      obtain ⟨-, rfl⟩ := Prod.mk.inj hr
      obtain ⟨hout, hlength, hlast⟩ := ih (o := o + n) (by simpa using hrest)
      refine ⟨?_, ?_, ?_⟩
      · rw [hemit, hout]
        rfl
      · rw [List.length_append, hlen, hlength, List.sum_cons, List.length_cons]
        omega
      · rw [hlast, List.sum_cons]
        omega

end ClSocket
