import ClSocket.Transfer.Receiving

/-!
# Where `Receive` lets `recv` write

Every round of the TCP loop of `Receive` calls `recv` with the whole length `nMaxBytes`, at the
offset that is the count of the round before. So a window fits the buffer when the count is
zero, and no other count will do: a call that was interrupted returned `-1`, and a call that
returned bytes is made again when `errno` was left at `EINTR` by something else before.

`receive_windows_iff` says on which answers this cannot happen (`Undisturbed`). The invariant of
the loop is a disjunction: all windows have been in the buffer, the count is zero and the answers
left decide (`InBuffer`), or one was not or the next one will not be (`OutOfBuffer`).
-/

namespace ClSocket

open Prog CSimpleSocket

/-- The window a call of `recv` was given: its offset and its length. -/
def Event.window? : Event → Option (Int × Int)
  | .recv _ offset len _ _ => some (offset, len)
  | _ => none

/-- The windows of a trace. -/
def windowsIn (t : Trace) : List (Int × Int) := t.filterMap Event.window?

@[simp] theorem windowsIn_append (t u : Trace) :
    windowsIn (t ++ u) = windowsIn t ++ windowsIn u := List.filterMap_append

/-- The windows a run hands out. One that waits does so in a `recv` that is not in the trace yet,
at the offset that is the object's count. -/
def windows {α : Type} (nMaxBytes : Int) : Outcome State Stop α → List (Int × Int)
  | .done _ t => windowsIn t.trace
  | .stop _ t => windowsIn t.trace ++ [(t.self.m_nBytesReceived, nMaxBytes)]

/-- A window of the buffer. -/
def Within (nMaxBytes : Int) (w : Int × Int) : Prop := 0 ≤ w.1 ∧ w.1 + w.2 ≤ nMaxBytes

/-- A window of the whole length has to start at zero. -/
theorem within_whole {nMaxBytes offset : Int} : Within nMaxBytes (offset, nMaxBytes) ↔ offset = 0 := by
  unfold Within
  omega

/-- **The condition.** With `errno` clear of `EINTR` the first call is not interrupted; with
`EINTR` in it the first call that does not return zero bytes fails, and not with `EINTR`. -/
def Undisrupted (errno : Int) (as : List (Answer Bytes)) : Prop :=
  (errno ≠ EINTR → ∀ e, as.head? = some (.fail e) → e.1 ≠ EINTR) ∧
    (errno = EINTR → ∀ a, as.find? (fun a => a ≠ .ok []) = some a →
      ∃ e, a = .fail e ∧ e.1 ≠ EINTR)

namespace Undisrupted

variable {errno : Int} {rest : List (Answer Bytes)}

theorem nil : Undisrupted errno [] := ⟨by simp, by simp⟩

theorem fail_iff {e : Errno} : Undisrupted errno (.fail e :: rest) ↔ e.1 ≠ EINTR := by
  constructor
  · intro h
    by_cases herrno : errno = EINTR
    · obtain ⟨e', he', hne⟩ := h.2 herrno (.fail e) (by simp)
      cases he'
      exact hne
    · exact h.1 herrno e rfl
  · intro hne
    refine ⟨fun _ e' he' => ?_, fun _ a ha => ⟨e, ?_, hne⟩⟩
    · cases he'
      exact hne
    · simpa using ha.symm

/-- A first call that succeeds ends the loop. -/
theorem of_ok (herrno : errno ≠ EINTR) (bs : Bytes) : Undisrupted errno (.ok bs :: rest) :=
  ⟨fun _ e he => by simp at he, fun h => absurd h herrno⟩

/-- With `EINTR` left in `errno` it does not, and has to have returned nothing. -/
theorem ok_iff (herrno : errno = EINTR) (bs : Bytes) :
    Undisrupted errno (.ok bs :: rest) ↔ bs = [] ∧ Undisrupted errno rest := by
  constructor
  · intro h
    have hnil : bs = [] := by
      by_contra hne
      obtain ⟨e, he, -⟩ := h.2 herrno (.ok bs) (by simp [hne])
      cases he
    refine ⟨hnil, fun hne => absurd herrno hne, fun _ a ha => h.2 herrno a ?_⟩
    simpa [hnil] using ha
  · rintro ⟨rfl, h⟩
    refine ⟨fun hne => absurd herrno hne, fun _ a ha => h.2 herrno a ?_⟩
    simpa using ha

end Undisrupted

/-! ### The loop -/

/-- **Everything so far was in the buffer**, and what is ahead decides. -/
structure InBuffer (nMaxBytes errno : Int) (as : List (Answer Bytes)) (t : State) : Prop where
  within : ∀ w ∈ windowsIn t.trace, Within nMaxBytes w
  count : t.self.m_nBytesReceived = 0
  errno_eq : t.os.errno = errno
  bounded : ∀ bs, .ok bs ∈ t.os.script.recv → (bs.length : Int) ≤ nMaxBytes
  ahead : Undisrupted errno as ↔ Undisrupted errno t.os.script.recv

/-- **Something was not**, or will not be. -/
structure OutOfBuffer (nMaxBytes errno : Int) (as : List (Answer Bytes)) (t : State) : Prop where
  outside : ∃ w ∈ windowsIn t.trace ++ [(t.self.m_nBytesReceived, nMaxBytes)],
    ¬ Within nMaxBytes w
  disrupted : ¬ Undisrupted errno as

/-- The windows of a run are in the buffer exactly under the condition. -/
abbrev Decided (nMaxBytes errno : Int) (as : List (Answer Bytes)) (ws : List (Int × Int)) : Prop :=
  (∀ w ∈ ws, Within nMaxBytes w) ↔ Undisrupted errno as

/-- What the round decides after a call: to go round again when it finds `EINTR`. -/
def AfterCall (nMaxBytes errno : Int) (as : List (Answer Bytes)) (t : State) : Prop :=
  if t.os.errno = EINTR then InBuffer nMaxBytes errno as t ∨ OutOfBuffer nMaxBytes errno as t
  else Decided nMaxBytes errno as (windowsIn t.trace)

/-- A call has been made and its count stored. -/
structure RecvCalled (nMaxBytes : Int) (res : Answer Bytes) (t u : State) : Prop where
  answer : t.os.script.recv = res :: u.os.script.recv
  window : windowsIn u.trace = windowsIn t.trace ++ [(t.self.m_nBytesReceived, nMaxBytes)]
  count : u.self.m_nBytesReceived = narrow (res.count List.length).ret
  errno_eq : u.os.errno = res.errno t.os.errno

section

variable {nMaxBytes errno : Int} {as : List (Answer Bytes)} {t u : State}

/-- While all is in the buffer the next window is. -/
theorem InBuffer.next (h : InBuffer nMaxBytes errno as t) :
    ∀ w ∈ windowsIn t.trace ++ [(t.self.m_nBytesReceived, nMaxBytes)], Within nMaxBytes w := by
  intro w hw
  rcases List.mem_append.mp hw with hw | hw
  · exact h.within w hw
  · rw [List.mem_singleton.mp hw]
    exact within_whole.mpr h.count

/-- A count other than zero puts the next window outside. -/
theorem OutOfBuffer.of_count (hcount : u.self.m_nBytesReceived ≠ 0)
    (h : ¬ Undisrupted errno as) : OutOfBuffer nMaxBytes errno as u :=
  ⟨⟨_, List.mem_append_right _ (List.mem_singleton_self _), fun hw => hcount (within_whole.mp hw)⟩, h⟩

/-- The call failed. -/
theorem InBuffer.failed {e : Errno} (h : InBuffer nMaxBytes errno as t)
    (hu : RecvCalled nMaxBytes (.fail e) t u) : AfterCall nMaxBytes errno as u := by
  have hahead : Undisrupted errno as ↔ e.1 ≠ EINTR := by
    rw [h.ahead, hu.answer, Undisrupted.fail_iff]
  have herrno : u.os.errno = e.1 := hu.errno_eq
  unfold AfterCall
  rw [herrno]
  split
  · rename_i hintr
    -- the next offset is the error return
    have hcount : u.self.m_nBytesReceived = -1 := hu.count.trans narrow_neg_one
    exact Or.inr (.of_count (by rw [hcount]; decide) fun hall => hahead.mp hall hintr)
  · rename_i hne
    exact iff_of_true (hu.window ▸ h.next) (hahead.mpr hne)

/-- The call returned bytes. -/
theorem InBuffer.answered {bs : Bytes} (hmax : InInt32 nMaxBytes)
    (h : InBuffer nMaxBytes errno as t) (hu : RecvCalled nMaxBytes (.ok bs) t u) :
    AfterCall nMaxBytes errno as u := by
  have hlen : u.self.m_nBytesReceived = bs.length := by
    have hle : (bs.length : Int) ≤ nMaxBytes := h.bounded bs (by rw [hu.answer]; simp)
    obtain ⟨-, hhigh⟩ := hmax
    have hnarrow : narrow (bs.length : Int) = bs.length := narrow_eq_self.mpr ⟨by omega, by omega⟩
    exact hu.count.trans hnarrow
  have herrno : u.os.errno = errno := hu.errno_eq.trans h.errno_eq
  have hahead := h.ahead
  rw [hu.answer] at hahead
  unfold AfterCall
  rw [herrno]
  split
  · rename_i hintr
    -- the call is made again, at the offset of its count
    rw [Undisrupted.ok_iff hintr] at hahead
    by_cases hnil : bs = []
    · refine Or.inl ⟨hu.window ▸ h.next, by rw [hlen, hnil]; rfl, herrno, fun bs' hbs' => ?_, ?_⟩
      · exact h.bounded bs' (by rw [hu.answer]; exact List.mem_cons_of_mem _ hbs')
      · rw [hahead]
        exact and_iff_right hnil
    · have hpos := List.length_pos_iff.mpr hnil
      exact Or.inr (.of_count (by omega) fun hall => hnil (hahead.mp hall).1)
  · rename_i hne
    exact iff_of_true (hu.window ▸ h.next) (hahead.mpr (.of_ok hne bs))

/-- The window that was going to be outside is, or was, whatever the call answered. -/
theorem OutOfBuffer.called {res : Answer Bytes} (h : OutOfBuffer nMaxBytes errno as t)
    (hu : RecvCalled nMaxBytes res t u) : AfterCall nMaxBytes errno as u := by
  obtain ⟨w, hw, hout⟩ := h.outside
  rw [← hu.window] at hw
  unfold AfterCall
  split
  · exact Or.inr ⟨⟨w, List.mem_append_left _ hw, hout⟩, h.disrupted⟩
  · exact iff_of_false (fun hall => hout (hall w hw)) h.disrupted

/-- **One round.** -/
theorem wp_recvRound_windows (hmax : InInt32 nMaxBytes) (pBuffer : Option Bytes)
    (h : InBuffer nMaxBytes errno as t ∨ OutOfBuffer nMaxBytes errno as t) :
    wp (recvRound nMaxBytes pBuffer) (fun _ u => AfterCall nMaxBytes errno as u ∧
        t.os.script.recv.length = u.os.script.recv.length + 1)
      (fun _ u => Decided nMaxBytes errno as
        (windowsIn u.trace ++ [(u.self.m_nBytesReceived, nMaxBytes)])) t := by
  rw [recvRound, wp_bind, wp_this, wp_bind, sysRecv, wp_issue_iff]
  refine ⟨fun hnone => ?waits, fun res rest hq => ?_⟩
  -- no answer is left, and the call that waits has its window too
  case waits =>
    rcases h with h | h
    · exact iff_of_true h.next (h.ahead.mpr (hnone ▸ .nil))
    · obtain ⟨w, hw, hout⟩ := h.outside
      exact iff_of_false (fun hall => hout (hall w hw)) h.disrupted
  have hq : t.os.script.recv = res :: rest := hq
  rw [wp_bind, wp_assign]
  generalize hn : narrow (res.count List.length).ret = n
  have hafter : ∀ u, RecvCalled nMaxBytes res t u → AfterCall nMaxBytes errno as u ∧
      t.os.script.recv.length = u.os.script.recv.length + 1 := by
    intro u hu
    refine ⟨?_, by rw [hu.answer, List.length_cons]⟩
    rcases h with h | h
    · cases res with
      | fail e => exact h.failed hu
      | ok bs => exact h.answered hmax hu
    · exact h.called hu
  have hwindow : windowsIn (t.trace ++ [.recv t.self.m_socket t.self.m_nBytesReceived nMaxBytes
      t.self.m_nFlags res]) = windowsIn t.trace ++ [(t.self.m_nBytesReceived, nMaxBytes)] := by
    rw [windowsIn_append]
    rfl
  cases res with
  | fail e => exact hafter _ ⟨hq, hwindow, hn.symm, rfl⟩
  | ok bs =>
    refine wp_mono (fun _ u hu => ?_) (fun _ _ hF => hF.elim) (wp_deliver pBuffer _ bs _)
    obtain ⟨-, hos, htrace, hcount⟩ := hu
    refine hafter u ⟨?_, htrace ▸ hwindow, hcount.trans hn.symm, by rw [hos]; rfl⟩
    rw [hos]
    exact hq

/-- **The loop.** Its bound is not used up, because a round takes an answer. -/
theorem wp_recvLoop_windows (hmax : InInt32 nMaxBytes) (pBuffer : Option Bytes)
    (h : InBuffer nMaxBytes errno as t) :
    wp (whileInterrupted (t.os.script.recv.length + 1) (recvRound nMaxBytes) pBuffer)
      (fun _ u => Decided nMaxBytes errno as (windowsIn u.trace))
      (fun _ u => Decided nMaxBytes errno as
        (windowsIn u.trace ++ [(u.self.m_nBytesReceived, nMaxBytes)])) t := by
  -- the rounds left are one more than the answers left
  refine wp_iter (fun n _ u => (InBuffer nMaxBytes errno as u ∨ OutOfBuffer nMaxBytes errno as u) ∧
    n = u.os.script.recv.length + 1) ?round (fun _ u hu => absurd hu.2.symm (Nat.succ_ne_zero _))
    _ _ t ⟨Or.inl h, rfl⟩
  case round =>
    intro n buf u hu
    obtain ⟨hstate, hn⟩ := hu
    rw [wp_bind]
    refine wp_mono (fun buf' v hv => ?_) (fun _ _ hB => hB) (wp_recvRound_windows hmax buf hstate)
    obtain ⟨hafter, hlen⟩ := hv
    unfold AfterCall at hafter
    simp only [wp_bind, wp_translateSocketError, wp_this, wp_ite, wp_pure, State.upd_self,
      translateErrno_eq_interrupted, Round.post_again, Round.post_leave]
    -- another round while `errno` is `EINTR`, and then the windows are decided
    refine ⟨fun hintr => ⟨?_, ?_⟩, fun hleave => ?_⟩
    · rw [if_pos hintr] at hafter
      exact hafter.imp (fun hin => ⟨hin.1, hin.2, hin.3, hin.4, hin.5⟩) fun hout => ⟨hout.1, hout.2⟩
    · show n = v.os.script.recv.length + 1
      omega
    · rw [if_neg hleave] at hafter
      exact hafter

end

/-! ### `Receive` -/

/-- Freeing the buffer is no call. -/
theorem windowsIn_bufferDeleted (s : State) :
    windowsIn (bufferDeleted s).trace = windowsIn s.trace :=
  filterMap_bufferDeleted (fun _ => rfl) s

/-- Providing a buffer calls nothing that has a window. -/
theorem wp_provideBuffer_windows {nMaxBytes : Int} (hpos : 0 < nMaxBytes) (s : State) :
    wp (provideBuffer nMaxBytes) (fun _ t => windowsIn t.trace = windowsIn s.trace ∧
      t.os.script = s.os.script ∧ t.os.errno = s.os.errno ∧
      t.self.m_nBytesReceived = s.self.m_nBytesReceived ∧
      t.self.m_nSocketType = s.self.m_nSocketType) (fun _ _ => False) s := by
  have hnot : ¬ nMaxBytes < 0 := by omega
  have halloc : ∀ id, windowsIn [.alloc id nMaxBytes] = [] := fun _ => rfl
  simp only [provideBuffer, wp_bind, wp_this, wp_when, wp_assign, wp_newBytes, hnot, false_imp_iff,
    true_and, not_false_eq_true, true_imp_iff, wp_deleteBuffer]
  simp [windowsIn_bufferDeleted, halloc]

/-- **`Receive` on a valid stream.** -/
theorem wp_receive_windows {nMaxBytes : Int} (hpos : 0 < nMaxBytes) (hmax : InInt32 nMaxBytes)
    (pBuffer : Option Bytes) {s : State} (hs : s.trace = []) (hvalid : s.self.isSocketValid = true)
    (htcp : s.self.m_nSocketType = .socketTypeTcp)
    (hbounded : ∀ bs, .ok bs ∈ s.os.script.recv → (bs.length : Int) ≤ nMaxBytes) :
    wp (receive nMaxBytes pBuffer)
      (fun _ t => Decided nMaxBytes s.os.errno s.os.script.recv (windowsIn t.trace))
      (fun _ t => Decided nMaxBytes s.os.errno s.os.script.recv
        (windowsIn t.trace ++ [(t.self.m_nBytesReceived, nMaxBytes)])) s := by
  -- what is left once there is a block, from a state that agrees with `s`
  have hrest : ∀ u : State, windowsIn u.trace = [] → u.os.script = s.os.script →
      u.os.errno = s.os.errno → u.self.m_nBytesReceived = 0 →
      u.self.m_nSocketType = .socketTypeTcp → wp (receiveTimed nMaxBytes pBuffer)
        (fun _ t => Decided nMaxBytes s.os.errno s.os.script.recv (windowsIn t.trace))
        (fun _ t => Decided nMaxBytes s.os.errno s.os.script.recv
          (windowsIn t.trace ++ [(t.self.m_nBytesReceived, nMaxBytes)])) u := by
    intro u hwindows hscript herrno hzero htype
    simp only [receiveTimed, wp_bind, wp_setSocketError, wp_timerInitialize, wp_setStartTime,
      wp_setEndTime, wp_translateSocketError, wp_this, wp_when, wp_deleteBuffer, wp_pure, receiveLoop,
      wp_script, State.upd_self, State.tick_self, htype, if_true]
    have hstart : InBuffer nMaxBytes s.os.errno s.os.script.recv
        ((u.upd fun o => { o with m_socketErrno := .socketSuccess, m_timer := .reset }).tick.upd
          fun o => { o with
            m_timer := o.m_timer.started (u.os.clock u.os.ticks) u.os.ticks }) := by
      refine ⟨fun w hw => ?_, hzero, herrno, fun bs hbs => hbounded bs ?_, ?_⟩
      · have hw : w ∈ windowsIn u.trace := hw
        rw [hwindows] at hw
        cases hw
      · rw [← hscript]
        exact hbs
      · rw [← hscript]
        rfl
    refine wp_mono (fun _ t h => ?_) (fun _ _ h => h) (wp_recvLoop_windows hmax pBuffer hstart)
    refine ⟨fun _ => ?_, fun _ => h⟩
    rw [windowsIn_bufferDeleted]
    exact h
  rw [wp_receive_iff]
  refine ⟨fun hinv => absurd (hvalid.symm.trans hinv) (by decide), fun _ => ⟨fun hnone => ?_,
    fun _ => hrest _ (by rw [State.upd_trace, hs]; rfl) rfl rfl rfl htcp⟩⟩
  subst hnone
  refine wp_mono (fun _ u h => ?_) (fun _ _ hF => hF.elim) (wp_provideBuffer_windows hpos _)
  obtain ⟨hwindows, hscript, herrno, hcount, htype⟩ := h
  refine hrest u (hwindows.trans ?_) hscript herrno hcount (htype.trans htcp)
  rw [State.upd_trace, hs]
  rfl

/-- On an invalid socket `Receive` calls nothing. -/
theorem wp_receive_invalid (nMaxBytes : Int) (pBuffer : Option Bytes) {s : State}
    (hinvalid : s.self.isSocketValid = false) :
    wp (receive nMaxBytes pBuffer) (fun _ t => t.trace = s.trace) (fun _ _ => False) s := by
  rw [wp_receive_iff]
  exact ⟨fun _ => rfl, fun hvalid => absurd (hvalid.symm.trans hinvalid) (by decide)⟩

/-- **Every window of one `Receive` is in its buffer** exactly when the socket is invalid or the
answers meet the condition. -/
theorem receive_windows_iff {o : CSimpleSocket} {os : Os} {nMaxBytes : Int}
    {pBuffer : Option Bytes} (htcp : o.m_nSocketType = .socketTypeTcp) (hpos : 0 < nMaxBytes)
    (hmax : InInt32 nMaxBytes)
    (hbounded : ∀ bs, .ok bs ∈ os.script.recv → (bs.length : Int) ≤ nMaxBytes) :
    (∀ w ∈ windows nMaxBytes (call (receive nMaxBytes pBuffer) o os), Within nMaxBytes w) ↔
      (o.isSocketValid = true → Undisrupted os.errno os.script.recv) := by
  cases hvalid : o.isSocketValid with
  | false =>
    refine iff_of_true (fun w hw => ?_) (by simp)
    -- no call is made
    have hnone := @wp_receive_invalid nMaxBytes pBuffer ⟨o, os, []⟩ hvalid
    cases hrun : call (receive nMaxBytes pBuffer) o os with
    | done r t =>
      have htrace := wp_done hnone hrun
      rw [hrun, windows, htrace] at hw
      cases hw
    | stop e t => exact (wp_stopped hnone hrun).elim
  | true =>
    rw [imp_iff_right rfl]
    have hdecided := @wp_receive_windows nMaxBytes hpos hmax pBuffer ⟨o, os, []⟩ rfl hvalid htcp
      hbounded
    cases hrun : call (receive nMaxBytes pBuffer) o os with
    | done r t =>
      have h := wp_done hdecided hrun
      exact h
    | stop e t =>
      have h := wp_stopped hdecided hrun
      exact h

/-- Two bytes of four, at the first call. -/
theorem receive_windows_short :
    (call (receive 4 none) Reachable.initialized (.idle { recv := [.ok [7, 8]] })).state.self.m_nBytesReceived = 2 ∧
      ∀ w ∈ windows 4 (call (receive 4 none) Reachable.initialized
        (.idle { recv := [.ok [7, 8]] })), Within 4 w := by
  refine ⟨rfl, (receive_windows_iff rfl (by decide) (by decide) (fun bs hbs => ?_)).mpr fun _ => ?_⟩
  · cases List.mem_singleton.mp hbs
    decide
  · exact .of_ok (by decide) _

/-- A signal and then two bytes: the second call writes in front of the buffer. -/
def signalThenBytes : Os := .idle { recv := [.fail interruption, .ok [7, 8]] }

theorem receive_windows_signal :
    windows 4 (call (receive 4 none) Reachable.initialized signalThenBytes) = [(0, 4), (-1, 4), (2, 4)] ∧
      ¬ ∀ w ∈ windows 4 (call (receive 4 none) Reachable.initialized signalThenBytes), Within 4 w := by
  have hwindows : windows 4 (call (receive 4 none) Reachable.initialized signalThenBytes) =
    [(0, 4), (-1, 4), (2, 4)] := rfl
  refine ⟨hwindows, fun h => ?_⟩
  rw [hwindows] at h
  exact absurd (h (-1, 4) (by simp)).1 (by decide)

end ClSocket
