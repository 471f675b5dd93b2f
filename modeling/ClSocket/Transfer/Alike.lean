import ClSocket.Model.Op
import ClSocket.Transfer.Sending

/-!
# Sending a datagram with either class

`CPassiveSocket::Send` does for a UDP object what `CSimpleSocket::Send` does, to the last client in
place of the server, and is written anew. It makes one call where the other has a retry loop, and it
translates `errno` after a failure only, where the other does after every call.

So the two can be told apart by a first answer that leaves `EINTR` in `errno` (the base class calls
again), and by a success that finds another number there (the base class reports it as an error).
`sends_alike_iff` says that there is no third way.
-/

namespace ClSocket

open Prog

/-- What a call of `Send` leaves: its result, `GetBytesSent` and `GetSocketError`; nothing yet as
long as it waits. -/
def leftBy : Outcome State Stop Int → Option (Int × Int × CSocketError)
  | .done n t => some (n, t.self.m_nBytesSent, t.self.m_socketErrno)
  | .stop _ _ => none

/-- A `sendto` without its destination. -/
def Event.datagram? : Event → Option (Int × Bytes × Answer ℕ)
  | .sendto fd data _ res => some (fd, data, res)
  | _ => none

/-- Those of a trace. -/
def datagramsIn (t : Trace) : List (Int × Bytes × Answer ℕ) := t.filterMap Event.datagram?

/-- **The two calls are alike** but for the destination. -/
structure Alike (x y : Outcome State Stop Int) : Prop where
  left : leftBy x = leftBy y
  datagrams : datagramsIn x.state.trace = datagramsIn y.state.trace

/-- The first answer, if there is one, leaves no `EINTR` in `errno`, and is a failure (or a count
that reads as one) or leaves nothing there at all. -/
def PlainlyAnswered (errno : Int) (answers : List (Answer ℕ)) : Prop :=
  ∀ a, answers.head? = some a →
    a.errno errno ≠ EINTR ∧ (narrow a.ret = -1 ∨ a.errno errno = 0)

section

variable {o : CSimpleSocket} {os : Os} {buf : Bytes} {n : ℕ} {a : Answer ℕ}
  {rest : List (Answer ℕ)}

theorem datagramsIn_events (data : Bytes) (as : List (Answer ℕ)) :
    datagramsIn (as.map ((SendCall.datagram data).event o)) =
      as.map fun a => (o.m_socket, data, a) := by
  simp [datagramsIn, SendCall.datagram, List.filterMap_map, Function.comp_def, Event.datagram?]

/-! ### The outcomes -/

/-- The object with the two members cleared that `Send` clears first. -/
def cleared (o : CSimpleSocket) : CSimpleSocket :=
  { o with m_socketErrno := .socketSuccess, m_nBytesSent := 0 }

/-- With something to send `CPassiveSocket::Send` is its one call. -/
theorem wp_passiveSend_of_client {Q : Int → State → Prop} {B : Stop → State → Prop}
    (htype : o.m_nSocketType = .socketTypeUdp) (hvalid : o.isSocketValid = true) (hn : 0 < n)
    (h : wp (CPassiveSocket.sendtoClient (buf.take n)) (fun _ t => Q t.self.m_nBytesSent t) B
      ⟨cleared o, os, []⟩) :
    wp (CPassiveSocket.send (some buf) n) Q B ⟨o, os, []⟩ := by
  have hmade : o.isSocketValid = true ∧ 0 < n ∧ some buf ≠ none :=
    ⟨hvalid, hn, Option.some_ne_none buf⟩
  simp only [CPassiveSocket.send, wp_bind, CSimpleSocket.wp_setSocketError, wp_assign, wp_this,
    wp_ite, wp_when, wp_pure, State.upd_self, Option.getD_some]
  exact ⟨fun _ => ⟨fun _ => h, fun hno => absurd hmade hno⟩, fun hudp => absurd htype hudp⟩

/-- `CPassiveSocket::Send` makes one call, and translates `errno` after a failure. -/
theorem wp_passiveSend_answered (htype : o.m_nSocketType = .socketTypeUdp)
    (hvalid : o.isSocketValid = true) (hn : 0 < n) (hq : os.script.sendto = a :: rest) :
    wp (CPassiveSocket.send (some buf) n) (fun r t => r = narrow a.ret ∧
      t.self.m_nBytesSent = narrow a.ret ∧
      t.self.m_socketErrno = (if narrow a.ret = -1 then translateErrno (a.errno os.errno)
        else .socketSuccess) ∧
      t.trace = [.sendto o.m_socket (buf.take n) o.m_stClientSockaddr a])
      (fun _ _ => False) ⟨o, os, []⟩ := by
  refine wp_passiveSend_of_client htype hvalid hn ?_
  simp only [CPassiveSocket.sendtoClient, wp_bind, CSimpleSocket.wp_timerInitialize,
    CSimpleSocket.wp_setStartTime, wp_this, sysSendto]
  rw [wp_issue_cons hq]
  generalize narrow a.ret = k
  by_cases hk : k = -1 <;> simp [hk, cleared]

/-- As long as that call is not answered it waits. -/
theorem wp_passiveSend_waiting (htype : o.m_nSocketType = .socketTypeUdp)
    (hvalid : o.isSocketValid = true) (hn : 0 < n) (hq : os.script.sendto = []) :
    wp (CPassiveSocket.send (some buf) n) (fun _ _ => False) (fun _ t => t.trace = [])
      ⟨o, os, []⟩ := by
  refine wp_passiveSend_of_client htype hvalid hn ?_
  simp only [CPassiveSocket.sendtoClient, wp_bind, CSimpleSocket.wp_timerInitialize,
    CSimpleSocket.wp_setStartTime, wp_this, sysSendto]
  rw [wp_issue_nil hq]
  rfl

/-- What the loop of `CSimpleSocket::Send` has done when it is left, or waits. -/
theorem wp_send_datagram (htype : o.m_nSocketType = .socketTypeUdp)
    (hvalid : o.isSocketValid = true) (hn : 0 < n) :
    wp (CSimpleSocket.send (some buf) n) (fun r t => LeavesFrom os.errno os.script.sendto ∧
      Sent (.datagram (buf.take n)) ⟨o, os, []⟩ (takenFrom os.errno os.script.sendto) t ∧
      r = t.self.m_nBytesSent)
      (fun _ t => ¬ LeavesFrom os.errno os.script.sendto ∧
        Sent (.datagram (buf.take n)) ⟨o, os, []⟩ os.script.sendto t) ⟨o, os, []⟩ := by
  have hsend := wp_send (s := ⟨o, os, []⟩) buf n hvalid (Or.inr htype) hn
  simp only [htype, sendAnswers, SendCall.ofType, reduceCtorEq, if_false] at hsend
  exact wp_mono (fun _ _ h => h) (fun _ _ h => ⟨h.1, h.2.2⟩) hsend

/-- With nothing to send, or no descriptor, neither makes a call. -/
theorem wp_sends_nothing (os : Os) {pBuf : Option Bytes} (htype : o.m_nSocketType = .socketTypeUdp)
    (hmade : ¬(o.isSocketValid = true ∧ 0 < n ∧ pBuf ≠ none)) :
    wp (CSimpleSocket.send pBuf n) (fun r t => r = 0 ∧ t = ⟨cleared o, os, []⟩)
      (fun _ _ => False) ⟨o, os, []⟩ ∧
    wp (CPassiveSocket.send pBuf n) (fun r t => r = 0 ∧ t = ⟨cleared o, os, []⟩)
      (fun _ _ => False) ⟨o, os, []⟩ := by
  constructor
  · simp only [CSimpleSocket.send, wp_bind, CSimpleSocket.wp_setSocketError, wp_assign, wp_this,
      wp_ite, wp_when, wp_pure, State.upd_self]
    refine ⟨fun htcp => ?_, fun _ => ⟨fun _ => ⟨fun h => absurd h hmade, fun _ => ⟨trivial, rfl⟩⟩,
      fun hudp => absurd htype hudp⟩⟩
    rw [htype] at htcp
    cases htcp
  · simp only [CPassiveSocket.send, wp_bind, CSimpleSocket.wp_setSocketError, wp_assign, wp_this,
      wp_ite, wp_when, wp_pure, State.upd_self]
    exact ⟨fun _ => ⟨fun h => absurd h hmade, fun _ => ⟨trivial, rfl⟩⟩, fun hudp => absurd htype hudp⟩

/-! ### Telling them apart -/

/-- Without an answer both wait. -/
theorem alike_of_waiting (htype : o.m_nSocketType = .socketTypeUdp)
    (hvalid : o.isSocketValid = true) (hn : 0 < n) (hq : os.script.sendto = []) :
    Alike (call (CSimpleSocket.send (some buf) n) o os)
      (call (CPassiveSocket.send (some buf) n) o os) := by
  have hbase : wp (CSimpleSocket.send (some buf) n) _ _ ⟨o, os, []⟩ := wp_send_datagram htype hvalid hn
  have hpassive : wp (CPassiveSocket.send (some buf) n) _ _ ⟨o, os, []⟩ :=
    wp_passiveSend_waiting htype hvalid hn hq
  rw [hq] at hbase
  cases hy : call (CPassiveSocket.send (some buf) n) o os with
  | done r t => exact (wp_done hpassive hy).elim
  | stop e t =>
    cases hx : call (CSimpleSocket.send (some buf) n) o os with
    | done r u => exact absurd (wp_done hbase hx).1 Retry.not_finished_nil
    | stop e' u =>
      have htrace := (wp_stopped hbase hx).2.trace_eq
      refine ⟨rfl, ?_⟩
      simp only [Outcome.state]
      rw [htrace, wp_stopped hpassive hy]
      rfl

/-- After an answer that leaves `EINTR` the base class calls again, and so it has made more calls or
has not returned. -/
theorem not_alike_of_interrupted (htype : o.m_nSocketType = .socketTypeUdp)
    (hvalid : o.isSocketValid = true) (hn : 0 < n) (hq : os.script.sendto = a :: rest)
    (ha : a.errno os.errno = EINTR) :
    ¬ Alike (call (CSimpleSocket.send (some buf) n) o os)
      (call (CPassiveSocket.send (some buf) n) o os) := by
  have hbase : wp (CSimpleSocket.send (some buf) n) _ _ ⟨o, os, []⟩ := wp_send_datagram htype hvalid hn
  have hpassive : wp (CPassiveSocket.send (some buf) n) _ _ ⟨o, os, []⟩ :=
    wp_passiveSend_answered htype hvalid hn hq
  have hagain : Interrupted (errnoAfter os.errno a) := ha
  rw [hq] at hbase
  intro halike
  cases hy : call (CPassiveSocket.send (some buf) n) o os with
  | stop e t => exact wp_stopped hpassive hy
  | done r t =>
    obtain ⟨-, -, -, htrace⟩ := wp_done hpassive hy
    cases hx : call (CSimpleSocket.send (some buf) n) o os with
    | stop e u =>
      rw [hx, hy] at halike
      cases halike.left
    | done r' u =>
      obtain ⟨hleaves, hsent, -⟩ := wp_done hbase hx
      rw [LeavesFrom, Retry.finished_again hagain] at hleaves
      obtain ⟨pre, b, hpre, -⟩ := Retry.exists_last hleaves
      -- the datagrams of the loop are at least two
      have hsent' := hsent.trace_eq
      rw [takenFrom, Retry.taken_again hagain, hpre, List.nil_append] at hsent'
      have hcount := congrArg List.length halike.datagrams
      rw [hx, hy, Outcome.state, Outcome.state, hsent', htrace, datagramsIn_events] at hcount
      simp [datagramsIn, Event.datagram?] at hcount

/-- After any other answer both return its count, and the codes are what differs. -/
theorem alike_iff_of_answered (htype : o.m_nSocketType = .socketTypeUdp)
    (hvalid : o.isSocketValid = true) (hn : 0 < n) (hq : os.script.sendto = a :: rest)
    (ha : a.errno os.errno ≠ EINTR) :
    Alike (call (CSimpleSocket.send (some buf) n) o os)
        (call (CPassiveSocket.send (some buf) n) o os) ↔
      narrow a.ret = -1 ∨ a.errno os.errno = 0 := by
  have hbase : wp (CSimpleSocket.send (some buf) n) _ _ ⟨o, os, []⟩ := wp_send_datagram htype hvalid hn
  have hpassive : wp (CPassiveSocket.send (some buf) n) _ _ ⟨o, os, []⟩ :=
    wp_passiveSend_answered htype hvalid hn hq
  have hleave : ¬ Interrupted (errnoAfter os.errno a) := ha
  -- the loop of the base class leaves after the first answer, so both have made the same call
  rw [hq, takenFrom, Retry.taken_leave hleave] at hbase
  cases hy : call (CPassiveSocket.send (some buf) n) o os with
  | stop e t => exact (wp_stopped hpassive hy).elim
  | done r t =>
    obtain ⟨rfl, hbytes, hcode, htrace⟩ := wp_done hpassive hy
    cases hx : call (CSimpleSocket.send (some buf) n) o os with
    | stop e u => exact absurd (Retry.finished_leave hleave) (wp_stopped hbase hx).1
    | done r' u =>
      obtain ⟨-, hsent, rfl⟩ := wp_done hbase hx
      have hcount : u.self.m_nBytesSent = narrow a.ret := hsent.count a rfl
      have hcode' : u.self.m_socketErrno = translateErrno (a.errno os.errno) := by
        rw [hsent.code (by simp), hsent.errno_eq]
        rfl
      have hdatagrams : datagramsIn u.trace = datagramsIn t.trace := by
        rw [hsent.trace_eq, List.nil_append, datagramsIn_events, htrace]
        rfl
      have hleft : Alike (.done u.self.m_nBytesSent u) (.done (narrow a.ret) t) ↔
          u.self.m_socketErrno = t.self.m_socketErrno := by
        refine ⟨fun h => ?_, fun h => ⟨?_, hdatagrams⟩⟩
        · exact congrArg (fun x => x.2.2) (Option.some.inj h.left)
        · simp only [leftBy]
          rw [hcount, hbytes, h]
      -- one translates `errno` whatever was returned, the other only after a failure
      rw [hleft, hcode, hcode']
      by_cases hk : narrow a.ret = -1
      · simp [hk]
      · simp [hk]

/-- **When the two classes send alike.** -/
theorem sends_alike_iff (o : CSimpleSocket) (os : Os) (pBuf : Option Bytes) (bytesToSend : ℕ)
    (htype : o.m_nSocketType = .socketTypeUdp) :
    Alike (call (CSimpleSocket.send pBuf bytesToSend) o os)
        (call (CPassiveSocket.send pBuf bytesToSend) o os) ↔
      (o.isSocketValid = true ∧ 0 < bytesToSend ∧ pBuf ≠ none →
        PlainlyAnswered os.errno os.script.sendto) := by
  by_cases hmade : o.isSocketValid = true ∧ 0 < bytesToSend ∧ pBuf ≠ none
  · obtain ⟨hvalid, hn, hbuf⟩ := hmade
    obtain ⟨buf, rfl⟩ := Option.ne_none_iff_exists'.mp hbuf
    rw [forall_prop_of_true ⟨hvalid, hn, hbuf⟩]
    cases hq : os.script.sendto with
    | nil =>
      -- both wait for the same answer
      exact iff_of_true (alike_of_waiting htype hvalid hn hq) fun a ha => by cases ha
    | cons a rest =>
      have hplain : PlainlyAnswered os.errno (a :: rest) ↔
          a.errno os.errno ≠ EINTR ∧ (narrow a.ret = -1 ∨ a.errno os.errno = 0) :=
        ⟨fun h => h a rfl, fun h b hb => by cases hb; exact h⟩
      rw [hplain]
      by_cases ha : a.errno os.errno = EINTR
      -- the base class sends again, the override does not
      · exact iff_of_false (not_alike_of_interrupted htype hvalid hn hq ha) fun h => h.1 ha
      · rw [alike_iff_of_answered htype hvalid hn hq ha]
        simp [ha]
  · -- neither makes a call
    refine iff_of_true ?_ fun h => absurd h hmade
    obtain ⟨hbase, hpassive⟩ := wp_sends_nothing os htype hmade
    cases hx : call (CSimpleSocket.send pBuf bytesToSend) o os with
    | stop e u => exact (wp_stopped hbase hx).elim
    | done r u =>
      cases hy : call (CPassiveSocket.send pBuf bytesToSend) o os with
      | stop e t => exact (wp_stopped hpassive hy).elim
      | done r' t =>
        obtain ⟨rfl, rfl⟩ := wp_done hbase hx
        obtain ⟨rfl, rfl⟩ := wp_done hpassive hy
        exact ⟨rfl, rfl⟩

end

/-- With `errno` clean a datagram that is taken is told of alike. -/
theorem sends_alike_answered : Alike
    (call (CSimpleSocket.send (some [7, 8]) 2) (.holding .socketTypeUdp 3) (.idle { sendto := [.ok 2] }))
    (call (CPassiveSocket.send (some [7, 8]) 2) (.holding .socketTypeUdp 3)
      (.idle { sendto := [.ok 2] })) :=
  (sends_alike_iff (.holding .socketTypeUdp 3) (.idle { sendto := [.ok 2] }) (some [7, 8]) 2 rfl).mpr
    fun _ a ha => by
      obtain rfl : .ok 2 = a := Option.some.inj ha
      decide

/-- A signal comes in, and then nothing can be sent. -/
def signalled : Os := .idle { sendto := [.fail interruption, .fail ⟨EAGAIN, by decide⟩] }

/-- `CPassiveSocket::Send` gives up at the signal, and `CSimpleSocket::Send` calls again. -/
theorem not_sends_alike_signalled : ¬ Alike
    (call (CSimpleSocket.send (some [7, 8]) 2) (.holding .socketTypeUdp 3) signalled)
    (call (CPassiveSocket.send (some [7, 8]) 2) (.holding .socketTypeUdp 3) signalled) := by
  intro h
  have hleft := h.left
  revert hleft
  decide

end ClSocket
