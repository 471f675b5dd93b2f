import ClSocket.Framework.Retry
import ClSocket.Model.Transfer

/-!
# What the loop of `Send` does

The two loops of `Send` differ in the system call alone. A `SendCall` is such a call (its
queue of answers, and the event an object makes of an answer), `SendCall.round` is the round
that makes it, and `sendRound` and `sendtoRound` are instances of it by definition.

A round goes round again when `TranslateSocketError` reads `EINTR` in `errno`, whatever the
call answered. So the loop is a retry loop whose memory is `errno`: `wp_sendTimed` says that
it takes the answers `Retry.taken` and that `Sent` relates the states before and after.
-/

namespace ClSocket

open Prog

/-- The retry loops of the library remember `errno`. -/
abbrev errnoAfter {α : Type} (errno : Int) (a : Answer α) : Int := a.errno errno

/-- They go round again at `EINTR`. -/
abbrev Interrupted (errno : Int) : Prop := errno = EINTR

/-- The answers a retry loop takes when `errno` is `e` at its start. -/
abbrev takenFrom {α : Type} (e : Int) (answers : List (Answer α)) : List (Answer α) :=
  Retry.taken errnoAfter Interrupted e answers

/-- The loop leaves before the answers are used up. -/
abbrev LeavesFrom {α : Type} (e : Int) (answers : List (Answer α)) : Prop :=
  Retry.Finished errnoAfter Interrupted e answers

/-- What a sending call put on the wire, and how it was answered. -/
def Event.sent? : Event → Option (Bytes × Answer ℕ)
  | .send _ data res => some (data, res)
  | .sendto _ data _ res => some (data, res)
  | _ => none

/-- The sending calls of a trace. -/
def sentIn (t : Trace) : List (Bytes × Answer ℕ) := t.filterMap Event.sent?

/-- The object with the members written that `Send` writes. -/
def CSimpleSocket.withSent (o : CSimpleSocket) (n : Int) (err : CSocketError) (tm : TrackedTimer) :
    CSimpleSocket :=
  { o with m_nBytesSent := n, m_socketErrno := err, m_timer := tm }

/-- A call that sends a block: where its answers come from and the event an object makes. -/
structure SendCall where
  queue : Script → List (Answer ℕ)
  put : List (Answer ℕ) → Script → Script
  event : CSimpleSocket → Answer ℕ → Event
  queue_put : ∀ q sc, queue (put q sc) = q
  put_put : ∀ q q' sc, put q (put q' sc) = put q sc
  put_queue : ∀ sc, put (queue sc) sc = sc
  /-- The event does not depend on the members `Send` writes. -/
  event_frame : ∀ o n err tm, event (o.withSent n err tm) = event o

/-- `send` on the object's descriptor. -/
def SendCall.stream (data : Bytes) : SendCall where
  queue := Script.send
  put q sc := { sc with send := q }
  event o := .send o.m_socket data
  queue_put _ _ := rfl
  put_put _ _ _ := rfl
  put_queue _ := rfl
  event_frame _ _ _ _ := rfl

/-- `sendto` to the object's server address. -/
def SendCall.datagram (data : Bytes) : SendCall where
  queue := Script.sendto
  put q sc := { sc with sendto := q }
  event o := .sendto o.m_socket data o.m_stServerSockaddr
  queue_put _ _ := rfl
  put_put _ _ _ := rfl
  put_queue _ := rfl
  event_frame _ _ _ _ := rfl

/-- The call a socket of the type makes. -/
def SendCall.ofType (type : CSocketType) (data : Bytes) : SendCall :=
  if type = .socketTypeTcp then .stream data else .datagram data

attribute [simp] SendCall.queue_put SendCall.put_put SendCall.put_queue SendCall.event_frame

/-- The sending calls among the events of a loop that took `as`. -/
theorem sentIn_events (o : CSimpleSocket) (type : CSocketType) (data : Bytes)
    (as : List (Answer ℕ)) :
    sentIn (as.map ((SendCall.ofType type data).event o)) = as.map fun a => (data, a) := by
  unfold sentIn SendCall.ofType
  split <;> simp [SendCall.stream, SendCall.datagram, List.filterMap_map, Function.comp_def,
    Event.sent?]

namespace SendCall

open CSimpleSocket

variable (c : SendCall)

/-- The round of the loop, for any of the calls. -/
def round : M Unit := do
  let o ← this
  let res ← issue c.queue c.put (c.event o)
  assign fun o => { o with m_nBytesSent := narrow res.ret }

end SendCall

/-- **The effect of a sending loop** that took the answers `as`: it wrote the count, the error
code and the timer and no other member, `errno` is what the answers left, and the trace has
the calls. -/
structure Sent (c : SendCall) (s : State) (as : List (Answer ℕ)) (t : State) : Prop where
  self_eq : t.self = s.self.withSent t.self.m_nBytesSent t.self.m_socketErrno t.self.m_timer
  count : ∀ a, as.getLast? = some a → t.self.m_nBytesSent = narrow a.ret
  code : as ≠ [] → t.self.m_socketErrno = translateErrno t.os.errno
  errno_eq : t.os.errno = as.foldl errnoAfter s.os.errno
  script_eq : t.os.script = c.put ((c.queue s.os.script).drop as.length) s.os.script
  trace_eq : t.trace = s.trace ++ as.map (c.event s.self)

namespace Sent

variable {c : SendCall} {s t u : State} {as : List (Answer ℕ)}

/-- Nothing taken, and nothing but the timer written. -/
theorem start (tm : TrackedTimer) : Sent c s [] (s.tick.upd fun o => { o with m_timer := tm }) where
  self_eq := rfl
  count _ h := by simp at h
  code h := absurd rfl h
  errno_eq := rfl
  script_eq := by simp
  trace_eq := by simp

/-- Those members may have been written before the loop. -/
theorem of_upd {f : CSimpleSocket → CSimpleSocket} (h : Sent c (s.upd f) as t)
    (hf : ∀ o, ∃ n err tm, f o = o.withSent n err tm) : Sent c s as t := by
  obtain ⟨n, err, tm, hfo⟩ := hf s.self
  refine ⟨?_, h.count, h.code, h.errno_eq, h.script_eq, ?_⟩
  · rw [h.self_eq, State.upd_self, hfo]
    rfl
  · rw [h.trace_eq, State.upd_trace, State.upd_self, hfo, c.event_frame]

/-- The event a further round makes is that of the first state. -/
theorem event_eq (h : Sent c s as t) : c.event t.self = c.event s.self := by
  rw [h.self_eq, c.event_frame]

/-- What is ahead after the answers have been taken. -/
theorem queue_eq (h : Sent c s as t) : c.queue t.os.script = (c.queue s.os.script).drop as.length := by
  rw [h.script_eq, c.queue_put]

/-- One more round. -/
theorem snoc (h : Sent c s as t) {a : Answer ℕ} {rest : List (Answer ℕ)}
    (hq : c.queue t.os.script = a :: rest) :
    Sent c s (as ++ [a]) (((t.answered (c.put rest t.os.script) (a.errno t.os.errno)
      (c.event t.self a)).upd fun o => { o with m_nBytesSent := narrow a.ret }).upd fun o =>
        { o with m_socketErrno := translateErrno (a.errno t.os.errno) }) where
  self_eq := by
    simp only [State.upd_self, State.answered_self]
    rw [h.self_eq]
    rfl
  count b hb := by
    rw [List.getLast?_append_of_ne_nil _ (by simp)] at hb
    obtain rfl : a = b := by simpa using hb
    rfl
  code _ := rfl
  errno_eq := by simp [h.errno_eq, errnoAfter]
  script_eq := by
    -- the answers behind the one just taken
    have hdrop : (c.queue s.os.script).drop (as.length + 1) = rest := by
      rw [← List.drop_drop, ← h.queue_eq, hq]
      rfl
    simp [h.script_eq, hdrop]
  trace_eq := by simp [h.trace_eq, h.event_eq]

/-- The end of the loop reads the clock. -/
theorem timed (h : Sent c s as t) (f : TrackedTimer → TrackedTimer) :
    Sent c s as (t.tick.upd fun o => { o with m_timer := f o.m_timer }) where
  self_eq := by
    simp only [State.upd_self, State.tick_self]
    rw [h.self_eq]
    rfl
  count := h.count
  code := h.code
  errno_eq := h.errno_eq
  script_eq := h.script_eq
  trace_eq := h.trace_eq

end Sent

section Loop

open CSimpleSocket

variable {c : SendCall} {s : State}

/-- **The loop.** It takes the answers a retry loop takes, and returns when that one leaves;
when it does not, it has made one call more and waits in it. -/
theorem wp_whileInterrupted_round :
    ∀ rest done s₀ t, Sent c s₀ done t → c.queue t.os.script = rest →
      wp (whileInterrupted (rest.length + 1) (fun _ => c.round) ())
        (fun _ u => LeavesFrom (done.foldl errnoAfter s₀.os.errno) rest ∧
          Sent c s₀ (done ++ takenFrom (done.foldl errnoAfter s₀.os.errno) rest) u)
        (fun r u => ¬ LeavesFrom (done.foldl errnoAfter s₀.os.errno) rest ∧
          r = .waiting ∧ Sent c s₀ (done ++ rest) u) t := by
  intro rest done s₀ t hs hq
  refine wp_retry errnoAfter Interrupted s₀.os.errno
    (fun done rest _ t => Sent c s₀ done t ∧ c.queue t.os.script = rest)
    (fun done _ t => Sent c s₀ done t) (fun done r t => r = Stop.waiting ∧ Sent c s₀ done t)
    ?round ?empty rest done () t ⟨hs, hq⟩
  -- the answer decides, through `errno` and its translation, whether there is a further round
  case round =>
    rintro done a rest - t ⟨hs, hq⟩
    have hnext := hs.snoc hq
    have hfold : (done ++ [a]).foldl errnoAfter s₀.os.errno = a.errno t.os.errno := by
      rw [← hnext.errno_eq]; rfl
    rw [hfold]
    simp only [SendCall.round, wp_bind, wp_this, wp_issue_cons hq, wp_assign,
      wp_translateSocketError, wp_ite, wp_pure, State.upd_self, State.upd_os,
      State.answered_errno, translateErrno_eq_interrupted]
    refine ⟨fun he => ⟨he, hnext, ?_⟩, fun he => ⟨he, hnext⟩⟩
    simp
  case empty =>
    rintro done - t ⟨hs, hq⟩
    simp only [SendCall.round, wp_bind, wp_this, wp_issue_nil hq]
    exact ⟨trivial, hs⟩

/-- **The timed loop** of `Send`. -/
theorem wp_sendTimed (c : SendCall) (s : State) :
    wp (sendTimed c.queue c.round)
      (fun _ u => LeavesFrom s.os.errno (c.queue s.os.script) ∧
        Sent c s (takenFrom s.os.errno (c.queue s.os.script)) u)
      (fun r u => ¬ LeavesFrom s.os.errno (c.queue s.os.script) ∧
        r = .waiting ∧ Sent c s (c.queue s.os.script) u) s := by
  simp only [sendTimed, wp_bind, wp_timerInitialize, wp_setStartTime, wp_script, wp_setEndTime]
  refine wp_mono (fun _ u h => ⟨h.1, ?_⟩) (fun r u h => h)
    (wp_whileInterrupted_round _ [] s _ (Sent.start _) rfl)
  exact h.2.timed fun tm => tm.ended (u.os.clock u.os.ticks) u.os.ticks

/-- The answers ahead for the call a socket of the type makes. -/
def sendAnswers (type : CSocketType) (sc : Script) : List (Answer ℕ) :=
  if type = .socketTypeTcp then sc.send else sc.sendto

/-- **`Send` on a valid TCP or UDP socket** with something to send is the loop, and returns
the count the loop stored. -/
theorem wp_send (buf : Bytes) (n : ℕ) (hvalid : s.self.isSocketValid = true)
    (htype : s.self.m_nSocketType = .socketTypeTcp ∨ s.self.m_nSocketType = .socketTypeUdp)
    (hn : 0 < n) :
    wp (send (some buf) n)
      (fun r u => LeavesFrom s.os.errno (sendAnswers s.self.m_nSocketType s.os.script) ∧
        Sent (.ofType s.self.m_nSocketType (buf.take n)) s
          (takenFrom s.os.errno (sendAnswers s.self.m_nSocketType s.os.script)) u ∧
        r = u.self.m_nBytesSent)
      (fun r u => ¬ LeavesFrom s.os.errno (sendAnswers s.self.m_nSocketType s.os.script) ∧
        r = .waiting ∧ Sent (.ofType s.self.m_nSocketType (buf.take n)) s
          (sendAnswers s.self.m_nSocketType s.os.script) u) s := by
  -- the two members `Send` clears first are among those its loop writes
  have hframe : ∀ {c as u}, Sent c ((s.upd fun o => { o with m_socketErrno := .socketSuccess }).upd
      fun o => { o with m_nBytesSent := 0 }) as u → Sent c s as u := fun h =>
    (h.of_upd fun o => ⟨0, o.m_socketErrno, o.m_timer, rfl⟩).of_upd fun o =>
      ⟨o.m_nBytesSent, .socketSuccess, o.m_timer, rfl⟩
  have hgo : ∀ c : SendCall, wp (sendTimed c.queue c.round)
      (fun _ u => LeavesFrom s.os.errno (c.queue s.os.script) ∧
        Sent c s (takenFrom s.os.errno (c.queue s.os.script)) u)
      (fun r u => ¬ LeavesFrom s.os.errno (c.queue s.os.script) ∧
        r = .waiting ∧ Sent c s (c.queue s.os.script) u)
      ((s.upd fun o => { o with m_socketErrno := .socketSuccess }).upd
        fun o => { o with m_nBytesSent := 0 }) := fun c =>
    wp_mono (fun _ _ h => ⟨h.1, hframe h.2⟩) (fun _ _ h => ⟨h.1, h.2.1, hframe h.2.2⟩)
      (wp_sendTimed c _)
  have hmade : s.self.isSocketValid = true ∧ 0 < n ∧ some buf ≠ none :=
    ⟨hvalid, hn, Option.some_ne_none buf⟩
  simp only [send, wp_bind, wp_setSocketError, wp_assign, wp_this, wp_ite, wp_when, wp_pure,
    State.upd_self, Option.getD_some]
  refine ⟨fun htcp => ⟨fun _ => ?tcp, fun h => absurd hmade h⟩,
    fun htcp => ⟨fun hudp => ⟨fun _ => ?udp, fun h => absurd hmade h⟩, fun hudp => ?none⟩⟩
  case tcp =>
    rw [SendCall.ofType, sendAnswers, if_pos htcp, if_pos htcp]
    exact wp_mono (fun _ u h => ⟨h.1, h.2, trivial⟩) (fun _ _ h => h) (hgo (.stream (buf.take n)))
  case udp =>
    rw [SendCall.ofType, sendAnswers, if_neg htcp, if_neg htcp]
    exact wp_mono (fun _ u h => ⟨h.1, h.2, trivial⟩) (fun _ _ h => h) (hgo (.datagram (buf.take n)))
  case none => exact absurd htype (not_or.mpr ⟨htcp, hudp⟩)

end Loop

end ClSocket
