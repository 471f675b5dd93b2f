import ClSocket.Method.Quiet

/-!
# How a retry loop settles

The loops of `Send` and `Receive` go on as long as `errno` reads `EINTR`, whatever the call
answered. A call that succeeds leaves `errno` alone. So the loop can be left in two ways only
(`Settled`): by a failure, whose number is in `errno` then, or by the success of the very first
call, which finds in `errno` what was there at entry.

`wp_whileInterrupted_settled` proves it for any round that makes one call and stores its count
(`Counts`). The invariant between rounds is that nothing has been called yet, or that `errno` is
`EINTR`; it is instantiated for the four rounds of the library.
-/

namespace ClSocket

open Prog CSimpleSocket

/-- The member that a method stores its count in. -/
structure Counter where
  read : CSimpleSocket → Int
  /-- The error code is another member. -/
  read_frame : ∀ o err, read { o with m_socketErrno := err } = read o

/-- `m_nBytesSent`. -/
def Counter.sent : Counter := ⟨CSimpleSocket.m_nBytesSent, fun _ _ => rfl⟩

/-- `m_nBytesReceived`. -/
def Counter.received : Counter := ⟨CSimpleSocket.m_nBytesReceived, fun _ _ => rfl⟩

/-- The round makes one call, whose answers queue up in `queue`, and stores its count. -/
def Counts (queue : Script → List (Answer ℕ)) (c : Counter) (s t : State) : Prop :=
  ∃ a, (queue s.os.script).head? = some a ∧ t.os.errno = a.errno s.os.errno ∧
    c.read t.self = narrow a.ret

/-- The count of a call that moves data. -/
def Event.transfer? : Event → Option (Answer ℕ)
  | .send _ _ res | .sendto _ _ _ res => some res
  | .recv _ _ _ _ res => some (res.count List.length)
  | .recvfrom _ _ res => some (res.count fun d => d.1.length)
  | _ => none

/-- Those of a trace. -/
def transfersIn (t : Trace) : List (Answer ℕ) := t.filterMap Event.transfer?

@[simp] theorem transfersIn_nil : transfersIn [] = [] := rfl

@[simp] theorem transfersIn_bufferDeleted (s : State) :
    transfersIn (bufferDeleted s).trace = transfersIn s.trace :=
  filterMap_bufferDeleted (fun _ => rfl) s

theorem transfersIn_concat (t : Trace) {e : Event} {a : Answer ℕ} (h : e.transfer? = some a) :
    transfersIn (t ++ [e]) = transfersIn t ++ [a] := by
  rw [transfersIn, List.filterMap_append, List.filterMap_cons_some h]
  rfl

/-- Nor does the round make any other call that moves data. -/
def CallsOnce (queue : Script → List (Answer ℕ)) (c : Counter) (s t : State) : Prop :=
  ∃ a, (queue s.os.script).head? = some a ∧ t.os.errno = a.errno s.os.errno ∧
    c.read t.self = narrow a.ret ∧ transfersIn t.trace = transfersIn s.trace ++ [a]

theorem CallsOnce.counts {queue : Script → List (Answer ℕ)} {c : Counter} {s t : State}
    (h : CallsOnce queue c s t) : Counts queue c s t := by
  obtain ⟨a, hfirst, herrno, hcount, -⟩ := h
  exact ⟨a, hfirst, herrno, hcount⟩

/-- **How a method ended that stores a count**: its last call failed, or its first call
succeeded and `errno` is what it was. -/
inductive Settled (queue : Script → List (Answer ℕ)) (c : Counter) (s t : State) : Prop where
  | failed (count : c.read t.self = -1) (errno_ne : t.os.errno ≠ 0)
      (late : s.os.errno ≠ EINTR → ∀ k, (queue s.os.script).head? ≠ some (.ok k))
  | answered (k : ℕ) (first : (queue s.os.script).head? = some (.ok k))
      (count : c.read t.self = narrow k) (errno_eq : t.os.errno = s.os.errno)

namespace Settled

variable {queue : Script → List (Answer ℕ)} {c : Counter} {s s' t t' : State}

/-- One call settles by itself. -/
theorem of_counts (h : Counts queue c s t) : Settled queue c s t := by
  obtain ⟨a, hfirst, herrno, hcount⟩ := h
  cases a with
  | ok k => exact .answered k hfirst hcount herrno
  | fail e =>
    have hne : t.os.errno ≠ 0 := by
      rw [herrno]
      exact e.2
    exact .failed (hcount.trans narrow_neg_one) hne fun _ k hk => by
      rw [hfirst] at hk
      cases hk

/-- What comes before and after may touch other members. -/
theorem frame (h : Settled queue c s t) (hqueue : queue s.os.script = queue s'.os.script)
    (herrno : s.os.errno = s'.os.errno) (hcount : c.read t'.self = c.read t.self)
    (herrno' : t'.os.errno = t.os.errno) : Settled queue c s' t' := by
  cases h with
  | failed count errno_ne late =>
    exact .failed (hcount.trans count) (herrno' ▸ errno_ne) (herrno ▸ hqueue ▸ late)
  | answered k first count errno_eq =>
    exact .answered k (hqueue ▸ first) (hcount.trans count) (herrno'.trans (errno_eq.trans herrno))

end Settled

/-- **The loop settles.** -/
theorem wp_whileInterrupted_settled {β : Type} {queue : Script → List (Answer ℕ)} {c : Counter}
    {round : β → M β} (hround : ∀ b t, wp (round b) (fun _ u => CallsOnce queue c t u)
      (fun _ _ => True) t) (n : ℕ) (b : β) (s : State) :
    wp (whileInterrupted n round b) (fun _ t => Settled queue c s t ∧
      t.self.m_socketErrno = translateErrno t.os.errno) (fun _ _ => True) s := by
  -- between rounds nothing has been called yet, or the last call left `EINTR` behind; unless it
  -- was there at entry, a success of the first call has then ended the loop
  refine wp_iter (fun _ _ t => t.os.errno = EINTR ∧ (s.os.errno ≠ EINTR →
    ∀ k, (queue s.os.script).head? ≠ some (.ok k)) ∨ t = s) ?round (fun _ _ _ => trivial) n b s
    (Or.inr rfl)
  case round =>
    intro _ b t ht
    rw [wp_bind]
    refine wp_mono (fun b' u hu => ?_) (fun _ _ h => h) (hround b t)
    replace hu := hu.counts
    simp only [wp_bind, wp_translateSocketError, wp_this, wp_ite, wp_pure, State.upd_self,
      translateErrno_eq_interrupted, Round.post_again, Round.post_leave]
    refine ⟨fun hintr => Or.inl ⟨hintr, fun hs k hk => ?_⟩, fun hleave => ⟨?_, rfl⟩⟩
    · rcases ht with ⟨-, hlate⟩ | rfl
      · exact hlate hs k hk
      · obtain ⟨a, hfirst, herrno, -⟩ := hu
        rw [hfirst] at hk
        cases hk
        exact hs (herrno.symm.trans hintr)
    have hsettled : Settled queue c s u := by
      rcases ht with ⟨hintr, hlate⟩ | rfl
      · -- a success would have left `EINTR` where it was
        obtain ⟨a, -, herrno, hcount⟩ := hu
        cases a with
        | ok k => exact absurd (herrno.trans hintr) hleave
        | fail e =>
          have hne : u.os.errno ≠ 0 := by
            rw [herrno]
            exact e.2
          exact .failed (hcount.trans narrow_neg_one) hne hlate
      · exact .of_counts hu
    exact hsettled.frame rfl rfl (c.read_frame _ _) rfl

/-! ### The rounds -/

theorem callsOnce_sendRound (data : Bytes) (t : State) :
    wp (sendRound data) (fun _ u => CallsOnce Script.send .sent t u) (fun _ _ => True) t := by
  rw [sendRound, wp_bind, wp_this, wp_bind, sysSend, wp_issue_iff]
  refine ⟨fun _ => trivial, fun a rest hq => ?_⟩
  exact ⟨a, by rw [hq]; rfl, rfl, rfl, transfersIn_concat _ rfl⟩

theorem callsOnce_sendtoRound (data : Bytes) (t : State) :
    wp (sendtoRound data) (fun _ u => CallsOnce Script.sendto .sent t u) (fun _ _ => True) t := by
  rw [sendtoRound, wp_bind, wp_this, wp_bind, sysSendto, wp_issue_iff]
  refine ⟨fun _ => trivial, fun a rest hq => ?_⟩
  exact ⟨a, by rw [hq]; rfl, rfl, rfl, transfersIn_concat _ rfl⟩

/-- The counts of the answers ahead for `recv`. -/
def recvCounts (sc : Script) : List (Answer ℕ) := sc.recv.map (Answer.count List.length)

/-- The counts of the answers ahead for `recvfrom`. -/
def recvfromCounts (sc : Script) : List (Answer ℕ) :=
  sc.recvfrom.map (Answer.count fun d => d.1.length)

/-- Delivering touches neither `errno` nor the count, and makes no call. -/
theorem wp_deliver_counted (pBuffer : Option Bytes) (offset : Int) (bs : Bytes) (t : State) :
    wp (deliver pBuffer offset bs) (fun _ u => u.os = t.os ∧ u.trace = t.trace ∧
      u.self.m_nBytesReceived = t.self.m_nBytesReceived) (fun _ _ => True) t := by
  simp [deliver]

theorem callsOnce_recvRound (nMaxBytes : Int) (pBuffer : Option Bytes) (t : State) :
    wp (recvRound nMaxBytes pBuffer) (fun _ u => CallsOnce recvCounts .received t u)
      (fun _ _ => True) t := by
  rw [recvRound, wp_bind, wp_this, wp_bind, sysRecv, wp_issue_iff]
  refine ⟨fun _ => trivial, fun a rest hq => ?_⟩
  have hfirst : (recvCounts t.os.script).head? = some (a.count List.length) := by
    rw [recvCounts, hq]
    rfl
  have hcall := transfersIn_concat t.trace (e := .recv t.self.m_socket t.self.m_nBytesReceived
    nMaxBytes t.self.m_nFlags a) rfl
  rw [wp_bind, wp_assign]
  generalize hn : narrow (a.count List.length).ret = n
  cases a with
  | ok bs =>
    refine wp_mono (fun _ u hu => ?_) (fun _ _ h => h) (wp_deliver_counted _ _ _ _)
    obtain ⟨hos, htrace, hcount⟩ := hu
    exact ⟨_, hfirst, by rw [hos]; rfl, hcount.trans hn.symm, by rw [htrace]; exact hcall⟩
  | fail e => exact ⟨_, hfirst, rfl, hn.symm, hcall⟩

theorem callsOnce_recvfromRound (nMaxBytes : Int) (pBuffer : Option Bytes) (t : State) :
    wp (recvfromRound nMaxBytes pBuffer) (fun _ u => CallsOnce recvfromCounts .received t u)
      (fun _ _ => True) t := by
  rw [recvfromRound, wp_bind, wp_this, wp_bind, sysRecvfrom, wp_issue_iff]
  refine ⟨fun _ => trivial, fun a rest hq => ?_⟩
  have hfirst : (recvfromCounts t.os.script).head? =
      some (a.count fun d => d.1.length) := by
    rw [recvfromCounts, hq]
    rfl
  have hcall := transfersIn_concat t.trace (e := .recvfrom t.self.m_socket nMaxBytes a) rfl
  rw [wp_bind, wp_assign]
  generalize hn : narrow (a.count fun d => d.1.length).ret = n
  cases a with
  | ok d =>
    obtain ⟨bs, src⟩ := d
    rw [wp_bind, wp_assign]
    refine wp_mono (fun _ u hu => ?_) (fun _ _ h => h) (wp_deliver_counted _ _ _ _)
    obtain ⟨hos, htrace, hcount⟩ := hu
    refine ⟨_, hfirst, by rw [hos]; rfl, ?_, by rw [htrace]; exact hcall⟩
    show u.self.m_nBytesReceived = _
    rw [hcount, hn]
    -- the sender is written to one of two members, neither of which is the count
    cases h : t.self.m_bIsMulticast <;> simp [h]
  | fail e => exact ⟨_, hfirst, rfl, hn.symm, hcall⟩

/-! ### `Send` and `Receive` -/

/-- What `Send` comes to on a stream or a datagram socket: nothing was sent, or the loop settled
and its code was translated. -/
def SendSettled (queue : Script → List (Answer ℕ)) (s : State) (r : Int) (t : State) : Prop :=
  r = 0 ∨ r = t.self.m_nBytesSent ∧ Settled queue .sent s t ∧
    t.self.m_socketErrno = translateErrno t.os.errno

theorem wp_sendTimed_settled {queue : Script → List (Answer ℕ)} {round : M Unit}
    (hround : ∀ t, wp round (fun _ u => CallsOnce queue .sent t u) (fun _ _ => True) t) (s : State) :
    wp (sendTimed queue round) (fun _ t => Settled queue .sent s t ∧
      t.self.m_socketErrno = translateErrno t.os.errno) (fun _ _ => True) s := by
  simp only [sendTimed, wp_bind, wp_timerInitialize, wp_setStartTime, wp_script, wp_setEndTime]
  refine wp_mono (fun _ t h => ?_) (fun _ _ h => h)
    (wp_whileInterrupted_settled (fun _ => hround) _ () _)
  exact ⟨h.1.frame rfl rfl rfl rfl, h.2⟩

/-- **`Send`** settles. -/
theorem wp_send_settled (pBuf : Option Bytes) (n : ℕ) (s : State) :
    wp (send pBuf n) (SendSettled (if s.self.m_nSocketType = .socketTypeTcp then Script.send
      else Script.sendto) s) (fun _ _ => True) s := by
  simp only [send, wp_bind, wp_setSocketError, wp_assign, wp_this, wp_ite, wp_when, wp_pure,
    State.upd_self]
  refine ⟨fun htcp => ⟨fun _ => ?tcp, fun _ => Or.inl rfl⟩,
    fun htcp => ⟨fun _ => ⟨fun _ => ?udp, fun _ => Or.inl rfl⟩, fun _ => Or.inl rfl⟩⟩
  case tcp =>
    rw [if_pos htcp]
    refine wp_mono (fun _ t h => ?_) (fun _ _ h => h)
      (wp_sendTimed_settled (callsOnce_sendRound _) _)
    exact Or.inr ⟨rfl, h.1.frame rfl rfl rfl rfl, h.2⟩
  case udp =>
    rw [if_neg htcp]
    refine wp_mono (fun _ t h => ?_) (fun _ _ h => h)
      (wp_sendTimed_settled (callsOnce_sendtoRound _) _)
    exact Or.inr ⟨rfl, h.1.frame rfl rfl rfl rfl, h.2⟩

/-- The counts ahead for a receiving socket of the type. -/
def receiveCounts (type : CSocketType) : Script → List (Answer ℕ) :=
  if type = .socketTypeTcp then recvCounts else recvfromCounts

/-- Providing a buffer makes no system call. -/
theorem wp_provideBuffer_calls (nMaxBytes : Int) (s : State) :
    wp (provideBuffer nMaxBytes) (fun _ t => t.os.script = s.os.script ∧
      t.os.errno = s.os.errno ∧ t.self.m_nBytesReceived = s.self.m_nBytesReceived ∧
      t.self.m_nSocketType = s.self.m_nSocketType ∧ transfersIn t.trace = transfersIn s.trace)
      (fun _ _ => True) s := by
  have halloc : ∀ (t : Trace) (id : ℕ) (n : Int), transfersIn (t ++ [.alloc id n]) = transfersIn t := by
    intro t id n
    rw [transfersIn, List.filterMap_append]
    exact List.append_nil _
  simp [provideBuffer, halloc]

/-- The `switch` of `Receive`. -/
theorem wp_receiveLoop_settled (nMaxBytes : Int) (pBuffer : Option Bytes) (s : State) :
    wp (receiveLoop nMaxBytes pBuffer)
      (fun _ t => t.self.m_nBytesReceived = s.self.m_nBytesReceived ∨
        Settled (receiveCounts s.self.m_nSocketType) .received s t) (fun _ _ => True) s := by
  simp only [receiveLoop, receiveCounts, wp_bind, wp_this, wp_script, wp_ite, wp_pure]
  refine ⟨fun htcp => ?_, fun htcp => ⟨fun _ => ?_, fun _ => Or.inl trivial⟩⟩
  · rw [if_pos htcp]
    exact wp_mono (fun _ _ h => Or.inr h.1) (fun _ _ h => h)
      (wp_whileInterrupted_settled (callsOnce_recvRound nMaxBytes) _ _ _)
  · rw [if_neg htcp]
    exact wp_mono (fun _ _ h => Or.inr h.1) (fun _ _ h => h)
      (wp_whileInterrupted_settled (callsOnce_recvfromRound nMaxBytes) _ _ _)

/-- **`Receive`** settles: nothing was received, or the code is the translation of `errno`. -/
theorem wp_receive_settled (nMaxBytes : Int) (pBuffer : Option Bytes) (s : State) :
    wp (receive nMaxBytes pBuffer) (fun r t => r.1 = 0 ∨ r.1 = t.self.m_nBytesReceived ∧
      Settled (receiveCounts s.self.m_nSocketType) .received s t ∧
      t.self.m_socketErrno = translateErrno t.os.errno) (fun _ _ => True) s := by
  -- what is left once there is a block, from a state that agrees with `s`
  have hrest : ∀ u : State, u.os.script = s.os.script → u.os.errno = s.os.errno →
      u.self.m_nBytesReceived = 0 → u.self.m_nSocketType = s.self.m_nSocketType →
        wp (receiveTimed nMaxBytes pBuffer) (fun r t => r.1 = 0 ∨
          r.1 = t.self.m_nBytesReceived ∧
          Settled (receiveCounts s.self.m_nSocketType) .received s t ∧
          t.self.m_socketErrno = translateErrno t.os.errno) (fun _ _ => True) u := by
    intro u hscript herrno hzero htype
    simp only [receiveTimed, wp_bind, wp_setSocketError, wp_timerInitialize, wp_setStartTime,
      wp_setEndTime, wp_translateSocketError, wp_this, wp_when, wp_deleteBuffer, wp_pure]
    refine wp_mono (fun out t h => ?_) (fun _ _ h => h) (wp_receiveLoop_settled nMaxBytes pBuffer _)
    rcases h with hcount | hsettled
    · -- the type has no loop, and the count is the zero it was set to
      have hcount : t.self.m_nBytesReceived = 0 := hcount.trans hzero
      exact ⟨fun _ => Or.inl hcount, fun _ => Or.inl hcount⟩
    -- `Settled` reads the script and `errno`, on which `u` and `s` agree
    · have hfrom : Settled (receiveCounts u.self.m_nSocketType) .received u t :=
        hsettled.frame rfl rfl rfl rfl
      rw [htype] at hfrom
      have hhere : Settled (receiveCounts s.self.m_nSocketType) .received s t :=
        hfrom.frame (by rw [hscript]) herrno rfl rfl
      exact ⟨fun _ => Or.inr ⟨rfl, hhere.frame rfl rfl rfl rfl, rfl⟩,
        fun _ => Or.inr ⟨trivial, hhere.frame rfl rfl rfl rfl, rfl⟩⟩
  rw [wp_receive_iff]
  refine ⟨fun _ => Or.inl rfl, fun _ => ⟨fun hnone => ?_, fun _ => hrest _ rfl rfl rfl rfl⟩⟩
  subst hnone
  refine wp_mono (fun _ u h => ?_) (fun _ _ h => h) (wp_provideBuffer_calls nMaxBytes _)
  obtain ⟨hscript, herrno, hcount, htype, -⟩ := h
  exact hrest u hscript herrno hcount htype

end ClSocket
