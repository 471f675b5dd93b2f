import ClSocket.Descriptor.Reachable
import ClSocket.Errors.Outcome

/-!
# What a zero of `Send` or `Receive` means

For a reader and a writer zero is the peer's shutdown, and `-1` that nothing could be done
(`ZeroTold`). A method that gets as far as a system call returns the count of its last call: a
success ends the loop only as the very first answer, with an `errno` other than `EINTR`
(`LastTold`).

But the count starts at zero, and on an object without a descriptor, or of another type than TCP and
UDP, it stays so and is returned. `zero_told_iff` says that these and a count that is a multiple of
`2 ^ 32` are the ways in which a zero does not mean what it should.
-/

namespace ClSocket

open Prog CSimpleSocket

/-- **A zero is the answer of the last call**, and without a call the result is `-1`. -/
structure ZeroTold (r : Int) (t : Trace) : Prop where
  zero : r = 0 → (transfersIn t).getLast? = some (.ok 0)
  untried : transfersIn t = [] → r = -1

/-- The result is the count of the last call, which is a success exactly when the first answer is
one that counts. -/
def LastTold (first : Option (Answer ℕ)) (Ends : Prop) (r : Int) (t : Trace) : Prop :=
  ∃ a, (transfersIn t).getLast? = some a ∧ r = narrow a.ret ∧
    ∀ k, a = .ok k ↔ first = some (.ok k) ∧ Ends

/-- The first answer is a success whose count is not zero but reads as zero. -/
def ReadsAsZero (first : Option (Answer ℕ)) (Ends : Prop) : Prop :=
  ∃ k, first = some (.ok k) ∧ k ≠ 0 ∧ narrow k = 0 ∧ Ends

/-- Without a call a zero is wrong. -/
theorem not_zeroTold_of_idle {t : Trace} (h : transfersIn t = []) : ¬ ZeroTold 0 t := by
  intro hz
  have hlast := hz.zero rfl
  rw [h] at hlast
  cases hlast

/-- With a call it is wrong for a count that only reads as zero. -/
theorem LastTold.zeroTold_iff {first : Option (Answer ℕ)} {Ends : Prop} {r : Int} {t : Trace}
    (h : LastTold first Ends r t) : ZeroTold r t ↔ ¬ ReadsAsZero first Ends := by
  obtain ⟨a, hlast, rfl, hok⟩ := h
  have hcalls : transfersIn t ≠ [] := by
    intro hnil
    rw [hnil] at hlast
    cases hlast
  constructor
  · rintro hz ⟨k, hfirst, hk, hnarrow, hends⟩
    -- the count was a multiple of 2^32, and is told as zero
    obtain rfl := (hok k).mpr ⟨hfirst, hends⟩
    have hzero := hz.zero hnarrow
    rw [hlast] at hzero
    cases hzero
    exact hk rfl
  · refine fun hreads => ⟨fun hzero => ?_, fun hnil => absurd hnil hcalls⟩
    -- a zero is that of a success, and then of one that moved nothing
    cases a with
    | fail e =>
      rw [Answer.ret_fail, narrow_neg_one] at hzero
      cases hzero
    | ok k =>
      obtain ⟨hfirst, hends⟩ := (hok k).mp rfl
      by_cases hk : k = 0
      · rw [hlast, hk]
      · exact absurd ⟨k, hfirst, hk, hzero, hends⟩ hreads

/-! ### The loops -/

/-- The last call of a loop, by the first answer ahead of it. -/
def LoopTold (queue : Script → List (Answer ℕ)) (c : Counter) (s t : State) : Prop :=
  LastTold (queue s.os.script).head? (s.os.errno ≠ EINTR) (c.read t.self) t.trace

/-- **A retry loop** ends with a success only when that is its first answer and `errno` is not
`EINTR`. -/
theorem wp_whileInterrupted_told {β : Type} {queue : Script → List (Answer ℕ)} {c : Counter}
    {round : β → M β} (hround : ∀ b t, wp (round b) (fun _ u => CallsOnce queue c t u)
      (fun _ _ => True) t) (n : ℕ) (b : β) (s : State) :
    wp (whileInterrupted n round b) (fun _ t => LoopTold queue c s t) (fun _ _ => True) s := by
  -- between rounds nothing has been called yet, or `EINTR` is there and no success can count
  refine wp_iter (fun _ _ t => t = s ∨ t.os.errno = EINTR ∧
    ∀ k, ¬((queue s.os.script).head? = some (.ok k) ∧ s.os.errno ≠ EINTR)) ?round
    (fun _ _ _ => trivial) n b s (Or.inl rfl)
  case round =>
    intro _ b t ht
    rw [wp_bind]
    refine wp_mono (fun b' u hu => ?_) (fun _ _ h => h) (hround b t)
    simp only [wp_bind, wp_translateSocketError, wp_this, wp_ite, wp_pure, State.upd_self,
      translateErrno_eq_interrupted, Round.post_again, Round.post_leave]
    obtain ⟨a, hfirst, herrno, hcount, hcalls⟩ := hu
    refine ⟨fun hintr => Or.inr ⟨hintr, ?_⟩, fun hleave => ⟨a, ?_, ?_, ?_⟩⟩
    · rcases ht with rfl | ⟨-, hno⟩
      · rintro k ⟨hk, he⟩
        rw [hfirst] at hk
        cases hk
        exact he (herrno.symm.trans hintr)
      · exact hno
    · rw [State.upd_trace, hcalls]
      simp
    · exact (c.read_frame _ _).trans hcount
    · intro k
      rcases ht with rfl | ⟨hintr, hno⟩
      · rw [hfirst, Option.some.injEq]
        refine ⟨fun hk => ⟨hk, ?_⟩, fun h => h.1⟩
        subst hk
        exact fun he => hleave (herrno.trans he)
      · refine iff_of_false (fun hk => hleave ?_) (hno k)
        subst hk
        exact herrno.trans hintr

/-! ### The three functions -/

/-- The object has a descriptor, and is of a type that data is moved for. -/
def CSimpleSocket.Moves (o : CSimpleSocket) : Prop :=
  o.isSocketValid = true ∧ (o.m_nSocketType = .socketTypeTcp ∨ o.m_nSocketType = .socketTypeUdp)

/-- The result is told of by the last call, or is zero without a call. -/
def Told (first : Option (Answer ℕ)) (Ends : Prop) (s : State) (r : Int) (t : State) : Prop :=
  (s.self.Moves → LastTold first Ends r t.trace) ∧
    (¬ s.self.Moves → r = 0 ∧ transfersIn t.trace = transfersIn s.trace)

/-- Both are told by the calls. -/
theorem Told.congr {first : Option (Answer ℕ)} {Ends : Prop} {s t u : State} {r : Int}
    (h : Told first Ends s r t) (htrace : transfersIn u.trace = transfersIn t.trace) :
    Told first Ends s r u := by
  obtain ⟨hmoves, hidle⟩ := h
  refine ⟨fun hm => ?_, fun hnot => ⟨(hidle hnot).1, htrace.trans (hidle hnot).2⟩⟩
  rw [LastTold, htrace]
  exact hmoves hm

theorem wp_sendTimed_told {queue : Script → List (Answer ℕ)} {round : M Unit}
    (hround : ∀ t, wp round (fun _ u => CallsOnce queue .sent t u) (fun _ _ => True) t) (s : State) :
    wp (sendTimed queue round) (fun _ t => LoopTold queue .sent s t) (fun _ _ => True) s := by
  simp only [sendTimed, wp_bind, wp_timerInitialize, wp_setStartTime, wp_script, wp_setEndTime]
  exact wp_mono (fun _ _ h => h) (fun _ _ h => h) (wp_whileInterrupted_told (fun _ => hround) _ () _)

theorem wp_send_told (buf : Bytes) {n : ℕ} (hn : 0 < n) (s : State) :
    wp (CSimpleSocket.send (some buf) n)
      (Told (sendCounts s.self.m_nSocketType s.os.script).head? (s.os.errno ≠ EINTR) s)
      (fun _ _ => True) s := by
  have hmade : s.self.isSocketValid = true → s.self.isSocketValid = true ∧ 0 < n ∧ some buf ≠ none :=
    fun hvalid => ⟨hvalid, hn, Option.some_ne_none buf⟩
  simp only [CSimpleSocket.send, wp_bind, wp_setSocketError, wp_assign, wp_this, wp_ite, wp_when,
    wp_pure, State.upd_self]
  refine ⟨fun htcp => ⟨fun hmade' => ?tcp, fun hno => ?_⟩,
    fun htcp => ⟨fun hudp => ⟨fun hmade' => ?udp, fun hno => ?_⟩, fun hudp => ?_⟩⟩
  case tcp =>
    refine wp_mono (fun _ t h => ?_) (fun _ _ h => h) (wp_sendTimed_told (callsOnce_sendRound _) _)
    rw [sendCounts, if_pos htcp]
    exact ⟨fun _ => h, fun hnot => absurd ⟨hmade'.1, Or.inl htcp⟩ hnot⟩
  case udp =>
    refine wp_mono (fun _ t h => ?_) (fun _ _ h => h) (wp_sendTimed_told (callsOnce_sendtoRound _) _)
    rw [sendCounts, if_neg htcp]
    exact ⟨fun _ => h, fun hnot => absurd ⟨hmade'.1, Or.inr hudp⟩ hnot⟩
  · exact ⟨fun hmoves => absurd (hmade hmoves.1) hno, fun _ => ⟨rfl, rfl⟩⟩
  · exact ⟨fun hmoves => absurd (hmade hmoves.1) hno, fun _ => ⟨rfl, rfl⟩⟩
  -- any other type sends nothing
  · exact ⟨fun hmoves => hmoves.2.elim (absurd · htcp) (absurd · hudp), fun _ => ⟨rfl, rfl⟩⟩

/-- `CPassiveSocket::Send` does not look at `errno` after a datagram. -/
theorem wp_passiveSend_told (buf : Bytes) {n : ℕ} (hn : 0 < n) (s : State) :
    wp (CPassiveSocket.send (some buf) n)
      (Told (sendCounts s.self.m_nSocketType s.os.script).head?
        (s.self.m_nSocketType ≠ .socketTypeUdp → s.os.errno ≠ EINTR) s) (fun _ _ => True) s := by
  simp only [CPassiveSocket.send, wp_bind, wp_setSocketError, wp_assign, wp_this, wp_ite, wp_when,
    wp_pure, State.upd_self]
  refine ⟨fun hudp => ⟨fun hmade => ?udp, fun hno => ?_⟩, fun hudp => ⟨fun htcp => ?tcp, fun htcp => ?_⟩⟩
  -- a datagram is sent once: its answer is the first there is, and the last that is given
  case udp =>
    simp only [CPassiveSocket.sendtoClient, wp_bind, wp_timerInitialize, wp_setStartTime, wp_this,
      sysSendto, wp_issue_iff]
    refine ⟨fun _ => trivial, fun a rest hq => ?_⟩
    have hfirst : (sendCounts s.self.m_nSocketType s.os.script).head? = some a := by
      rw [hudp, sendCounts, if_neg (by decide), show s.os.script.sendto = a :: rest from hq]
      rfl
    have hlast : ∀ t : State, t.trace = s.trace ++ [.sendto s.self.m_socket
        (((some buf).getD []).take n) s.self.m_stClientSockaddr a] →
          (transfersIn t.trace).getLast? = some a := by
      intro t ht
      rw [ht, transfersIn_concat _ rfl]
      simp
    have htold : ∀ t : State, t.trace = s.trace ++ [.sendto s.self.m_socket
        (((some buf).getD []).take n) s.self.m_stClientSockaddr a] →
          Told (sendCounts s.self.m_nSocketType s.os.script).head?
            (s.self.m_nSocketType ≠ .socketTypeUdp → s.os.errno ≠ EINTR) s (narrow a.ret) t := by
      refine fun t ht => ⟨fun _ => ⟨a, hlast t ht, rfl, fun k => ?_⟩, fun hnot =>
        absurd ⟨hmade.1, Or.inr hudp⟩ hnot⟩
      rw [hfirst, Option.some.injEq]
      exact ⟨fun hk => ⟨hk, fun hne => absurd hudp hne⟩, fun h => h.1⟩
    simp only [wp_assign, wp_setEndTime, wp_when, wp_translateSocketError]
    generalize narrow a.ret = k at htold
    exact ⟨fun _ => htold _ rfl, fun _ => htold _ rfl⟩
  -- a stream is left to the `Send` of the base class, which does look at `errno`
  case tcp =>
    refine wp_mono (fun r t h => ?_) (fun _ _ h => h)
      (wp_and (wp_send_told buf hn _) (tells_send _ (some buf) n))
    obtain ⟨⟨hmoves, hidle⟩, hcount, -⟩ := h
    rw [← hcount]
    refine ⟨fun hm => ?_, hidle⟩
    obtain ⟨a, hlast, hr, hok⟩ := hmoves hm
    exact ⟨a, hlast, hr, fun k => (hok k).trans (and_congr_right fun _ => ⟨fun he _ => he, fun he => he hudp⟩)⟩
  -- no descriptor, or neither of the two types: nothing is sent
  · exact ⟨fun hmoves => absurd ⟨hmoves.1, hn, Option.some_ne_none buf⟩ hno, fun _ => ⟨rfl, rfl⟩⟩
  · exact ⟨fun hmoves => hmoves.2.elim (absurd · htcp) (absurd · hudp), fun _ => ⟨rfl, rfl⟩⟩

theorem wp_receiveLoop_told (nMaxBytes : Int) (pBuffer : Option Bytes) (s : State) :
    wp (receiveLoop nMaxBytes pBuffer) (fun _ t =>
      (s.self.m_nSocketType = .socketTypeTcp ∨ s.self.m_nSocketType = .socketTypeUdp →
        LoopTold (receiveCounts s.self.m_nSocketType) .received s t) ∧
      (¬(s.self.m_nSocketType = .socketTypeTcp ∨ s.self.m_nSocketType = .socketTypeUdp) →
        t.self.m_nBytesReceived = s.self.m_nBytesReceived ∧ t.trace = s.trace))
      (fun _ _ => True) s := by
  simp only [receiveLoop, receiveCounts, wp_bind, wp_this, wp_script, wp_ite, wp_pure]
  refine ⟨fun htcp => ?_, fun htcp => ⟨fun hudp => ?_, fun hudp => ?_⟩⟩
  · rw [if_pos htcp]
    exact wp_mono (fun _ _ h => ⟨fun _ => h, fun hnot => absurd (Or.inl htcp) hnot⟩) (fun _ _ h => h)
      (wp_whileInterrupted_told (callsOnce_recvRound nMaxBytes) _ _ _)
  · rw [if_neg htcp]
    exact wp_mono (fun _ _ h => ⟨fun _ => h, fun hnot => absurd (Or.inr hudp) hnot⟩) (fun _ _ h => h)
      (wp_whileInterrupted_told (callsOnce_recvfromRound nMaxBytes) _ _ _)
  · exact ⟨fun h => h.elim (absurd · htcp) (absurd · hudp), fun _ => ⟨trivial, trivial⟩⟩

theorem wp_receive_told (nMaxBytes : Int) (pBuffer : Option Bytes) (s : State) :
    wp (receive nMaxBytes pBuffer) (fun r => Told
      (receiveCounts s.self.m_nSocketType s.os.script).head? (s.os.errno ≠ EINTR) s r.1)
      (fun _ _ => True) s := by
  -- what is left once there is a block, from a state that agrees with `s`
  have hrest : ∀ u : State, s.self.isSocketValid = true → u.os.script = s.os.script →
      u.os.errno = s.os.errno → u.self.m_nBytesReceived = 0 →
        u.self.m_nSocketType = s.self.m_nSocketType → transfersIn u.trace = transfersIn s.trace →
          wp (receiveTimed nMaxBytes pBuffer) (fun r => Told
            (receiveCounts s.self.m_nSocketType s.os.script).head? (s.os.errno ≠ EINTR) s r.1)
            (fun _ _ => True) u := by
    intro u hvalid hscript herrno hzero htype htrace
    simp only [receiveTimed, wp_bind, wp_setSocketError, wp_timerInitialize, wp_setStartTime,
      wp_setEndTime, wp_translateSocketError, wp_this, wp_when, wp_deleteBuffer, wp_pure]
    refine wp_mono (fun out t h => ?_) (fun _ _ h => h) (wp_receiveLoop_told nMaxBytes pBuffer _)
    simp only [State.upd_self, State.upd_os, State.upd_trace, State.tick_self, State.tick_script,
      State.tick_errno, State.tick_trace, LoopTold, hscript, herrno, htype, hzero] at h
    have htold : Told (receiveCounts s.self.m_nSocketType s.os.script).head? (s.os.errno ≠ EINTR) s
        t.self.m_nBytesReceived t := by
      refine ⟨fun hm => h.1 hm.2, fun hnot => ?_⟩
      obtain ⟨hcount, ht⟩ := h.2 fun hm => hnot ⟨hvalid, hm⟩
      exact ⟨hcount, by rw [ht, htrace]⟩
    -- freeing the buffer makes no call
    exact ⟨fun _ => htold.congr (transfersIn_bufferDeleted _), fun _ => htold⟩
  rw [wp_receive_iff]
  refine ⟨fun hinvalid => ⟨fun hm => ?_, fun _ => ⟨rfl, rfl⟩⟩, fun hvalid => ⟨fun hnone => ?_,
    fun _ => hrest _ hvalid rfl rfl rfl rfl rfl⟩⟩
  · exact absurd hm.1 (by rw [hinvalid]; decide)
  · subst hnone
    refine wp_mono (fun _ u h => ?_) (fun _ _ h => h) (wp_provideBuffer_calls nMaxBytes _)
    obtain ⟨hscript, herrno, hcount, htype, htrace⟩ := h
    exact hrest u hvalid hscript herrno hcount htype htrace

/-! ### All of them -/

/-- A call of `Receive` with room for something, or of `Send` with something to send. -/
def Op.movesData : Op → Bool
  | .receive nMaxBytes _ => 0 < nMaxBytes
  | .send pBuf bytesToSend => pBuf.isSome && (0 < bytesToSend : Bool)
  | _ => false

/-- The count such a call returns. -/
def Ret.count : Ret → Int
  | .int n | .received n _ => n
  | _ => 0

/-- The first of the answers ahead of it. -/
def Op.firstAnswer (o : CSimpleSocket) (sc : Script) : Op → Option (Answer ℕ)
  | .receive _ _ => (receiveCounts o.m_nSocketType sc).head?
  | .send _ _ => (sendCounts o.m_nSocketType sc).head?
  | _ => none

/-- A success ends it: it finds no `EINTR` in `errno`, or `errno` is not looked at. -/
def Op.endsAtSuccess (cls : SocketClass) (o : CSimpleSocket) (errno : Int) : Op → Prop
  | .send _ _ => cls = .passive ∧ o.m_nSocketType = .socketTypeUdp ∨ errno ≠ EINTR
  | _ => errno ≠ EINTR

theorem wp_run_told (cls : SocketClass) {op : Op} (hop : op.movesData = true) (s : State) :
    wp (op.run cls) (fun ret => Told (op.firstAnswer s.self s.os.script)
      (op.endsAtSuccess cls s.self s.os.errno) s ret.count) (fun _ _ => True) s := by
  cases op with
  | receive nMaxBytes pBuffer => exact (wp_map _ _).mpr (wp_receive_told nMaxBytes pBuffer s)
  | send pBuf n =>
    obtain ⟨hbuf, hn⟩ : pBuf.isSome = true ∧ 0 < n := by simpa [Op.movesData] using hop
    obtain ⟨buf, rfl⟩ := Option.isSome_iff_exists.mp hbuf
    -- each class has its own condition on `errno`, which is the operation's for that class
    have hends : ∀ {P : Prop}, (P ↔ (Op.send (some buf) n).endsAtSuccess cls s.self s.os.errno) →
        ∀ {r : Int} {t : State}, Told (sendCounts s.self.m_nSocketType s.os.script).head? P s r t →
          Told (sendCounts s.self.m_nSocketType s.os.script).head?
            ((Op.send (some buf) n).endsAtSuccess cls s.self s.os.errno) s r t := by
      intro P hP r t h
      rwa [← propext hP]
    refine (wp_map _ _).mpr ?_
    cases cls with
    | passive =>
      refine wp_mono (fun _ _ h => hends ?_ h) (fun _ _ h => h) (wp_passiveSend_told buf hn s)
      simp [Op.endsAtSuccess, imp_iff_not_or]
    | simple =>
      exact wp_mono (fun _ _ h => hends (by simp [Op.endsAtSuccess]) h) (fun _ _ h => h)
        (wp_send_told buf hn s)
    | active =>
      exact wp_mono (fun _ _ h => hends (by simp [Op.endsAtSuccess]) h) (fun _ _ h => h)
        (wp_send_told buf hn s)
  | _ => cases hop

/-- **When a zero means what it should.** -/
theorem zero_told_iff {cls : SocketClass} {o : CSimpleSocket} {op : Op} {os : Os} {ret : Ret}
    {t : State} (hop : op.movesData = true) (hrun : call (op.run cls) o os = .done ret t) :
    ZeroTold ret.count t.trace ↔ o.isSocketValid = true ∧
      (o.m_nSocketType = .socketTypeTcp ∨ o.m_nSocketType = .socketTypeUdp) ∧
        ¬ ReadsAsZero (op.firstAnswer o os.script) (op.endsAtSuccess cls o os.errno) := by
  obtain ⟨hmoves, hidle⟩ := wp_call (wp_run_told cls hop _) hrun
  by_cases hm : o.Moves
  · rw [(hmoves hm).zeroTold_iff]
    exact ⟨fun h => ⟨hm.1, hm.2, h⟩, fun h => h.2.2⟩
  · obtain ⟨hzero, htrace⟩ := hidle hm
    rw [hzero]
    exact iff_of_false (not_zeroTold_of_idle htrace) fun h => hm ⟨h.1, h.2.1⟩

/-- The peer has shut down. -/
theorem zero_told_shutdown : ∃ ret t, call ((Op.receive 8 none).run .active) Reachable.initialized
    (.idle { recv := [.ok []] }) = .done ret t ∧ ret.count = 0 ∧ ZeroTold ret.count t.trace := by
  have hrun : ∃ ret t, call ((Op.receive 8 none).run .active) Reachable.initialized
      (.idle { recv := [.ok []] }) = .done ret t ∧ ret.count = 0 := ⟨_, _, rfl, rfl⟩
  obtain ⟨ret, t, ht, hzero⟩ := hrun
  refine ⟨ret, t, ht, hzero, (zero_told_iff rfl ht).mpr ⟨rfl, Or.inl rfl, ?_⟩⟩
  rintro ⟨k, hk, hne, -⟩
  cases hk
  exact hne rfl

/-- An object that was never given a descriptor reads as one whose peer has shut down. -/
theorem zero_untold_invalid : Reachable .active (.construct .zeroed .socketTypeTcp) ∧
    ∃ ret t, call ((Op.receive 8 none).run .active) (.construct .zeroed .socketTypeTcp)
      (.idle {}) = .done ret t ∧ ret.count = 0 ∧ ¬ ZeroTold ret.count t.trace :=
  ⟨.constructed _ _ _, _, _, rfl, rfl, not_zeroTold_of_idle rfl⟩

end ClSocket
