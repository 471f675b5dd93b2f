import ClSocket.Method.Conduct
import ClSocket.Transfer.Receiving
import ClSocket.Transfer.Sending

/-!
# What a call moves

Of the calls in a trace `send` and `writev` put bytes on the way to the other end (`Event.put`) and
`recv` takes bytes that have arrived (`Event.took`). What the program is told about them is another
matter: the count `Send` returns (`Op.reportedSent`) and the front of the buffer after `Receive`
(`Op.reportedReceived`).

The two differ after an interruption only. `Send` sends its block again when it finds `EINTR`, and
`Receive` then reads on past what it has; a call that nothing interrupts moves exactly what it
reports (`taken_undisturbed`, `wp_send_end`).
-/

namespace ClSocket

open Prog CSimpleSocket

/-! ### What goes over the connection -/

/-- The bytes a call put on the way. -/
def Event.put : Event → Bytes
  | .send _ data (.ok n) => data.take n
  | .writev _ items (.ok n) => items.flatten.take n
  | _ => []

/-- The bytes a call took of what has arrived. -/
def Event.took (e : Event) : Bytes := e.removed?.getD []

/-- The system takes and delivers no more than it is asked to. -/
def Event.Sane : Event → Prop
  | .send _ data (.ok n) => n ≤ data.length
  | .writev _ items (.ok n) => n ≤ items.flatten.length
  | .recv _ _ len _ (.ok bs) => (bs.length : Int) ≤ len
  | _ => True

instance : DecidablePred Event.Sane
  | .send _ _ (.ok _) => inferInstanceAs (Decidable (_ ≤ _))
  | .writev _ _ (.ok _) => inferInstanceAs (Decidable (_ ≤ _))
  | .recv _ _ _ _ (.ok _) => inferInstanceAs (Decidable (_ ≤ _))
  | .send _ _ (.fail _) | .writev _ _ (.fail _) | .recv _ _ _ _ (.fail _) => isTrue trivial
  | .socket _ _ _ | .close _ _ | .bind _ _ _ | .listen _ _ _ | .accept _ _ | .connect _ _ _ =>
    isTrue trivial
  | .getpeername _ _ | .getsockname _ _ | .setsockopt _ _ _ _ _ | .getsockopt _ _ _ _ _ => isTrue trivial
  | .sendto _ _ _ _ | .recvfrom _ _ _ | .select _ _ _ _ _ _ | .getfl _ _ | .setfl _ _ _ => isTrue trivial
  | .shutdown _ _ _ | .lseek _ _ _ | .read _ _ _ | .gethostbyname _ _ => isTrue trivial
  | .alloc _ _ | .free _ => isTrue trivial

/-- A call of the trace was interrupted. -/
def Disturbed (t : Trace) : Prop := ∃ e ∈ t, e.interrupts = true

/-- What was taken, as a stream. -/
theorem flatMap_took (t : Trace) : t.flatMap Event.took = (removedIn t).flatten := by
  induction t with
  | nil => rfl
  | cons e t ih =>
    rw [List.flatMap_cons, ih, removedIn_cons, List.flatten_append, Event.took]
    cases e.removed? <;> simp

theorem Disturbed.append_left {t : Trace} (h : Disturbed t) (u : Trace) : Disturbed (t ++ u) := by
  obtain ⟨e, he, hi⟩ := h
  exact ⟨e, List.mem_append_left u he, hi⟩

/-- What `recv` answered. -/
def Event.heard? : Event → Option (Answer Bytes)
  | .recv _ _ _ _ res => some res
  | _ => none

/-- The last answer of `recv`. -/
def heardIn (t : Trace) : Option (Answer Bytes) := (t.filterMap Event.heard?).getLast?

/-- An earlier answer is the last one as long as there is no later. -/
theorem heardIn_cons (e : Event) (t : Trace) (heard : Option (Answer Bytes)) :
    (heardIn (e :: t)).or heard = (heardIn t).or (e.heard?.or heard) := by
  unfold heardIn
  cases he : e.heard? with
  | none =>
    rw [List.filterMap_cons_none he]
    rfl
  | some res =>
    rw [List.filterMap_cons_some he, List.getLast?_cons]
    cases (t.filterMap Event.heard?).getLast? <;> rfl

/-- What was heard last, if it was bytes, has been removed. -/
theorem mem_removedIn_of_heardIn {t : Trace} {bs : Bytes} (h : heardIn t = some (.ok bs)) :
    bs ∈ removedIn t := by
  obtain ⟨e, he, hheard⟩ := List.mem_filterMap.mp (List.mem_of_getLast? h)
  refine List.mem_filterMap.mpr ⟨e, he, ?_⟩
  cases e with
  | recv fd off len flags res =>
    obtain rfl : res = .ok bs := Option.some.inj hheard
    rfl
  | _ => cases hheard

/-! ### What `Receive` calls -/

/-- What `Receive` calls on the descriptor `fd` for `n` bytes. -/
def Event.isReceipt (fd n : Int) : Event → Prop
  | .recv fd' _ len _ _ => fd' = fd ∧ len = n
  | .recvfrom fd' len _ => fd' = fd ∧ len = n
  | .alloc _ _ | .free _ => True
  | _ => False

theorem Event.isReceipt.put {fd n : Int} {e : Event} (h : e.isReceipt fd n) : e.put = [] := by
  cases e <;> first | rfl | exact h.elim

/-- The descriptor is as it was, and the calls made on it are receipts. -/
def Receipts (n : Int) (s t : State) : Prop :=
  t.self.m_socket = s.self.m_socket ∧
    ∃ calls, t.trace = s.trace ++ calls ∧ ∀ e ∈ calls, e.isReceipt s.self.m_socket n

section

variable {n : Int}

theorem Receipts.of_eq {s t : State} (hsocket : t.self.m_socket = s.self.m_socket)
    (htrace : t.trace = s.trace) : Receipts n s t := ⟨hsocket, [], by rw [htrace]; simp, by simp⟩

/-- One more call. -/
theorem Receipts.of_snoc {s t : State} {e : Event} (hsocket : t.self.m_socket = s.self.m_socket)
    (htrace : t.trace = s.trace ++ [e]) (he : e.isReceipt s.self.m_socket n) : Receipts n s t := by
  refine ⟨hsocket, [e], htrace, ?_⟩
  rw [List.forall_mem_singleton]
  exact he

instance : Std.Refl (Receipts n) := ⟨fun _ => .of_eq rfl rfl⟩

instance : IsTrans State (Receipts n) := ⟨by
  rintro s t u ⟨hst, calls, ht, hall⟩ ⟨htu, calls', hu, hall'⟩
  refine ⟨htu.trans hst, calls ++ calls', by rw [hu, ht, List.append_assoc], fun e he => ?_⟩
  rw [hst] at hall'
  exact (List.mem_append.mp he).elim (hall e) (hall' e)⟩

theorem receipts_deleteBuffer : Keeps (Receipts n) deleteBuffer := by
  refine fun s => ⟨rfl, _, rfl, fun e he => ?_⟩
  obtain ⟨b, -, rfl⟩ := List.mem_map.mp he
  trivial

theorem receipts_provideBuffer : Keeps (Receipts n) (provideBuffer n) := by
  refine keeps_bind keeps_this fun o => keeps_bind (keeps_ite receipts_deleteBuffer (keeps_pure _))
    fun _ => fun s => ?_
  simp only [wp_bind, wp_this, wp_when, wp_assign, wp_newBytes]
  exact ⟨fun _ => ⟨fun _ => .of_eq rfl rfl, fun _ => .of_snoc rfl rfl trivial⟩,
    fun _ => .of_eq rfl rfl⟩

theorem receipts_deliver (pBuffer : Option Bytes) (offset : Int) (bs : Bytes) :
    Keeps (Receipts n) (deliver pBuffer offset bs) :=
  keeps_bind (keeps_ite (fun _ => .of_eq rfl rfl) (keeps_pure _)) fun _ => keeps_pure _

theorem receipts_recvRound (pBuffer : Option Bytes) : Keeps (Receipts n) (recvRound n pBuffer) := by
  intro s
  rw [recvRound, wp_bind, wp_this, wp_bind, sysRecv, wp_issue_iff]
  refine ⟨fun _ => .of_eq rfl rfl, fun res rest _ => ?_⟩
  have hcall : Receipts n s ((s.answered { s.os.script with recv := rest } (res.errno s.os.errno)
      (.recv s.self.m_socket s.self.m_nBytesReceived n s.self.m_nFlags res)).upd fun o =>
        { o with m_nBytesReceived := narrow (res.count List.length).ret }) :=
    .of_snoc rfl rfl ⟨rfl, rfl⟩
  rw [wp_bind, wp_assign]
  cases res with
  | fail e => exact hcall
  | ok bs =>
    exact wp_mono (fun _ _ h => IsTrans.trans _ _ _ hcall h) (fun _ _ h => IsTrans.trans _ _ _ hcall h)
      (receipts_deliver _ _ _ _)

theorem receipts_recvfromRound (pBuffer : Option Bytes) :
    Keeps (Receipts n) (recvfromRound n pBuffer) := by
  intro s
  rw [recvfromRound, wp_bind, wp_this, wp_bind, sysRecvfrom, wp_issue_iff]
  refine ⟨fun _ => .of_eq rfl rfl, fun res rest _ => ?_⟩
  have hcall : Receipts n s ((s.answered { s.os.script with recvfrom := rest }
      (res.errno s.os.errno) (.recvfrom s.self.m_socket n res)).upd fun o =>
        { o with m_nBytesReceived := narrow (res.count fun d => d.1.length).ret }) :=
    .of_snoc rfl rfl ⟨rfl, rfl⟩
  rw [wp_bind, wp_assign]
  cases res with
  | fail e => exact hcall
  | ok d =>
    -- the sender's address is stored without a call
    have hsource : Keeps (Receipts n) (assign fun o => if o.m_bIsMulticast = true then
        { o with m_stMulticastGroup := d.2 } else { o with m_stClientSockaddr := d.2 }) := by
      intro s
      refine .of_eq ?_ rfl
      rw [State.upd_self]
      split <;> rfl
    exact wp_mono (fun _ _ h => IsTrans.trans _ _ _ hcall h) (fun _ _ h => IsTrans.trans _ _ _ hcall h)
      (keeps_bind hsource (fun _ => receipts_deliver _ _ _) _)

/-- **`Receive` makes no other calls**, whether it returns or not. -/
theorem receipts_receive (pBuffer : Option Bytes) : Keeps (Receipts n) (receive n pBuffer) := by
  have hassign : ∀ f : CSimpleSocket → CSimpleSocket, (∀ o, (f o).m_socket = o.m_socket) →
      Keeps (Receipts n) (assign f) := fun _ hf _ => .of_eq (hf _) rfl
  have htranslate : Keeps (Receipts n) translateSocketError := fun _ => .of_eq rfl rfl
  have htimer : Keeps (Receipts n) setStartTime := fun _ => .of_eq rfl rfl
  have hloop : Keeps (Receipts n) (receiveLoop n pBuffer) :=
    keeps_bind keeps_this fun _ => keeps_bind keeps_script fun _ => keeps_ite
      (keeps_whileInterrupted receipts_recvRound htranslate _ _)
      (keeps_ite (keeps_whileInterrupted receipts_recvfromRound htranslate _ _) (keeps_pure _))
  exact keeps_bind (hassign _ fun _ => rfl) fun _ => keeps_bind keeps_this fun _ =>
    keeps_ite (keeps_pure _) <|
      keeps_bind (keeps_ite receipts_provideBuffer (keeps_pure _)) fun _ =>
        keeps_bind (hassign _ fun _ => rfl) fun _ => keeps_bind (hassign _ fun _ => rfl) fun _ =>
          keeps_bind htimer fun _ => keeps_bind hloop fun _ =>
            keeps_bind (fun _ => .of_eq rfl rfl) fun _ => keeps_bind htranslate fun _ =>
              keeps_bind keeps_this fun _ =>
                keeps_bind (keeps_ite receipts_deleteBuffer (keeps_pure _)) fun _ => keeps_pure _

end

/-! ### What `Receive` lands -/

/-- The loop of `Receive` before a call has succeeded, and none been interrupted. -/
structure Untaken (e nMaxBytes : Int) (pBuffer : Option Bytes) (t : State) : Prop where
  removed : removedIn t.trace = []
  errno_eq : t.os.errno = e
  count : t.self.m_nBytesReceived = 0
  room : ∃ block, readBlock pBuffer t.self.m_pBuffer = some block ∧ nMaxBytes ≤ block.length

/-- A round after the first finds `EINTR`, which was there before or is due to an interruption. -/
structure Astray (e : Int) (t : State) : Prop where
  errno_eq : t.os.errno = EINTR
  why : e = EINTR ∨ Disturbed t.trace

/-- **How `Receive` ends**, started with `e` in `errno`: it fails, and has lost bytes only over an
interruption; or it has landed what one call took. -/
structure Received (e : Int) (out : Option Bytes) (t : State) : Prop where
  errno_ne : t.os.errno ≠ EINTR
  heard : ∃ res, heardIn t.trace = some res ∧
    t.self.m_nBytesReceived = narrow (res.count List.length).ret
  result : (t.self.m_nBytesReceived = -1 ∧
      (removedIn t.trace ≠ [] → e = EINTR ∨ Disturbed t.trace)) ∨
    (∃ bs, removedIn t.trace = [bs]) ∧ ((∀ ev ∈ t.trace, ev.Sane) → Landed out t)

/-- One call of `recv`, and where its bytes go. -/
structure RecvRound (nMaxBytes : Int) (pBuffer out : Option Bytes) (t u : State)
    (res : Answer Bytes) : Prop where
  trace_eq : u.trace = t.trace ++
    [.recv t.self.m_socket t.self.m_nBytesReceived nMaxBytes t.self.m_nFlags res]
  errno_eq : u.os.errno = res.errno t.os.errno
  count : u.self.m_nBytesReceived = narrow (res.count List.length).ret
  block : ∀ bs, res = .ok bs → readBlock out u.self.m_pBuffer =
    (readBlock pBuffer t.self.m_pBuffer).map fun b => writeAt b t.self.m_nBytesReceived bs

theorem wp_recvRound (nMaxBytes : Int) (pBuffer : Option Bytes) (t : State) :
    wp (recvRound nMaxBytes pBuffer) (fun out u => ∃ res, RecvRound nMaxBytes pBuffer out t u res)
      (fun _ _ => True) t := by
  rw [recvRound, wp_bind, wp_this, wp_bind, sysRecv, wp_issue_iff]
  refine ⟨fun _ => trivial, fun res rest _ => ?_⟩
  rw [wp_bind, wp_assign]
  -- the stored count is a number of its own from here on
  generalize hn : narrow (res.count List.length).ret = n
  cases res with
  | fail e => exact ⟨.fail e, rfl, rfl, hn.symm, fun bs h => by cases h⟩
  | ok bs =>
    refine wp_mono (fun out u h => ?_) (fun _ _ h => h.elim) (wp_deliver pBuffer _ bs _)
    obtain ⟨hblock, hos, htrace, hcount⟩ := h
    refine ⟨.ok bs, htrace, by rw [hos]; rfl, hcount.trans hn.symm, fun bs' h => ?_⟩
    cases h
    exact hblock

section

variable {e nMaxBytes : Int} {pBuffer out : Option Bytes} {t u : State} {res : Answer Bytes}

/-- A call that fails with `EINTR` is an interruption. -/
theorem RecvRound.disturbed {f : Errno} (h : RecvRound nMaxBytes pBuffer out t u (.fail f))
    (hf : f.1 = EINTR) : Disturbed u.trace := by
  rw [h.trace_eq]
  exact ⟨_, List.mem_append_right _ (List.mem_singleton_self _), beq_iff_eq.mpr hf⟩

/-- The first call lands what it takes. -/
theorem RecvRound.landed {bs : Bytes} (h : RecvRound nMaxBytes pBuffer out t u (.ok bs))
    (hmax : InInt32 nMaxBytes) (ht : Untaken e nMaxBytes pBuffer t)
    (hsane : ∀ ev ∈ u.trace, ev.Sane) : Landed out u := by
  obtain ⟨block, hb, hroom⟩ := ht.room
  have hbs : (bs.length : Int) ≤ nMaxBytes := by
    rw [h.trace_eq] at hsane
    exact hsane _ (List.mem_append_right _ (List.mem_singleton_self _))
  have hnarrow : narrow bs.length = bs.length := by
    obtain ⟨-, hle⟩ := hmax
    exact narrow_eq_self.mpr ⟨by omega, by omega⟩
  refine ⟨bs, writeAt block 0 bs, ?_, h.count.trans hnarrow, ?_, take_writeAt (by omega)⟩
  · rw [h.trace_eq, removedIn_append, ht.removed]
    rfl
  · rw [h.block bs rfl, hb, ht.count]
    rfl

/-- **The loop of `Receive`.** -/
theorem wp_receiveRounds_received (hmax : InInt32 nMaxBytes) (n : ℕ)
    (ht : Untaken e nMaxBytes pBuffer t) :
    wp (whileInterrupted n (recvRound nMaxBytes) pBuffer) (fun out u => Received e out u)
      (fun _ _ => True) t := by
  refine wp_iter (fun _ buf u => Astray e u ∨ Untaken e nMaxBytes buf u) ?_
    (fun _ _ _ => trivial) n pBuffer t (Or.inr ht)
  intro _ buf u hu
  rw [wp_bind]
  refine wp_mono (fun out v h => ?_) (fun _ _ _ => trivial) (wp_recvRound nMaxBytes buf u)
  obtain ⟨res, hround⟩ := h
  simp only [wp_bind, wp_translateSocketError, wp_this, wp_ite, wp_pure, State.upd_self,
    translateErrno_eq_interrupted, Round.post_again, Round.post_leave]
  refine ⟨fun hintr => Or.inl ⟨hintr, ?_⟩, fun hne => ⟨hne, ⟨res, ?_, hround.count⟩, ?_⟩⟩
  -- where the `EINTR` comes from that makes it go round again
  · cases res with
    | fail f => exact Or.inr (hround.disturbed (hround.errno_eq.symm.trans hintr))
    | ok bs =>
      rcases hu with hastray | hfresh
      · refine hastray.why.imp_right fun hd => ?_
        show Disturbed v.trace
        rw [hround.trace_eq]
        exact hd.append_left _
      · exact Or.inl (hfresh.errno_eq.symm.trans (hround.errno_eq.symm.trans hintr))
  -- the call of this round is the last
  · show heardIn v.trace = some res
    simp [hround.trace_eq, heardIn, Event.heard?]
  -- from the first call it is left with what that took, from a later one by a failure
  · cases res with
    | fail f =>
      refine Or.inl ⟨hround.count.trans narrow_neg_one, fun hremoved => ?_⟩
      rcases hu with hastray | hfresh
      · refine hastray.why.imp_right fun hd => ?_
        show Disturbed v.trace
        rw [hround.trace_eq]
        exact hd.append_left _
      · refine absurd ?_ hremoved
        show removedIn v.trace = []
        rw [hround.trace_eq, removedIn_append, hfresh.removed]
        rfl
    | ok bs =>
      rcases hu with hastray | hfresh
      · exact absurd (hround.errno_eq.trans hastray.errno_eq) hne
      · refine Or.inr ⟨⟨bs, ?_⟩, fun hsane => hround.landed hmax hfresh hsane⟩
        show removedIn v.trace = [bs]
        rw [hround.trace_eq, removedIn_append, hfresh.removed]
        rfl

/-- The buffer that is freed after a failure is no part of what landed. -/
theorem Received.bufferDeleted (h : Received e out t) (hfail : t.self.m_nBytesReceived = -1) :
    Received e out (bufferDeleted t) := by
  have hkept : ∀ ev, ev ∈ t.trace → ev ∈ (CSimpleSocket.bufferDeleted t).trace := fun ev hev =>
    List.mem_append_left _ hev
  have hremoved : removedIn (CSimpleSocket.bufferDeleted t).trace = removedIn t.trace :=
    filterMap_bufferDeleted (fun _ => rfl) t
  obtain ⟨res, hheard, hcount⟩ := h.heard
  have hheard' : heardIn (CSimpleSocket.bufferDeleted t).trace = some res :=
    (congrArg List.getLast? (filterMap_bufferDeleted (fun _ => rfl) t)).trans hheard
  refine ⟨h.errno_ne, ⟨res, hheard', hcount⟩, ?_⟩
  rw [hremoved]
  refine h.result.imp (fun hf => ⟨hf.1, fun hne => (hf.2 hne).imp_right fun hd => hd.append_left _⟩)
    fun hl => ⟨hl.1, fun hsane => ?_⟩
  -- what landed has a count
  obtain ⟨bs, -, -, hcount, -⟩ := hl.2 fun ev hev => hsane ev (hkept ev hev)
  omega

/-- Once there is a block with room. -/
theorem wp_receiveTimed_received (hmax : InInt32 nMaxBytes)
    (htcp : t.self.m_nSocketType = .socketTypeTcp) (ht : Untaken e nMaxBytes pBuffer t) :
    wp (receiveTimed nMaxBytes pBuffer) (fun r u => Received e r.2 u ∧
      r.1 = u.self.m_nBytesReceived ∧ (r.1 = -1 → u.self.m_pBuffer = none)) (fun _ _ => True) t := by
  simp only [receiveTimed, wp_bind, wp_setSocketError, wp_timerInitialize, wp_setStartTime,
    wp_setEndTime, wp_translateSocketError, wp_this, wp_when, wp_deleteBuffer, wp_pure, receiveLoop,
    wp_script, wp_ite]
  refine ⟨fun _ => ?_, fun hother => absurd htcp hother⟩
  refine wp_mono (fun out u h => ?_) (fun _ _ h => h) (wp_receiveRounds_received hmax _
    ⟨ht.removed, ht.errno_eq, ht.count, ht.room⟩)
  -- the end of the section and the translation touch neither the count nor the buffer
  have hend : ∀ f : CSimpleSocket → CSimpleSocket, (∀ o, (f o).m_nBytesReceived = o.m_nBytesReceived ∧
      (f o).m_pBuffer = o.m_pBuffer) → Received e out (u.tick.upd f) := by
    intro f hf
    refine ⟨h.errno_ne, by rw [State.upd_self, (hf _).1]; exact h.heard, ?_⟩
    unfold Landed
    rw [State.upd_self, (hf _).1, (hf _).2]
    exact h.result
  have hdone := hend (fun o => { o with
    m_timer := o.m_timer.ended (u.os.clock u.os.ticks) u.os.ticks
    m_socketErrno := translateErrno u.os.errno }) fun o => ⟨rfl, rfl⟩
  refine ⟨fun hfail => ⟨hdone.bufferDeleted hfail, rfl, fun _ => rfl⟩,
    fun hne => ⟨hdone, trivial, ?_⟩⟩
  exact fun heq => absurd heq hne

end

/-- Providing a buffer leaves `errno` alone. -/
theorem wp_provideBuffer_errno (nMaxBytes : Int) (t : State) :
    wp (provideBuffer nMaxBytes) (fun _ u => u.os.errno = t.os.errno) (fun _ _ => True) t := by
  simp only [provideBuffer, wp_bind, wp_this, wp_when, wp_assign, wp_newBytes, wp_deleteBuffer]
  exact ⟨fun _ => ⟨fun _ => ⟨fun _ => trivial, fun _ => rfl⟩, fun _ => rfl⟩,
    fun _ => ⟨fun _ => ⟨fun _ => trivial, fun _ => rfl⟩, fun _ => trivial⟩⟩

/-- **`Receive`** on a connection, whatever interrupts it. -/
theorem wp_receive_received {nMaxBytes : Int} {pBuffer : Option Bytes} {s : State}
    (hs : s.trace = []) (hvalid : s.self.m_socket ≠ -1)
    (htcp : s.self.m_nSocketType = .socketTypeTcp) (hok : BufferOk s.self) (hpos : 0 < nMaxBytes)
    (hmax : InInt32 nMaxBytes) (hroom : ∀ b, pBuffer = some b → nMaxBytes ≤ b.length) :
    wp (receive nMaxBytes pBuffer) (fun r t => Received s.os.errno r.2 t ∧
      r.1 = t.self.m_nBytesReceived ∧ (r.1 = -1 → t.self.m_pBuffer = none)) (fun _ _ => True) s := by
  rw [wp_receive_iff]
  refine ⟨fun hinv => absurd hinv (by simpa using hvalid), fun _ => ⟨?internal, ?supplied⟩⟩
  case internal =>
    rintro rfl
    refine wp_mono (fun _ u hu => ?_) (fun _ _ _ => trivial)
      (wp_conj (wp_provideBuffer (t := s.upd fun o => { o with m_nBytesReceived := 0 }) hpos hok)
        (wp_provideBuffer_errno nMaxBytes _))
    obtain ⟨hu, herrno⟩ := hu
    obtain ⟨b, hb, hlen⟩ := hu.room
    exact wp_receiveTimed_received hmax (hu.type.trans htcp)
      ⟨hu.removed.trans (by simp [hs]), herrno, hu.count, ⟨b.data, by rw [hb]; rfl, hlen⟩⟩
  case supplied =>
    intro hsome
    obtain ⟨b, rfl⟩ := Option.ne_none_iff_exists'.mp hsome
    exact wp_receiveTimed_received hmax htcp
      ⟨by simp [hs], rfl, rfl, ⟨b, rfl, hroom b rfl⟩⟩

/-! A caller that hands no buffer gets none back. -/

section

variable {n : Int}

/-- The loops of `Receive`. -/
theorem wp_receiveRounds_none {round : Option Bytes → M (Option Bytes)}
    (hround : ∀ t, wp (round none) (fun out _ => out = none) (fun _ _ => True) t) (k : ℕ) (t : State) :
    wp (whileInterrupted k round none) (fun out _ => out = none) (fun _ _ => True) t := by
  refine wp_iter (fun _ buf _ => buf = none) ?_ (fun _ _ _ => trivial) k none t rfl
  rintro _ _ u rfl
  rw [wp_bind]
  refine wp_mono (fun out v h => ?_) (fun _ _ _ => trivial) (hround u)
  simp only [wp_bind, wp_translateSocketError, wp_this, wp_ite, wp_pure, Round.post_again,
    Round.post_leave]
  exact ⟨fun _ => h, fun _ => h⟩

theorem wp_deliver_none (offset : Int) (bs : Bytes) (t : State) :
    wp (deliver none offset bs) (fun out _ => out = none) (fun _ _ => True) t := by
  simp [deliver]

theorem wp_receive_none (s : State) :
    wp (receive n none) (fun r _ => r.2 = none) (fun _ _ => True) s := by
  -- no block of the caller's, so none is handed back, by either call
  have hrecv : ∀ t, wp (recvRound n none) (fun out _ => out = none) (fun _ _ => True) t := by
    intro t
    rw [recvRound, wp_bind, wp_this, wp_bind, sysRecv, wp_issue_iff]
    refine ⟨fun _ => trivial, fun res rest _ => ?_⟩
    rw [wp_bind, wp_assign]
    cases res with
    | ok bs => exact wp_deliver_none _ _ _
    | fail _ => exact rfl
  have hrecvfrom : ∀ t, wp (recvfromRound n none) (fun out _ => out = none) (fun _ _ => True) t := by
    intro t
    rw [recvfromRound, wp_bind, wp_this, wp_bind, sysRecvfrom, wp_issue_iff]
    refine ⟨fun _ => trivial, fun res rest _ => ?_⟩
    rw [wp_bind, wp_assign]
    cases res with
    | ok d =>
      rw [wp_bind, wp_assign]
      exact wp_deliver_none _ _ _
    | fail _ => exact rfl
  -- nor by a loop of either, nor around it
  have hloop : ∀ t, wp (receiveLoop n none) (fun out _ => out = none) (fun _ _ => True) t := by
    intro t
    simp only [receiveLoop, wp_bind, wp_this, wp_script, wp_ite, wp_pure]
    exact ⟨fun _ => wp_receiveRounds_none hrecv _ _, fun _ =>
      ⟨fun _ => wp_receiveRounds_none hrecvfrom _ _, fun _ => trivial⟩⟩
  have htimed : ∀ t, wp (receiveTimed n none) (fun r _ => r.2 = none) (fun _ _ => True) t := by
    intro t
    simp only [receiveTimed, wp_bind, wp_setSocketError, wp_timerInitialize, wp_setStartTime,
      wp_setEndTime, wp_translateSocketError, wp_this, wp_when, wp_deleteBuffer, wp_pure]
    exact wp_mono (fun out _ h => ⟨fun _ => h, fun _ => h⟩) (fun _ _ h => h) (hloop _)
  rw [wp_receive_iff]
  refine ⟨fun _ => rfl, fun _ => ⟨fun _ => ?_, fun h => absurd rfl h⟩⟩
  exact wp_mono (fun _ u _ => htimed u) (fun _ _ _ => trivial) (wp_trivial (provideBuffer n) _)

end

/-! ### `Send` -/

/-- Without an interruption a retry loop takes one answer at most. -/
theorem taken_undisturbed {α : Type} {e : Int} (he : e ≠ EINTR) {as : List (Answer α)}
    (h : ∀ a ∈ takenFrom e as, a.interrupted = false) : (takenFrom e as).length ≤ 1 := by
  cases as with
  | nil => exact Nat.zero_le 1
  | cons a as =>
    have hleave : ¬ Interrupted (errnoAfter e a) := by
      intro hagain
      -- the first answer would be an interruption
      have hmem : a ∈ takenFrom e (a :: as) := by
        rw [takenFrom, Retry.taken_again hagain]
        exact List.mem_cons_self
      have hcalm := h a hmem
      cases a with
      | ok a => exact he hagain
      | fail f =>
        have hintr : (f.1 == EINTR) = true := beq_iff_eq.mpr hagain
        exact Bool.noConfusion (hcalm.symm.trans hintr)
    rw [takenFrom, Retry.taken_leave hleave]
    exact le_rfl

/-- **What `Send` calls** on a connection: `send`, once for each of these answers. -/
structure SendCalls (pBuf : Option Bytes) (n : ℕ) (s t : State) (as : List (Answer ℕ)) : Prop where
  trace_eq : t.trace = as.map (.send s.self.m_socket ((pBuf.getD []).take n))
  self_eq : ∃ count err tm, t.self = s.self.withSent count err tm
  once : s.os.errno ≠ EINTR → (∀ a ∈ as, a.interrupted = false) → as.length ≤ 1
  made : as ≠ [] → s.self.m_socket ≠ -1 ∧ 0 < n ∧ pBuf ≠ none

/-- **How `Send` ends.** -/
structure SendEnd (pBuf : Option Bytes) (n : ℕ) (s : State) (r : Int) (t : State)
    (as : List (Answer ℕ)) : Prop extends SendCalls pBuf n s t as where
  result : r = (as.getLast?.map fun a => narrow a.ret).getD 0
  errno_ne : s.os.errno ≠ EINTR ∨ as ≠ [] → t.os.errno ≠ EINTR
  called : s.self.m_socket ≠ -1 → 0 < n → pBuf ≠ none → as ≠ []

theorem wp_send_end (pBuf : Option Bytes) (n : ℕ) {s : State} (hs : s.trace = [])
    (htcp : s.self.m_nSocketType = .socketTypeTcp) :
    wp (CSimpleSocket.send pBuf n) (fun r t => (∃ as, SendEnd pBuf n s r t as) ∧
      r = t.self.m_nBytesSent) (fun _ t => ∃ as, SendCalls pBuf n s t as) s := by
  by_cases hmade : s.self.isSocketValid = true ∧ 0 < n ∧ pBuf ≠ none
  · obtain ⟨hvalid, hn, hbuf⟩ := hmade
    obtain ⟨buf, rfl⟩ := Option.ne_none_iff_exists'.mp hbuf
    -- the calls of a loop that takes these answers
    have hcalls : ∀ {as t}, Sent (.ofType .socketTypeTcp (buf.take n)) s as t →
        as = takenFrom s.os.errno (sendAnswers .socketTypeTcp s.os.script) →
          SendCalls (some buf) n s t as := by
      intro as t hsent has
      refine ⟨?_, ⟨_, _, _, hsent.self_eq⟩, fun he hcalm => ?_,
        fun _ => ⟨by simpa using hvalid, hn, hbuf⟩⟩
      · rw [hsent.trace_eq, hs]
        rfl
      · rw [has] at hcalm ⊢
        exact taken_undisturbed he hcalm
    refine wp_mono (fun r t h => ?_) (fun _ t h => ?_) (wp_send buf n hvalid (Or.inl htcp) hn)
    · obtain ⟨hleaves, hsent, hr⟩ := h
      rw [htcp] at hleaves hsent
      -- the loop leaves, so it has taken a last answer and `errno` is not `EINTR`
      obtain ⟨pre, a, hlast, hne⟩ := Retry.exists_last hleaves
      have hlast : takenFrom s.os.errno (sendAnswers .socketTypeTcp s.os.script) = pre ++ [a] := hlast
      rw [hlast] at hsent
      refine ⟨⟨pre ++ [a], hcalls hsent hlast.symm, ?_, fun _ => ?_, fun _ _ _ => by simp⟩, hr⟩
      · rw [hr, hsent.count a (by simp)]
        simp
      · rw [hsent.errno_eq, ← hlast]
        exact hne
    · obtain ⟨hstays, -, hsent⟩ := h
      rw [htcp] at hstays hsent
      exact ⟨_, hcalls hsent (Retry.taken_of_not_finished hstays).symm⟩
  · have hnot : ¬ (s.self.m_socket ≠ -1 ∧ 0 < n ∧ pBuf ≠ none) := by simpa using hmade
    simp only [send, wp_bind, wp_setSocketError, wp_assign, wp_this, wp_ite, wp_when, wp_pure,
      State.upd_self, isSocketValid_iff]
    refine ⟨fun _ => ⟨fun h => absurd h hnot, fun _ => ?_⟩, fun h => absurd htcp h⟩
    refine ⟨⟨[], ⟨hs, ⟨0, .socketSuccess, s.self.m_timer, rfl⟩, fun _ _ => Nat.zero_le 1, fun h =>
      absurd rfl h⟩, rfl, fun h => h.resolve_right (absurd rfl), fun hv hn hb =>
        absurd ⟨hv, hn, hb⟩ hnot⟩, trivial⟩

/-- The virtual `Send` on a connection is that of `CSimpleSocket`. -/
theorem wp_virtualSend_end (cls : SocketClass) (pBuf : Option Bytes) (n : ℕ) {s : State}
    (hs : s.trace = []) (htcp : s.self.m_nSocketType = .socketTypeTcp) :
    wp (virtualSend cls pBuf n) (fun r t => ∃ as, SendEnd pBuf n s r t as)
      (fun _ t => ∃ as, SendCalls pBuf n s t as) s := by
  have hsimple : wp (CSimpleSocket.send pBuf n) (fun r t => ∃ as, SendEnd pBuf n s r t as)
      (fun _ t => ∃ as, SendCalls pBuf n s t as) s :=
    wp_mono (fun _ _ h => h.1) (fun _ _ h => h) (wp_send_end pBuf n hs htcp)
  cases cls with
  | simple => exact hsimple
  | active => exact hsimple
  | passive =>
    simp only [virtualSend, CPassiveSocket.send, wp_bind, wp_setSocketError, wp_assign, wp_this,
      wp_ite, wp_when, wp_pure, State.upd_self]
    refine ⟨fun hudp => absurd (htcp.symm.trans hudp) (by decide), fun _ =>
      ⟨fun _ => ?_, fun h => absurd htcp h⟩⟩
    -- the members written before are among those `Send` writes
    have hcalls : ∀ {as t}, SendCalls pBuf n ((s.upd fun o =>
        { o with m_socketErrno := .socketSuccess }).upd fun o => { o with m_nBytesSent := 0 }) t as →
          SendCalls pBuf n s t as := by
      intro as t h
      obtain ⟨count, err, tm, hself⟩ := h.self_eq
      exact ⟨h.trace_eq, ⟨count, err, tm, hself.trans rfl⟩, h.once, h.made⟩
    refine wp_mono (fun r t h => ?_) (fun _ t h => ?_)
      (wp_send_end (s := (s.upd fun o => { o with m_socketErrno := .socketSuccess }).upd
        fun o => { o with m_nBytesSent := 0 }) pBuf n hs htcp)
    · obtain ⟨⟨as, hend⟩, hr⟩ := h
      exact ⟨as, hcalls hend.toSendCalls, hr ▸ hend.result, hend.errno_ne, hend.called⟩
    · obtain ⟨as, hmade⟩ := h
      exact ⟨as, hcalls hmade⟩

end ClSocket
