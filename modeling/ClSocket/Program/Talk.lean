import ClSocket.Exchange.Session
import ClSocket.Program.Process

/-!
# Programs that talk

What a program has moved over its connection so far (`Process.sent`, `Process.got`), and what a call
on an object to talk over adds to it. The calls of a program that talks are told apart by this: most
move nothing (`wp_talk_mute`), `Send` moves a front part of its block (`wp_talk_send`), and what
`Receive` moves is what the program then finds in the buffer (`wp_talk_receive`).

As for a session, it is a matter of traces without an interruption (`Calm`).
-/

namespace ClSocket

open Prog CSimpleSocket

/-- No call was interrupted, and none moved more than it was asked to. -/
def Calm (t : Trace) : Prop := ∀ e ∈ t, e.interrupts = false ∧ e.Sane

instance (t : Trace) : Decidable (Calm t) :=
  inferInstanceAs (Decidable (∀ e ∈ t, e.interrupts = false ∧ e.Sane))

theorem Calm.of_prefix {t u : Trace} (h : Calm u) (htu : t <+: u) : Calm t := fun e he =>
  h e (htu.subset he)

theorem Calm.left {t u : Trace} (h : Calm (t ++ u)) : Calm t := h.of_prefix (List.prefix_append t u)

theorem Calm.right {t u : Trace} (h : Calm (t ++ u)) : Calm u := fun e he =>
  h e (List.mem_append_right t he)

theorem Calm.not_disturbed {t : Trace} (h : Calm t) : ¬ Disturbed t := by
  rintro ⟨e, he, hintr⟩
  rw [(h e he).1] at hintr
  cases hintr

variable {V O α : Type} [DecidableEq V]

/-- What the program has put on the way. -/
def Process.sent (p : Process V O) : Bytes := p.trace.flatMap Event.put

/-- What it has taken. -/
def Process.got (p : Process V O) : Bytes := p.trace.flatMap Event.took

/-- `errno` does not tell of an interruption unless there was one. -/
def Process.Settled (p : Process V O) : Prop := Calm p.trace → p.os.errno ≠ EINTR

section

variable (p : Process V O) (v : V) (t : State)

@[simp] theorem Process.after_sent : (p.after v t).sent = p.sent ++ t.trace.flatMap Event.put :=
  List.flatMap_append

@[simp] theorem Process.after_got : (p.after v t).got = p.got ++ t.trace.flatMap Event.took :=
  List.flatMap_append

end

/-- Calls have been made on the object `v`. -/
structure Later (v : V) (p q : Process V O) : Prop where
  trace : p.trace <+: q.trace
  printed : q.printed = p.printed
  others : ∀ w, w ≠ v → q.var w = p.var w

/-- They have moved nothing. -/
structure Idle (v : V) (p q : Process V O) : Prop extends Later v p q where
  sent : q.sent = p.sent
  got : q.got = p.got

/-- The object can still be talked over. -/
structure Talked (v : V) (p q : Process V O) : Prop extends Later v p q where
  talking : Talking (q.var v)
  settled : q.Settled

theorem later_after (p : Process V O) (v : V) (t : State) : Later v p (p.after v t) :=
  ⟨List.prefix_append _ _, rfl, fun _ hw => Process.after_var_ne _ _ _ hw⟩

section

variable {v : V} {p q : Process V O}

omit [DecidableEq V] in
theorem Idle.trans {r : Process V O} (h : Idle v p q) (h' : Idle v q r) : Idle v p r :=
  ⟨⟨h.trace.trans h'.trace, h'.printed.trans h.printed,
    fun w hw => (h'.others w hw).trans (h.others w hw)⟩,
    h'.sent.trans h.sent, h'.got.trans h.got⟩

omit [DecidableEq V] in
theorem Later.calm (h : Later v p q) (hq : Calm q.trace) : Calm p.trace := hq.of_prefix h.trace

/-- Every operation but two. -/
theorem wp_talk (cls : SocketClass) (op : Op) {x : M α} {f : α → Ret} (hop : op.run cls = f <$> x)
    (hown : op.isOwn = true) (ho : Talking (p.var v)) (hp : p.Settled) :
    wp (invoke v x) (fun _ q => Talked v p q) (fun _ _ => True) p := by
  have hrun : wp (op.run cls) (fun _ t => Talking t.self ∧
      (¬ Disturbed t.trace → p.os.errno ≠ EINTR → t.os.errno ≠ EINTR)) (fun _ _ => True)
      ⟨p.var v, p.os, []⟩ := by
    rw [wp_iff]
    refine ⟨fun ret t hrun => ⟨?_, fun hcalm herrno hintr => ?_⟩, fun _ _ _ => trivial⟩
    · obtain ⟨⟨hproper, htype⟩, -⟩ :=
        wp_call (wp_run_licensed cls op (s := ⟨p.var v, p.os, []⟩) ho.proper) hrun
      exact ⟨hproper, htype.trans ho.type, bufferOk_of_call ho.buffer hrun⟩
    -- an operation leaves `EINTR` behind only if a call of its own did
    · obtain ⟨-, calls, htrace, -, hwhy⟩ := wp_call
        (conduct_run (l := .of (p.var v).m_nSocketType (p.var v).m_socket) cls hown (fun _ => rfl)
          ⟨p.var v, p.os, []⟩) hrun ho.proper.held
      obtain rfl : t.trace = calls := htrace
      exact (hwhy hintr).elim herrno hcalm
  rw [hop, wp_map] at hrun
  rw [wp_invoke]
  refine wp_mono (fun _ t h => ?_) (fun _ _ h => h) hrun
  refine ⟨later_after p v t, by simpa using h.1, fun hcalm => ?_⟩
  rw [Process.after_trace] at hcalm
  exact h.2 hcalm.right.not_disturbed (hp hcalm.left)

/-- A method that does not move data. -/
theorem wp_idle {x : M α} (hx : Keeps (Conduct (.mute (p.var v))) x) (ho : Proper (p.var v)) :
    wp (invoke v x) (fun _ q => Idle v p q ∧ Proper (q.var v)) (fun _ q => Idle v p q) p := by
  have hadd : ∀ t, Conduct (.mute (p.var v)) ⟨p.var v, p.os, []⟩ t →
      Idle v p (p.after v t) ∧ Proper ((p.after v t).var v) := by
    intro t h
    obtain ⟨hheld, calls, htrace, hall, -⟩ := h ⟨Or.inl rfl, rfl, ho.domain, ho.flags, ho.code⟩
    obtain rfl : t.trace = calls := htrace
    refine ⟨⟨later_after p v t, ?_, ?_⟩, ?_⟩
    · rw [Process.after_sent, List.flatMap_eq_nil_iff.mpr fun e he => (hall e he).unmoved.1,
        List.append_nil]
    · rw [Process.after_got, List.flatMap_eq_nil_iff.mpr fun e he => (hall e he).unmoved.2,
        List.append_nil]
    · rw [Process.after_var_self]
      exact ⟨hheld.domain.trans (congrArg CSocketType.domain hheld.type.symm), hheld.flags, hheld.code⟩
  rw [wp_invoke]
  exact wp_mono (fun _ t h => hadd t h) (fun _ t h => (hadd t h).1) (hx ⟨p.var v, p.os, []⟩)

/-- **An operation that does not move data.** -/
theorem wp_talk_mute (cls : SocketClass) (op : Op) {x : M α} {f : α → Ret}
    (hop : op.run cls = f <$> x) (hown : op.isOwn = true) (hmute : op.moves = false)
    (ho : Talking (p.var v)) (hp : p.Settled) :
    wp (invoke v x) (fun _ q => Talked v p q ∧ Idle v p q) (fun _ q => Idle v p q) p := by
  have hconduct : Keeps (Conduct (.mute (p.var v))) x := by
    intro s
    have h := conduct_run (l := .mute (p.var v)) cls hown (fun h => by rw [hmute] at h; cases h) s
    rw [hop, wp_map] at h
    exact h
  exact wp_mono (fun _ _ h => ⟨h.1, h.2.1⟩) (fun _ _ h => h.2)
    (wp_conj (wp_talk cls op hop hown ho hp) (wp_idle hconduct ho.proper))

/-- **`Initialize`**, before which `errno` may tell of anything. -/
theorem wp_talk_initializeSocket (ho : Talking (p.var v)) :
    wp (invoke v initializeSocket) (fun _ q => Talked v p q ∧ Idle v p q) (fun _ q => Idle v p q) p := by
  rw [wp_invoke]
  refine wp_mono (fun _ t h => ?_) (fun _ t h => ?_)
    (wp_conj (wp_initializeSocket ⟨p.var v, p.os, []⟩) (wp_initializeSocket_conduct ⟨p.var v, p.os, []⟩))
  · obtain ⟨⟨hbuffer, -⟩, res, htrace, -, hheld, herrno⟩ := h
    have htrace : t.trace = [.socket (p.var v).m_nSocketDomain (p.var v).m_nSocketType.code res] := htrace
    obtain ⟨hproper, htype⟩ := (hheld (.of (p.var v).m_nSocketType res.ret)
      ⟨Or.inl rfl, rfl, ho.proper.domain, ho.proper.flags, rfl⟩).proper
    refine ⟨⟨later_after p v t, ?_, fun hcalm hintr => ?_⟩,
      later_after p v t, ?_, ?_⟩
    · rw [Process.after_var_self]
      exact ⟨hproper, htype.trans ho.type, hbuffer.bufferOk ho.buffer⟩
    · rw [Process.after_trace, htrace] at hcalm
      -- `errno` was cleared, so only `socket` itself can have left `EINTR`
      exact Bool.noConfusion (((hcalm.right _ (List.mem_singleton_self _)).1).symm.trans (herrno hintr))
    · simp [htrace, Event.put]
    · simp [htrace, Event.took, Event.removed?]
  · have htrace : t.trace = [] := h.2
    exact ⟨later_after p v t, by simp [htrace], by simp [htrace]⟩

/-- What a `Send` has added. -/
structure Spoke (v : V) (pBuf : Option Bytes) (n : ℕ) (p q : Process V O) : Prop extends
    Later v p q where
  got : q.got = p.got
  sent : Calm q.trace → ∃ data, data <+: (pBuf.getD []).take n ∧ q.sent = p.sent ++ data

/-- **`Send`.** -/
theorem wp_talk_send (cls : SocketClass) (pBuf : Option Bytes) (n : ℕ) (ho : Talking (p.var v))
    (hp : p.Settled) :
    wp (invoke v (virtualSend cls pBuf n)) (fun _ q => Talked v p q ∧ Spoke v pBuf n p q)
      (fun _ q => Spoke v pBuf n p q) p := by
  -- whether it returns or still waits, it consists of calls of `send` with the same bytes
  have hadd : ∀ t as, SendCalls pBuf n ⟨p.var v, p.os, []⟩ t as → Spoke v pBuf n p (p.after v t) := by
    intro t as h
    have htrace := h.trace_eq
    refine ⟨later_after p v t, ?_, fun hcalm => ?_⟩
    · rw [Process.after_got, List.flatMap_eq_nil_iff.mpr, List.append_nil]
      intro e he
      rw [htrace] at he
      obtain ⟨a, -, rfl⟩ := List.mem_map.mp he
      rfl
    · rw [Process.after_trace] at hcalm
      -- without an interruption there is no second `send`, so no byte goes out twice
      have honce : as.length ≤ 1 := h.once (hp hcalm.left) fun a ha => by
        have hmem : Event.send (p.var v).m_socket ((pBuf.getD []).take n) a ∈ t.trace := by
          rw [htrace]
          exact List.mem_map_of_mem ha
        exact (hcalm.right _ hmem).1
      refine ⟨_, ?_, Process.after_sent p v t⟩
      rw [htrace]
      match as with
      | [] => exact List.nil_prefix
      | [.fail _] => exact List.nil_prefix
      | [.ok k] => simp [Event.put, List.take_prefix]
      | _ :: _ :: _ => exact absurd honce (by simp)
  have hspoke : wp (invoke v (virtualSend cls pBuf n)) (fun _ q => Spoke v pBuf n p q)
      (fun _ q => Spoke v pBuf n p q) p := by
    rw [wp_invoke]
    refine wp_mono (fun _ t h => ?_) (fun _ t h => ?_)
      (wp_virtualSend_end cls pBuf n (s := ⟨p.var v, p.os, []⟩) rfl ho.type)
    · obtain ⟨as, hend⟩ := h
      exact hadd t as hend.toSendCalls
    · obtain ⟨as, hcalls⟩ := h
      exact hadd t as hcalls
  exact wp_mono (fun _ _ h => h) (fun _ _ h => h.2)
    (wp_conj (wp_talk cls (.send pBuf n) rfl rfl ho hp) hspoke)

/-- What `Receive` has added, and where it can be found. -/
inductive Heard (n : Int) (p q : Process V O) (o : CSimpleSocket) (r : Int) : Prop where
  | nothing (hr : r ≤ 0) (got : q.got = p.got) (empty : o.getData = none ∨ o.getBytesReceived = 0)
  | bytes (bs block : Bytes) (hr : r = bs.length) (fits : bs.length ≤ n) (got : q.got = p.got ++ bs)
    (data : o.getData = some block) (front : block.take bs.length = bs)
    (count : o.getBytesReceived = bs.length)

section

variable {n r : Int} {o : CSimpleSocket}

omit [DecidableEq V] in
/-- A positive count is of bytes that are in the buffer. -/
theorem Heard.of_pos (h : Heard n p q o r) (hmax : InInt32 n) (hr : 0 < r) :
    ∃ bs block, r = bs.length ∧ toSizeT r = bs.length ∧ q.got = p.got ++ bs ∧
      o.getData = some block ∧ block.take bs.length = bs := by
  cases h with
  | nothing hle => omega
  | bytes bs block hcount hfits hgot hdata hfront =>
    refine ⟨bs, block, hcount, ?_, hgot, hdata, hfront⟩
    rw [hcount]
    exact toSizeT_natCast ⟨by omega, hfits.trans hmax.2⟩

omit [DecidableEq V] in
/-- Any other says that nothing has come. -/
theorem Heard.of_nonpos (h : Heard n p q o r) (hr : r ≤ 0) : q.got = p.got := by
  cases h with
  | nothing _ hgot => exact hgot
  | bytes bs _ hcount _ hgot =>
    have hempty : bs = [] := List.length_eq_zero_iff.mp (by omega)
    rw [hgot, hempty, List.append_nil]

omit [DecidableEq V] in
/-- What is sent of the buffer then is in what has come. -/
theorem Heard.reply {sent data : Bytes} (h : Heard n p q o r) (hsent : sent.Sublist p.got)
    (hdata : data <+: (o.getData.getD []).take (toSizeT o.getBytesReceived)) :
    (sent ++ data).Sublist q.got := by
  cases h with
  | nothing _ hgot hempty =>
    have hnone : data = [] := by
      rcases hempty with hnull | hzero
      · rw [hnull] at hdata
        simpa using hdata
      · rw [hzero] at hdata
        exact List.prefix_nil.mp hdata
    rw [hnone, List.append_nil, hgot]
    exact hsent
  | bytes bs block _ _ hgot hblock hfront hcount =>
    rw [hgot]
    refine hsent.append ?_
    rw [hblock, hcount, Option.getD_some] at hdata
    -- the length is read as a `size_t`, which is no longer than the count
    have hle : toSizeT bs.length ≤ bs.length := by
      unfold toSizeT
      omega
    have hfits : block.take (toSizeT bs.length) <+: block.take bs.length :=
      List.take_prefix_take_left hle
    rw [hfront] at hfits
    exact (hdata.trans hfits).sublist

end

/-- What `Receive` returns is what it has taken. -/
theorem wp_receive_heard {n : Int} (hpos : 0 < n) (hmax : InInt32 n) (ho : Talking (p.var v))
    (hp : p.Settled) :
    wp (receive n none) (fun r t => Calm (p.trace ++ t.trace) → Heard n p (p.after v t) t.self r.1)
      (fun _ _ => True) ⟨p.var v, p.os, []⟩ := by
  by_cases hvalid : (p.var v).m_socket = -1
  · rw [wp_receive_iff]
    refine ⟨fun _ _ => .nothing le_rfl (by simp) (Or.inr rfl), fun h => absurd hvalid (by simpa using h)⟩
  · refine wp_mono (fun r t h hcalm => ?_) (fun _ _ _ => trivial)
      (wp_conj (wp_conj (wp_receive_none ⟨p.var v, p.os, []⟩)
        (wp_receive_receipts (s := ⟨p.var v, p.os, []⟩) rfl ho)) (wp_receive_received
          (s := ⟨p.var v, p.os, []⟩) rfl hvalid ho.type ho.buffer hpos hmax fun _ h => by cases h))
    obtain ⟨⟨hnone, hreceipts⟩, hreceived, hcount, hfreed⟩ := h
    have hgot : (p.after v t).got = p.got ++ (removedIn t.trace).flatten := by
      rw [Process.after_got, flatMap_took]
    rcases hreceived.result with ⟨hfail, hlost⟩ | ⟨-, hlanded⟩
    -- it failed: only an interruption could have made it lose bytes
    · have hr : r.1 = -1 := hcount.trans hfail
      have hnothing : removedIn t.trace = [] := by
        by_contra hne
        exact (hlost hne).elim (hp hcalm.left) hcalm.right.not_disturbed
      refine .nothing (by omega) (by rw [hgot, hnothing]; simp) (Or.inl ?_)
      rw [getData, hfreed hr]
      rfl
    -- one `recv` succeeded, and its bytes are at the front of the buffer
    · have hsane : ∀ e ∈ t.trace, e.Sane := fun e he => (hcalm.right e he).2
      obtain ⟨bs, block, hremoved, hlength, hblock, hfront⟩ := hlanded hsane
      have hmem : bs ∈ removedIn t.trace := by simp [hremoved]
      have hfits := length_le_of_receipts hreceipts hsane hmem
      rw [hnone] at hblock
      exact .bytes bs block (hcount.trans hlength) hfits (by rw [hgot, hremoved]; simp) hblock hfront
        hlength

/-- **`Receive`**, into the internal buffer. -/
theorem wp_talk_receive {n : Int} (hpos : 0 < n) (hmax : InInt32 n) (ho : Talking (p.var v))
    (hp : p.Settled) :
    wp (invoke v (receive n none))
      (fun r q => Talked v p q ∧ q.sent = p.sent ∧ (Calm q.trace → Heard n p q (q.var v) r.1))
      (fun _ q => Later v p q ∧ q.sent = p.sent ∧ p.got <+: q.got) p := by
  have hsent : ∀ t, Receipts n ⟨p.var v, p.os, []⟩ t → (p.after v t).sent = p.sent := by
    rintro t ⟨-, calls, htrace, hall⟩
    obtain rfl : t.trace = calls := htrace
    rw [Process.after_sent, List.flatMap_eq_nil_iff.mpr fun e he => (hall e he).put, List.append_nil]
  have hmoved : wp (invoke v (receive n none))
      (fun r q => q.sent = p.sent ∧ (Calm q.trace → Heard n p q (q.var v) r.1))
      (fun _ q => Later v p q ∧ q.sent = p.sent ∧ p.got <+: q.got) p := by
    rw [wp_invoke]
    refine wp_mono (fun r t h => ⟨hsent t h.1, fun hcalm => ?_⟩)
      (fun _ t h => ⟨later_after p v t, hsent t h.1, by simp⟩)
      (wp_conj (receipts_receive none ⟨p.var v, p.os, []⟩) (wp_receive_heard hpos hmax ho hp))
    rw [Process.after_var_self]
    exact h.2 hcalm
  exact wp_mono (fun _ _ h => h) (fun _ _ h => h.2)
    (wp_conj (wp_talk .active (.receive n none) rfl rfl ho hp) hmoved)

end

end ClSocket
