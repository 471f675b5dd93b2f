import ClSocket.Framework.Blocks
import ClSocket.Model.Op
import ClSocket.Transfer.Sending

/-!
# `Writev` against `writev(2)`

`Writev` sends the items of a vector one by one. Until a `send` fails, each non-empty item meets
one answer (`sentOnce` are the counts), and the item it fails on meets all the answers its retry
loop takes. `wp_writevLoop` says so, and that the return value is the sum of the counts.

So three things separate `Writev` from the native call (`writev_iff`): a failure of the first
`send` is returned as 0; what a retried `send` has put on the stream is not counted; and after a
short count `Writev` goes on with the next item, which leaves a hole in the stream unless
what is sent after it happens to be what was due.
-/

namespace ClSocket

open Prog CSimpleSocket

/-! ### Answers that are met once -/

/-- The counts of the successes at the front. -/
def leadingCounts : List (Answer ℕ) → List ℕ
  | .ok k :: answers => k :: leadingCounts answers
  | _ => []

/-- The counts of the `send`s that are made once: until one fails, but none with `EINTR` left
in `errno`. -/
def sentOnce (errno : Int) (answers : List (Answer ℕ)) : List ℕ :=
  if errno = EINTR then [] else leadingCounts answers

theorem sentOnce_ok {errno : Int} (h : errno ≠ EINTR) (k : ℕ) (answers : List (Answer ℕ)) :
    sentOnce errno (.ok k :: answers) = k :: sentOnce errno answers := by
  simp [sentOnce, h, leadingCounts]

theorem sentOnce_cons {errno : Int} {answers : List (Answer ℕ)} {k : ℕ} {ks : List ℕ}
    (h : sentOnce errno answers = k :: ks) :
    errno ≠ EINTR ∧ ∃ rest, answers = .ok k :: rest ∧ sentOnce errno rest = ks := by
  unfold sentOnce at h
  split_ifs at h with he
  match answers, h with
  | .ok k' :: rest, h =>
    obtain ⟨rfl, rfl⟩ := List.cons.inj h
    exact ⟨he, rest, rfl, if_neg he⟩

/-- A success with `errno` clean ends the retry loop. -/
theorem takenFrom_ok {errno : Int} (h : errno ≠ EINTR) (k : ℕ) (rest : List (Answer ℕ)) :
    takenFrom errno (.ok k :: rest) = [.ok k] := Retry.taken_leave h

/-- With `EINTR` in `errno` after the first answer the loop goes on from there. -/
theorem takenFrom_again {errno : Int} {a : Answer ℕ} (h : a.errno errno = EINTR)
    (rest : List (Answer ℕ)) :
    takenFrom errno (a :: rest) = a :: takenFrom EINTR rest ∧
      (LeavesFrom errno (a :: rest) → LeavesFrom EINTR rest) := by
  have hagain : Interrupted (errnoAfter errno a) := h
  have hmem : errnoAfter errno a = EINTR := h
  refine ⟨?_, fun hl => ?_⟩
  · rw [takenFrom, Retry.taken_again hagain, hmem]
  · rw [← hmem]
    exact (Retry.finished_again hagain).mp hl

/-- With `EINTR` in `errno` only a failure ends it. -/
theorem takenFrom_interrupted : ∀ {answers : List (Answer ℕ)}, LeavesFrom EINTR answers →
    ∃ pre e, takenFrom EINTR answers = pre ++ [.fail e]
  | [], h => absurd h Retry.not_finished_nil
  | a :: rest, h => by
    by_cases ha : a.errno EINTR = EINTR
    · obtain ⟨htaken, hleaves⟩ := takenFrom_again ha rest
      obtain ⟨pre, e, hpre⟩ := takenFrom_interrupted (hleaves h)
      exact ⟨a :: pre, e, by rw [htaken, hpre]; rfl⟩
    · cases a with
      | ok k => exact absurd rfl ha
      | fail e => exact ⟨[], e, Retry.taken_leave ha⟩

/-- An item that is not sent once ends in a failure. -/
theorem takenFrom_of_sentOnce_nil {errno : Int} {answers : List (Answer ℕ)}
    (h : sentOnce errno answers = []) (hleaves : LeavesFrom errno answers) :
    ∃ pre e, takenFrom errno answers = pre ++ [.fail e] := by
  by_cases he : errno = EINTR
  · subst he
    exact takenFrom_interrupted hleaves
  · match answers, hleaves, h with
    | .ok k :: rest, _, h =>
      rw [sentOnce_ok he] at h
      cases h
    | .fail e :: rest, hl, _ =>
      by_cases ha : (Answer.fail e : Answer ℕ).errno errno = EINTR
      · obtain ⟨htaken, hrest⟩ := takenFrom_again ha rest
        obtain ⟨pre, e', hpre⟩ := takenFrom_interrupted (hrest hl)
        exact ⟨.fail e :: pre, e', by rw [htaken, hpre]; rfl⟩
      · exact ⟨[], e, Retry.taken_leave ha⟩

/-- The `send`s that blocks meet: one each as long as they are met once. -/
def sendsOf (errno : Int) : List Bytes → List (Answer ℕ) → List (Bytes × Answer ℕ)
  | [], _ => []
  | b :: bs, answers =>
    match sentOnce errno answers with
    | k :: _ => (b, .ok k) :: sendsOf errno bs answers.tail
    | [] => (takenFrom errno answers).map fun a => (b, a)

/-! ### The loop -/

/-- An element that `Writev` can send: there is a block, and it is as long as it says. -/
def Iovec.Valid (v : Iovec) : Prop := ∃ base, v.iov_base = some base ∧ v.iov_len ≤ base.length

theorem Iovec.Valid.length_bytes {v : Iovec} (h : v.Valid) : v.bytes.length = v.iov_len := by
  obtain ⟨base, hbase, hlen⟩ := h
  simp [Iovec.bytes, hbase, hlen]

/-- The non-empty blocks of a vector, for each of which `send` is called. -/
def blocks (items : List Iovec) : List Bytes := (items.map Iovec.bytes).filter (· ≠ [])

theorem blocks_cons_empty {v : Iovec} (hv : v.Valid) (h : v.iov_len = 0) (items : List Iovec) :
    blocks (v :: items) = blocks items := by
  have hnil : v.bytes = [] := List.length_eq_zero_iff.mp (hv.length_bytes.trans h)
  simp [blocks, hnil]

theorem blocks_cons {v : Iovec} (hv : v.Valid) (h : 0 < v.iov_len) (items : List Iovec) :
    blocks (v :: items) = v.bytes :: blocks items := by
  have hne : v.bytes ≠ [] := by
    rw [← List.length_pos_iff, hv.length_bytes]
    exact h
  simp [blocks, hne]

/-- A method that has made these `send`s and left these answers and this `errno`. -/
structure Gathered (s : State) (sent : List (Bytes × Answer ℕ)) (errno : Int)
    (answers : List (Answer ℕ)) (t : State) : Prop where
  socket : t.self.m_socket = s.self.m_socket
  type : t.self.m_nSocketType = s.self.m_nSocketType
  errno_eq : t.os.errno = errno
  answers_eq : t.os.script.send = answers
  sent_eq : sentIn t.trace = sentIn s.trace ++ sent

/-- `Send` of the base class on an item, for an object that may have been prepared. -/
theorem wp_send_item {v : Iovec} (hv : v.Valid) (hlen : 0 < v.iov_len) {s : State}
    (hvalid : s.self.isSocketValid = true) (htcp : s.self.m_nSocketType = .socketTypeTcp) :
    wp (send v.iov_base v.iov_len) (fun r t => LeavesFrom s.os.errno s.os.script.send ∧
      Gathered s ((takenFrom s.os.errno s.os.script.send).map fun a => (v.bytes, a))
        ((takenFrom s.os.errno s.os.script.send).foldl errnoAfter s.os.errno)
        (s.os.script.send.drop (takenFrom s.os.errno s.os.script.send).length) t ∧
      r = t.self.m_nBytesSent ∧
      ∀ a, (takenFrom s.os.errno s.os.script.send).getLast? = some a → r = narrow a.ret)
      (fun e _ => e = .waiting) s := by
  obtain ⟨base, hbase, -⟩ := hv
  have hbytes : v.bytes = base.take v.iov_len := by simp [Iovec.bytes, hbase]
  rw [hbase]
  -- the rule for `Send`, its answers being those of `send`
  refine wp_mono (fun r t h => ?_) (fun e t h => h.2.1) (wp_send base v.iov_len hvalid (Or.inl htcp)
    hlen)
  have hanswers : sendAnswers s.self.m_nSocketType s.os.script = s.os.script.send := if_pos htcp
  rw [hanswers, htcp] at h
  obtain ⟨hleaves, hsent, rfl⟩ := h
  refine ⟨hleaves, ⟨?_, ?_, hsent.errno_eq, ?_, ?_⟩, rfl, hsent.count⟩
  · rw [hsent.self_eq]
    rfl
  · rw [hsent.self_eq]
    rfl
  · rw [hsent.script_eq]
    rfl
  · rw [hsent.trace_eq, hbytes]
    simp only [sentIn, List.filterMap_append]
    exact congrArg _ (sentIn_events s.self .socketTypeTcp _ _)

/-- The members that `Send` clears first do not matter. -/
theorem Gathered.of_upd {s t : State} {f : CSimpleSocket → CSimpleSocket}
    {sent : List (Bytes × Answer ℕ)} {errno : Int} {answers : List (Answer ℕ)}
    (h : Gathered (s.upd f) sent errno answers t) (hsocket : (f s.self).m_socket = s.self.m_socket)
    (htype : (f s.self).m_nSocketType = s.self.m_nSocketType) : Gathered s sent errno answers t :=
  ⟨h.socket.trans hsocket, h.type.trans htype, h.errno_eq, h.answers_eq, h.sent_eq⟩

theorem Gathered.refl (s : State) : Gathered s [] s.os.errno s.os.script.send s :=
  ⟨rfl, rfl, rfl, rfl, (List.append_nil _).symm⟩

theorem Gathered.trans {s t u : State} {sent sent' : List (Bytes × Answer ℕ)}
    {errno errno' : Int} {answers answers' : List (Answer ℕ)} (h : Gathered s sent errno answers t)
    (h' : Gathered t sent' errno' answers' u) : Gathered s (sent ++ sent') errno' answers' u :=
  ⟨h'.socket.trans h.socket, h'.type.trans h.type, h'.errno_eq, h'.answers_eq,
    by rw [h'.sent_eq, h.sent_eq, List.append_assoc]⟩

/-- The virtual `Send` on an item: the override hands a TCP item on to the base class. -/
theorem wp_virtualSend_item (cls : SocketClass) {v : Iovec} (hv : v.Valid) (hlen : 0 < v.iov_len)
    {s : State} (hvalid : s.self.isSocketValid = true)
    (htcp : s.self.m_nSocketType = .socketTypeTcp) :
    wp (virtualSend cls v.iov_base v.iov_len) (fun r t => LeavesFrom s.os.errno s.os.script.send ∧
      Gathered s ((takenFrom s.os.errno s.os.script.send).map fun a => (v.bytes, a))
        ((takenFrom s.os.errno s.os.script.send).foldl errnoAfter s.os.errno)
        (s.os.script.send.drop (takenFrom s.os.errno s.os.script.send).length) t ∧
      ∀ a, (takenFrom s.os.errno s.os.script.send).getLast? = some a → r = narrow a.ret)
      (fun e _ => e = .waiting) s := by
  cases cls with
  | passive =>
    have hudp : s.self.m_nSocketType ≠ .socketTypeUdp := by rw [htcp]; decide
    simp only [virtualSend, CPassiveSocket.send, wp_bind, wp_setSocketError, wp_assign, wp_this,
      wp_ite, wp_pure, State.upd_self]
    refine ⟨fun h => absurd h hudp, fun _ => ⟨fun _ => ?_, fun h => absurd htcp h⟩⟩
    -- the override clears the code and the count before it hands the item on
    refine wp_mono (fun r t h => ?_) (fun e t h => h)
      (wp_send_item hv hlen (s := (s.upd fun o => { o with m_socketErrno := .socketSuccess }).upd
        fun o => { o with m_nBytesSent := 0 }) hvalid htcp)
    obtain ⟨hleaves, hg, rfl, hcount⟩ := h
    exact ⟨hleaves, (hg.of_upd rfl rfl).of_upd rfl rfl, hcount⟩
  | simple =>
    exact wp_mono (fun r t h => ⟨h.1, h.2.1, h.2.2.2⟩) (fun e t h => h)
      (wp_send_item hv hlen hvalid htcp)
  | active =>
    exact wp_mono (fun r t h => ⟨h.1, h.2.1, h.2.2.2⟩) (fun e t h => h)
      (wp_send_item hv hlen hvalid htcp)

/-- Nothing is sent of nothing. -/
theorem wp_virtualSend_empty (cls : SocketClass) (buf : Option Bytes) {s : State}
    (htcp : s.self.m_nSocketType = .socketTypeTcp) :
    wp (virtualSend cls buf 0) (fun r t => r = 0 ∧ Gathered s [] s.os.errno s.os.script.send t)
      (fun _ _ => False) s := by
  -- a length of zero is refused before the loop
  have hsend : ∀ u : State, u.self.m_nSocketType = .socketTypeTcp → wp (send buf 0) (fun r t =>
      r = 0 ∧ t.self.m_nBytesSent = 0 ∧ Gathered u [] u.os.errno u.os.script.send t)
      (fun _ _ => False) u := by
    intro u hu
    simp only [send, wp_bind, wp_setSocketError, wp_assign, wp_this, wp_ite, wp_when, wp_pure,
      State.upd_self, hu]
    refine ⟨fun _ => ⟨fun h => absurd h.2.1 (lt_irrefl 0), fun _ => ?_⟩, fun h => absurd trivial h⟩
    exact ⟨trivial, trivial, ((Gathered.refl _).of_upd rfl rfl).of_upd rfl rfl⟩
  cases cls with
  | passive =>
    have hudp : s.self.m_nSocketType ≠ .socketTypeUdp := by rw [htcp]; decide
    simp only [virtualSend, CPassiveSocket.send, wp_bind, wp_setSocketError, wp_assign, wp_this,
      wp_ite, wp_pure, State.upd_self]
    refine ⟨fun h => absurd h hudp, fun _ => ⟨fun _ => ?_, fun h => absurd htcp h⟩⟩
    refine wp_mono (fun r t h => ?_) (fun e t h => h) (hsend _ htcp)
    exact ⟨h.2.1, (h.2.2.of_upd rfl rfl).of_upd rfl rfl⟩
  | simple => exact wp_mono (fun r t h => ⟨h.1, h.2.2⟩) (fun e t h => h) (hsend s htcp)
  | active => exact wp_mono (fun r t h => ⟨h.1, h.2.2⟩) (fun e t h => h) (hsend s htcp)

/-- The sum `Writev` returns fits. -/
theorem inInt32_add {n : Int} {k l m : ℕ} (hn : 0 ≤ n) (hle : k ≤ l)
    (hsum : n + (l + m : ℕ) < 2 ^ 31) : InInt32 (n + k) := by
  unfold InInt32
  omega

/-- **The loop of `Writev`** sends the blocks, adds the counts of those that went out once, and
overflows nowhere. -/
theorem wp_writevLoop (cls : SocketClass) : ∀ (items : List Iovec) (n : Int) (started : Bool)
    (s : State), (∀ v ∈ items, v.Valid) → s.self.isSocketValid = true →
    s.self.m_nSocketType = .socketTypeTcp → 0 ≤ n →
    n + ((items.map Iovec.iov_len).sum : ℕ) < 2 ^ 31 →
    (∀ p ∈ (blocks items).zip (sentOnce s.os.errno s.os.script.send), p.2 ≤ p.1.length) →
    wp (writevLoop cls items n started) (fun r t =>
      r.1 = n + (((sentOnce s.os.errno s.os.script.send).take (blocks items).length).sum : ℕ) ∧
      (∃ errno answers, Gathered s (sendsOf s.os.errno (blocks items) s.os.script.send) errno
        answers t) ∧ (blocks items ≠ [] → s.os.script.send ≠ []))
      (fun e _ => e = .waiting) s := by
  intro items
  induction items with
  | nil =>
    intro n started s _ _ _ _ _ _
    refine ⟨by simp [blocks], ⟨_, _, Gathered.refl s⟩, fun h => absurd rfl h⟩
  | cons v vs ih =>
    -- the sum that is left to add shrinks with the items, and `n` grows by no more
    intro n started s hitems hvalid htcp hn hsum hlegal
    rw [List.forall_mem_cons] at hitems
    rw [List.map_cons, List.sum_cons] at hsum
    rw [writevLoop, wp_bind]
    rcases Nat.eq_zero_or_pos v.iov_len with hzero | hpos
    · -- an empty item calls nothing
      rw [blocks_cons_empty hitems.1 hzero] at hlegal ⊢
      rw [hzero] at hsum ⊢
      refine wp_mono (fun r t h => ?_) (fun e t h => h.elim) (wp_virtualSend_empty cls _ htcp)
      obtain ⟨rfl, hg⟩ := h
      rw [if_neg (by decide), wp_bind, wp_addInt32]
      refine ⟨fun _ => ?_, fun h => absurd (inInt32_add (k := 0) hn (Nat.zero_le _) hsum) h⟩
      have hrest := ih (n + 0) true t hitems.2 (by simpa [isSocketValid, hg.socket] using hvalid)
        (hg.type.trans htcp) (by omega) (by omega) (by rw [hg.errno_eq, hg.answers_eq]; exact hlegal)
      refine wp_mono (fun r u h => ?_) (fun e u h => h) hrest
      obtain ⟨hcount, ⟨errno, answers, hg'⟩, hne⟩ := h
      rw [hg.errno_eq, hg.answers_eq] at hcount hg'
      rw [hg.answers_eq] at hne
      exact ⟨by rw [hcount]; omega, ⟨_, _, hg.trans hg'⟩, hne⟩
    · rw [blocks_cons hitems.1 hpos] at hlegal ⊢
      refine wp_mono (fun r t h => ?_) (fun e t h => h)
        (wp_virtualSend_item cls hitems.1 hpos hvalid htcp)
      obtain ⟨hleaves, hg, hcount⟩ := h
      have hne : s.os.script.send ≠ [] := by
        intro hnil
        rw [hnil] at hleaves
        exact Retry.not_finished_nil hleaves
      cases hks : sentOnce s.os.errno s.os.script.send with
      | nil =>
        -- the item the loop stops at
        obtain ⟨pre, e, htaken⟩ := takenFrom_of_sentOnce_nil hks hleaves
        have hr : r = -1 := by
          rw [hcount (.fail e) (by rw [htaken]; simp)]
          simp
        rw [if_pos hr, wp_pure]
        have hsends : sendsOf s.os.errno (v.bytes :: blocks vs) s.os.script.send =
            (takenFrom s.os.errno s.os.script.send).map fun a => (v.bytes, a) := by
          rw [sendsOf, hks]
        refine ⟨by simp, ?_, fun _ => hne⟩
        rw [hsends]
        exact ⟨_, _, hg⟩
      | cons k ks =>
        obtain ⟨hclean, rest, hanswers, hrest⟩ := sentOnce_cons hks
        rw [hks, List.zip_cons_cons, List.forall_mem_cons] at hlegal
        have hk : k ≤ v.iov_len := hitems.1.length_bytes ▸ hlegal.1
        rw [hanswers, takenFrom_ok hclean] at hg hcount
        have hr : r = k := by
          rw [hcount (.ok k) rfl]
          refine narrow_eq_self.mpr ?_
          unfold InInt32
          have : (k : Int) ≤ v.iov_len := by exact_mod_cast hk
          simp only [Answer.ret_ok]
          omega
        -- the item went out, and the loop goes on with the answers behind it
        rw [if_neg (by omega), wp_bind, wp_addInt32, hr]
        refine ⟨fun _ => ?_, fun h => absurd (inInt32_add hn hk hsum) h⟩
        have hgone : Gathered s [(v.bytes, .ok k)] s.os.errno rest t := hg
        have hnext := ih (n + k) true t hitems.2
          (by simpa [isSocketValid, hgone.socket] using hvalid) (hgone.type.trans htcp) (by omega)
          (by push_cast at hsum ⊢; omega)
          (by rw [hgone.errno_eq, hgone.answers_eq, hrest]; exact hlegal.2)
        refine wp_mono (fun r u h => ?_) (fun e u h => h) hnext
        obtain ⟨hcount', ⟨errno, answers, hg'⟩, -⟩ := h
        rw [hgone.errno_eq, hgone.answers_eq] at hcount' hg'
        rw [hrest] at hcount'
        refine ⟨?_, ⟨errno, answers, ?_⟩, fun _ => hne⟩
        · rw [hcount']
          simp
          omega
        · have hsends : sendsOf s.os.errno (v.bytes :: blocks vs) s.os.script.send =
              [(v.bytes, .ok k)] ++ sendsOf s.os.errno (blocks vs) rest := by
            rw [sendsOf, hks, hanswers]
            rfl
          rw [hsends]
          exact hgone.trans hg'

/-- `Flush` sends nothing. -/
theorem wp_flush (cls : SocketClass) {s : State} (htcp : s.self.m_nSocketType = .socketTypeTcp) :
    wp (flush cls) (fun _ t => sentIn t.trace = sentIn s.trace) (fun e _ => e = .waiting) s := by
  rw [flush, wp_bind, wp_this, wp_bind, sysGetsockopt, wp_issue_iff]
  refine ⟨fun _ => rfl, fun res rest _ => ?_⟩
  cases res with
  | fail e => simp [sentIn, Event.sent?]
  | ok nCurFlags =>
    rw [wp_bind, sysSetsockopt, wp_issue_iff]
    refine ⟨fun _ => rfl, fun res' rest' _ => ?_⟩
    -- whatever the empty `Send` comes to, the option is set back
    have hback : ∀ (b : Bool) (u : State), sentIn u.trace = sentIn s.trace →
        wp (do
          let _ ← sysSetsockopt s.self.m_socket IPPROTO_TCP TCP_NODELAY (.int nCurFlags)
          return b) (fun _ t => sentIn t.trace = sentIn s.trace) (fun e _ => e = .waiting) u := by
      intro b u hu
      rw [wp_bind, sysSetsockopt, wp_issue_iff]
      refine ⟨fun _ => rfl, fun res'' rest'' _ => ?_⟩
      have hquiet : ∀ ev : Event, ev.sent? = none → sentIn (u.trace ++ [ev]) = sentIn s.trace := by
        intro ev hev
        rw [← hu]
        simp [sentIn, hev]
      exact hquiet _ rfl
    rw [wp_bind, wp_ite]
    refine ⟨fun _ => ?_, fun _ => ?_⟩
    · rw [flushEmpty, wp_bind]
      refine wp_mono (fun r t h => ?_) (fun e t h => h.elim) (wp_virtualSend_empty cls _ htcp)
      rw [wp_bind, wp_translateSocketError, wp_pure]
      refine hback _ _ ?_
      rw [State.upd_trace, h.2.sent_eq]
      simp [sentIn, Event.sent?]
    · rw [wp_pure]
      refine hback _ _ ?_
      simp [sentIn, Event.sent?]

/-- **What `Writev` does**: it sends the blocks and returns the sum of the counts of those that
went out once. -/
theorem writev_outcome (cls : SocketClass) {o : CSimpleSocket} {os : Os} {items : List Iovec}
    (hvalid : o.isSocketValid = true) (htcp : o.m_nSocketType = .socketTypeTcp)
    (hitems : ∀ v ∈ items, v.Valid) (hcount : items.length < 2 ^ 31)
    (hsum : (items.map Iovec.iov_len).sum < 2 ^ 31)
    (hlegal : ∀ p ∈ (blocks items).zip (sentOnce os.errno os.script.send), p.2 ≤ p.1.length) :
    (∀ e t, call (writev cls items items.length) o os = .stop e t → e = .waiting) ∧
      ∀ r t, call (writev cls items items.length) o os = .done r t →
        r = (((sentOnce os.errno os.script.send).take (blocks items).length).sum : ℕ) ∧
        sentIn t.trace = sendsOf os.errno (blocks items) os.script.send ∧
        (blocks items ≠ [] → os.script.send ≠ []) := by
  -- the count of the items is passed as an `int`
  have hn : narrow items.length = items.length := by
    refine narrow_eq_self.mpr ?_
    unfold InInt32
    omega
  unfold writev
  rw [hn, Int.toNat_natCast, List.take_length]
  have hwp : wp (do
      let p ← writevLoop cls items 0 false
      when (p.2 = true) (do let _ ← flush cls)
      return p.1) (fun r t =>
        r = (((sentOnce os.errno os.script.send).take (blocks items).length).sum : ℕ) ∧
        sentIn t.trace = sendsOf os.errno (blocks items) os.script.send ∧
        (blocks items ≠ [] → os.script.send ≠ [])) (fun e _ => e = .waiting) ⟨o, os, []⟩ := by
    rw [wp_bind]
    refine wp_mono (fun r t h => ?_) (fun e t h => h) (wp_writevLoop cls items 0 false ⟨o, os, []⟩
      hitems hvalid htcp le_rfl (by exact_mod_cast by omega) hlegal)
    obtain ⟨hr, ⟨errno, answers, hg⟩, hne⟩ := h
    rw [Int.zero_add] at hr
    have hsent : sentIn t.trace = sendsOf os.errno (blocks items) os.script.send := hg.sent_eq
    -- `Flush` comes after the loop, whatever it returned, and sends nothing
    rw [wp_bind, wp_when]
    refine ⟨fun _ => ?_, fun _ => ⟨hr, hsent, hne⟩⟩
    rw [wp_bind]
    refine wp_mono (fun _ u hu => ?_) (fun e u h => h) (wp_flush cls (hg.type.trans htcp))
    exact ⟨hr, hu.trans hsent, hne⟩
  refine ⟨fun e t hrun => ?_, fun r t hrun => ?_⟩
  · have hstop := wp_stopped hwp hrun
    exact hstop
  · have hdone := wp_call hwp hrun
    exact hdone

/-! ### The stream -/

/-- What a call has put on the stream. -/
def wentOut : Bytes × Answer ℕ → Bytes
  | (data, .ok k) => data.take k
  | (_, .fail _) => []

/-- What calls have put on the stream. -/
def onStream (sent : List (Bytes × Answer ℕ)) : Bytes := sent.flatMap wentOut

/-- The `send`s that the item is met with at which the loop stops. -/
def stoppedAt (errno : Int) (bs : List Bytes) (answers : List (Answer ℕ)) :
    List (Bytes × Answer ℕ) :=
  match bs.drop (sentOnce errno answers).length with
  | [] => []
  | b :: _ => (takenFrom errno (answers.drop (sentOnce errno answers).length)).map fun a => (b, a)

/-- On the stream are the accepted parts, and what the item the loop stopped at left there. -/
theorem onStream_sendsOf (errno : Int) : ∀ (bs : List Bytes) (answers : List (Answer ℕ)),
    onStream (sendsOf errno bs answers) = Blocks.accepted bs (sentOnce errno answers) ++
      onStream (stoppedAt errno bs answers)
  | [], _ => by simp [sendsOf, stoppedAt, onStream]
  | b :: bs, answers => by
    cases hks : sentOnce errno answers with
    | nil => simp [sendsOf, stoppedAt, hks]
    | cons k ks =>
      obtain ⟨hclean, rest, rfl, hrest⟩ := sentOnce_cons hks
      have ih := onStream_sendsOf errno bs rest
      have hstop : stoppedAt errno (b :: bs) (.ok k :: rest) = stoppedAt errno bs rest := by
        simp [stoppedAt, hks, hrest]
      rw [sendsOf, hks, hstop, Blocks.accepted_cons, List.append_assoc, ← hrest, ← ih]
      rfl

/-- The item the loop stopped at left nothing when no `send` of it counted anything. -/
theorem onStream_stoppedAt_eq_nil {errno : Int} {bs : List Bytes} {answers : List (Answer ℕ)}
    (hbs : ∀ b ∈ bs, b ≠ []) : onStream (stoppedAt errno bs answers) = [] ↔
      ((sentOnce errno answers).length < bs.length →
        ∀ k, .ok k ∈ takenFrom errno (answers.drop (sentOnce errno answers).length) → k = 0) := by
  unfold stoppedAt
  -- no item is left when the loop came to its end
  cases hdrop : bs.drop (sentOnce errno answers).length with
  | nil =>
    have hlen := List.drop_eq_nil_iff.mp hdrop
    exact iff_of_true rfl fun h => absurd h (Nat.not_lt.mpr hlen)
  | cons b bs' =>
    have hlen : (sentOnce errno answers).length < bs.length := by
      by_contra hle
      rw [List.drop_eq_nil_of_le (Nat.le_of_not_lt hle)] at hdrop
      cases hdrop
    have hb : b ≠ [] := hbs b (List.mem_of_mem_drop (hdrop ▸ List.mem_cons_self))
    simp only [onStream, List.flatMap_eq_nil_iff, List.forall_mem_map, hlen, forall_const]
    constructor
    · intro h k hk
      have hnil := h (.ok k) hk
      simpa [wentOut, hb] using hnil
    · rintro h (k | e) ha
      · simp [wentOut, h k ha]
      · rfl

/-- The first `send` meets the first answer. -/
theorem head_sendsOf {errno : Int} {b : Bytes} {bs : List Bytes} {a : Answer ℕ}
    {answers : List (Answer ℕ)} :
    (sendsOf errno (b :: bs) (a :: answers)).head? = some (b, a) := by
  -- either way the item is met with the first answer: counted at once, or as the one to stop at
  cases hks : sentOnce errno (a :: answers) with
  | nil =>
    have htaken : (takenFrom errno (a :: answers)).head? = some a := by
      by_cases h : Interrupted (errnoAfter errno a)
      · rw [takenFrom, Retry.taken_again h]
        rfl
      · rw [takenFrom, Retry.taken_leave h]
        rfl
    rw [sendsOf, hks, List.head?_map, htaken]
    rfl
  | cons k ks =>
    obtain ⟨-, rest, heq, -⟩ := sentOnce_cons hks
    rw [sendsOf, hks, (List.cons.inj heq).1]
    rfl

/-! ### Against `writev(2)` -/

/-- **What `writev(2)` does** with these items, as seen from the call that returned. -/
structure RefinesWritev (items : List Iovec) (r : Int) (t : State) : Prop where
  /-- What is put on the stream is a prefix of all items together, -/
  stream : onStream (sentIn t.trace) <+: (items.map Iovec.bytes).flatten
  /-- and its length is returned. -/
  count : r ≠ -1 → r = (onStream (sentIn t.trace)).length
  /-- An error is returned exactly when the first `send` fails, -/
  failed : r = -1 ↔ ∃ data e, (sentIn t.trace).head? = some (data, .fail e)
  /-- and is the one reported. -/
  code : ∀ data e, (sentIn t.trace).head? = some (data, .fail e) →
    t.self.m_socketErrno = translateErrno e.1

/-- **The condition**: the first `send` does not fail, those of the item the loop stops at accept
nothing, and what is accepted after a short count is what was due. -/
structure WritesThrough (errno : Int) (bs : List Bytes) (answers : List (Answer ℕ)) : Prop where
  first : bs ≠ [] → ∀ e, answers.head? ≠ some (.fail e)
  stopped : (sentOnce errno answers).length < bs.length →
    ∀ k, .ok k ∈ takenFrom errno (answers.drop (sentOnce errno answers).length) → k = 0
  follows : Blocks.Follows bs (sentOnce errno answers)

theorem flatten_blocks (items : List Iovec) :
    (blocks items).flatten = (items.map Iovec.bytes).flatten := List.flatten_filter_ne_nil

/-- The outcome of a `Writev` that returned, and the condition. -/
theorem refinesWritev_iff {cls : SocketClass} {o : CSimpleSocket} {os : Os} {items : List Iovec}
    (hvalid : o.isSocketValid = true) (htcp : o.m_nSocketType = .socketTypeTcp)
    (hitems : ∀ v ∈ items, v.Valid) (hcount : items.length < 2 ^ 31)
    (hsum : (items.map Iovec.iov_len).sum < 2 ^ 31)
    (hlegal : ∀ p ∈ (blocks items).zip (sentOnce os.errno os.script.send), p.2 ≤ p.1.length)
    {r : Int} {t : State} (hrun : call (writev cls items items.length) o os = .done r t) :
    RefinesWritev items r t ↔ WritesThrough os.errno (blocks items) os.script.send := by
  obtain ⟨hr, hsent, hne⟩ := (writev_outcome cls hvalid htcp hitems hcount hsum hlegal).2 r t hrun
  have hblocks : ∀ b ∈ blocks items, b ≠ [] := fun b hb => by simpa using (List.mem_filter.mp hb).2
  have hlen := Blocks.length_accepted hlegal
  have hstream := onStream_sendsOf os.errno (blocks items) os.script.send
  have hprefix := Blocks.accepted_prefix_iff (blocks items) (sentOnce os.errno os.script.send)
  have hnil : onStream (stoppedAt os.errno (blocks items) os.script.send) = [] ↔ _ :=
    onStream_stoppedAt_eq_nil hblocks
  have hneg : r ≠ -1 := by omega
  -- the first `send` fails when the first answer does
  have hhead : (∃ data e, (sentIn t.trace).head? = some (data, .fail e)) ↔
      blocks items ≠ [] ∧ ∃ e, os.script.send.head? = some (.fail e) := by
    rw [hsent]
    cases hb : blocks items with
    | nil => simp [sendsOf]
    | cons b bs =>
      obtain ⟨a, answers, ha⟩ := List.exists_cons_of_ne_nil (hne (by simp [hb]))
      rw [ha, head_sendsOf]
      simp
  constructor
  · intro h
    -- the count tells that nothing else went out
    have hgone : onStream (stoppedAt os.errno (blocks items) os.script.send) = [] := by
      have hcount := h.count hneg
      rw [hsent, hstream, List.length_append, hlen, hr] at hcount
      exact List.length_eq_zero_iff.mp (by omega)
    have hstream' := h.stream
    rw [hsent, hstream, hgone, List.append_nil, ← flatten_blocks] at hstream'
    refine ⟨fun hb e he => ?_, hnil.mp hgone, hprefix.mp hstream'⟩
    exact hneg (h.failed.mpr (hhead.mpr ⟨hb, e, he⟩))
  · intro h
    have hgone := hnil.mpr h.stopped
    have hnofail : ¬ ∃ data e, (sentIn t.trace).head? = some (data, .fail e) := by
      rw [hhead]
      rintro ⟨hb, e, he⟩
      exact h.first hb e he
    rw [hgone, List.append_nil] at hstream
    refine ⟨?_, fun _ => ?_, iff_of_false hneg hnofail, fun data e he => ?_⟩
    · rw [hsent, hstream, ← flatten_blocks]
      exact hprefix.mpr h.follows
    · rw [hsent, hstream, hlen, hr]
    · exact absurd ⟨data, e, he⟩ hnofail

/-- **`Writev` refines `writev(2)`** exactly under the condition, and it overflows nowhere. -/
theorem writev_iff (cls : SocketClass) (o : CSimpleSocket) (os : Os) (items : List Iovec)
    (hvalid : o.isSocketValid = true) (htcp : o.m_nSocketType = .socketTypeTcp)
    (hitems : ∀ v ∈ items, v.Valid) (hcount : items.length < 2 ^ 31)
    (hsum : (items.map Iovec.iov_len).sum < 2 ^ 31)
    (hlegal : ∀ p ∈ (blocks items).zip (sentOnce os.errno os.script.send), p.2 ≤ p.1.length) :
    (∀ e t, call (writev cls items items.length) o os = .stop e t → e = .waiting) ∧
      ∀ r t, call (writev cls items items.length) o os = .done r t →
        (RefinesWritev items r t ↔ WritesThrough os.errno (blocks items) os.script.send) :=
  ⟨(writev_outcome cls hvalid htcp hitems hcount hsum hlegal).1, fun _ _ hrun =>
    refinesWritev_iff hvalid htcp hitems hcount hsum hlegal hrun⟩

/-- The ordinary way to meet it: no `send` fails, and none counts anything after one that came
short. -/
theorem refinesWritev_of_endsShort {cls : SocketClass} {o : CSimpleSocket} {os : Os}
    {items : List Iovec} (hvalid : o.isSocketValid = true) (htcp : o.m_nSocketType = .socketTypeTcp)
    (hitems : ∀ v ∈ items, v.Valid) (hcount : items.length < 2 ^ 31)
    (hsum : (items.map Iovec.iov_len).sum < 2 ^ 31)
    (hlegal : ∀ p ∈ (blocks items).zip (sentOnce os.errno os.script.send), p.2 ≤ p.1.length)
    {r : Int} {t : State} (hrun : call (writev cls items items.length) o os = .done r t)
    (hall : (blocks items).length ≤ (sentOnce os.errno os.script.send).length)
    (hshort : Blocks.EndsShort (blocks items) (sentOnce os.errno os.script.send)) :
    RefinesWritev items r t := by
  refine (refinesWritev_iff hvalid htcp hitems hcount hsum hlegal hrun).mpr
    ⟨fun hblocks e he => ?_, fun hstopped => absurd hall (Nat.not_le_of_lt hstopped), hshort.follows⟩
  -- a failure of the first `send` would leave no item sent
  have hsent : sentOnce os.errno os.script.send ≠ [] := by
    intro hnone
    rw [hnone] at hall
    exact hblocks (List.length_eq_zero_iff.mp (Nat.le_zero.mp hall))
  obtain ⟨k, ks, hks⟩ := List.exists_cons_of_ne_nil hsent
  obtain ⟨-, rest, hrest, -⟩ := sentOnce_cons hks
  rw [hrest] at he
  cases he

/-- Two items of two bytes. -/
def twoItems : List Iovec := [⟨some [1, 2], 2⟩, ⟨some [3, 4], 2⟩]

/-- The `send`s count so many bytes, and `Flush` does not get at the option. -/
def counting (k₁ k₂ : ℕ) : Os :=
  .idle { send := [.ok k₁, .ok k₂], getsockopt := [.fail ⟨EFAULT, by decide⟩] }

/-- A short count on the last item ends the prefix. -/
theorem writev_short_last : ∃ t,
    call (writev .active twoItems 2) (.holding .socketTypeTcp 3) (counting 2 1) = .done 3 t ∧
      RefinesWritev twoItems 3 t := by
  refine ⟨_, rfl, ((writev_iff .active (.holding .socketTypeTcp 3) (counting 2 1) twoItems rfl rfl
    ?_ (by decide) (by decide) (by decide)).2 3 _ rfl).mpr ⟨?_, ?_, ?_⟩⟩
  · simp [twoItems, Iovec.Valid]
  · rintro - e he
    cases he
  · intro h
    exact absurd h (by decide)
  · rw [← Blocks.accepted_prefix_iff]
    decide

/-- A short count on the first item leaves a hole. -/
theorem writev_short_first : ∃ t,
    call (writev .active twoItems 2) (.holding .socketTypeTcp 3) (counting 1 2) = .done 3 t ∧
      onStream (sentIn t.trace) = [1, 3, 4] ∧ ¬ RefinesWritev twoItems 3 t := by
  refine ⟨_, rfl, rfl, fun h => ?_⟩
  have hprefix : [1, 3, 4] <+: ([1, 2, 3, 4] : Bytes) := h.stream
  exact absurd hprefix (by decide)

end ClSocket
