import ClSocket.Descriptor.Isolation
import ClSocket.Exchange.Moved
import ClSocket.Framework.Channel

/-!
# Two programs over one connection

A party is a program with an object that is connected to the other party's. It makes calls, one
after the other (`CallStep`), and of each it is told what went out (`Op.reportedSent`) and what came
in (`Op.reportedReceived`). The calls of the two parties are interleaved in any way; the link between
them keeps the bytes of each direction in order.

`exchange_exact` says that the reports fit together: in every interleaving, and at every moment,
what the one has been told it sent is what the other has been told it received followed by what is
still in flight. It is a fact about uninterrupted calls; a single `EINTR` is enough to send a block
twice.
-/

namespace ClSocket

open Prog CSimpleSocket

/-! ### What a call reports -/

/-- What the program is told went out. -/
def Op.reportedSent : Op → Ret → Bytes
  | .send pBuf n, .int r => ((pBuf.getD []).take n).take r.toNat
  | .sendVector items, .int r => (items.map Iovec.bytes).flatten.take r.toNat
  | _, _ => []

/-- What the program is told came in: so much of the buffer it reads. -/
def Op.reportedReceived : Op → Ret → CSimpleSocket → Bytes
  | .receive _ _, .received r out, o => ((readBlock out o.m_pBuffer).getD []).take r.toNat
  | _, _, _ => []

/-- The call is on the connection, and its sizes are ones that an `int32` can count. -/
def Op.Fits : Op → Prop
  | .receive n pBuffer => 0 < n ∧ InInt32 n ∧ ∀ b, pBuffer = some b → n ≤ b.length
  | .send pBuf n => InInt32 ((pBuf.getD []).take n).length
  | .sendVector items => InInt32 (items.map Iovec.bytes).flatten.length
  | .initializeSocket | .sendFile _ _ _ _ => False
  | _ => True

/-- An object to talk over. -/
structure Talking (o : CSimpleSocket) : Prop where
  proper : Proper o
  type : o.m_nSocketType = .socketTypeTcp
  buffer : BufferOk o

/-- A call that `Receive` makes on a stream. -/
def Receipt (fd n : Int) (e : Event) : Prop :=
  e.isReceipt fd n ∧ CSocketType.socketTypeTcp.Permits e

/-- A sane system delivers no more than `Receive` asked for. -/
theorem length_le_of_receipts {fd n : Int} {calls : Trace} (h : ∀ e ∈ calls, Receipt fd n e)
    (hsane : ∀ e ∈ calls, e.Sane) {bs : Bytes} (hbs : bs ∈ removedIn calls) : (bs.length : Int) ≤ n := by
  obtain ⟨e, he, hremoved⟩ := List.mem_filterMap.mp hbs
  obtain ⟨hreceipt, htcp⟩ := h e he
  have hs := hsane e he
  cases e with
  | recv fd' off len flags res =>
    obtain ⟨-, rfl⟩ := hreceipt
    cases res with
    | ok bs' =>
      cases hremoved
      exact hs
    | fail _ => cases hremoved
  | recvfrom _ _ _ => exact absurd htcp (by simp [CSocketType.Permits])
  | _ => cases hremoved

/-- Those are all the calls it makes. -/
theorem wp_receive_receipts {n : Int} {s : State} (hs : s.trace = []) (ho : Talking s.self) :
    wp (receive n none) (fun _ t => ∀ e ∈ t.trace, Receipt s.self.m_socket n e)
      (fun _ t => ∀ e ∈ t.trace, Receipt s.self.m_socket n e) s := by
  have hcalls : ∀ t, Receipts n s t → Conduct (.of s.self.m_nSocketType s.self.m_socket) s t →
      ∀ e ∈ t.trace, Receipt s.self.m_socket n e := by
    rintro t ⟨-, calls, htrace, hreceipts⟩ hconduct
    obtain ⟨-, calls', htrace', hall, -⟩ := hconduct ho.proper.held
    rw [hs, List.nil_append] at htrace htrace'
    rw [htrace] at htrace' ⊢
    subst htrace'
    refine fun e he => ⟨hreceipts e he, ?_⟩
    rw [← ho.type]
    exact (hall e he).permits
  exact wp_mono (fun _ t h => hcalls t h.1 h.2) (fun _ t h => hcalls t h.1 h.2)
    (wp_conj (receipts_receive none s) (conduct_receive rfl n none s))

/-- What a call moved is what it reported. -/
structure Faithful (op : Op) (ret : Ret) (t : State) : Prop where
  sent : t.trace.flatMap Event.put = op.reportedSent ret
  received : t.trace.flatMap Event.took = op.reportedReceived ret t.self

/-- A licence under which no data is moved. -/
def Licence.mute (o : CSimpleSocket) : Licence :=
  { Licence.of o.m_nSocketType o.m_socket with moves := false }

theorem Licence.Allows.unmoved {o : CSimpleSocket} {e : Event} (h : (Licence.mute o).Allows e) :
    e.put = [] ∧ e.took = [] := by
  cases e with
  | send => exact absurd h.2.2 (by simp [Licence.mute])
  | writev => exact absurd h.2 (by simp [Licence.mute])
  | recv => exact absurd h.2.2.1 (by simp [Licence.mute])
  | recvfrom => exact absurd h.2.2 (by simp [Licence.mute])
  | _ => exact ⟨rfl, rfl⟩

section

variable {cls : SocketClass} {o : CSimpleSocket} {os : Os} {ret : Ret} {t : State}

/-- An operation that moves no data reports none. -/
theorem faithful_of_mute {op : Op} (ho : Talking o) (hown : op.isOwn = true)
    (hmute : op.moves = false) (hrun : call (op.run cls) o os = .done ret t) : Faithful op ret t := by
  have hheld : (Licence.mute o).Held o :=
    ⟨Or.inl rfl, rfl, ho.proper.domain, ho.proper.flags, ho.proper.code⟩
  obtain ⟨-, calls, htrace, hall, -⟩ := wp_call
    (conduct_run (l := .mute o) cls hown (fun h => by rw [hmute] at h; cases h) ⟨o, os, []⟩) hrun hheld
  have htrace : t.trace = calls := htrace
  have hsent : ∀ r, op.reportedSent r = [] := fun r => by cases op <;> first | rfl | cases hmute
  have hreceived : ∀ r o, op.reportedReceived r o = [] := fun r o => by
    cases op <;> first | rfl | cases hmute
  constructor
  · rw [hsent, htrace, List.flatMap_eq_nil_iff]
    exact fun e he => (hall e he).unmoved.1
  · rw [hreceived, htrace, List.flatMap_eq_nil_iff]
    exact fun e he => (hall e he).unmoved.2

/-- A count that an `int32` can hold is returned as it is. -/
theorem toNat_narrow {k n : ℕ} (hk : k ≤ n) (hn : InInt32 n) : (narrow k).toNat = k := by
  have hself : narrow k = k := narrow_eq_self.mpr ⟨by omega, by
    have := hn.2
    omega⟩
  rw [hself]
  exact Int.toNat_natCast k

/-- `Send`. -/
theorem faithful_send {pBuf : Option Bytes} {n : ℕ} (ho : Talking o)
    (hfits : (Op.send pBuf n).Fits) (herrno : os.errno ≠ EINTR)
    (hrun : call ((Op.send pBuf n).run cls) o os = .done ret t) (hcalm : ¬ Disturbed t.trace)
    (hsane : ∀ e ∈ t.trace, e.Sane) : Faithful (.send pBuf n) ret t := by
  obtain ⟨r, hr, rfl⟩ := call_done hrun
  obtain ⟨as, hend⟩ := wp_call (wp_virtualSend_end cls pBuf n (s := ⟨o, os, []⟩) rfl ho.type) hr
  -- without an interruption it is called once at most
  have honce : as.length ≤ 1 := hend.once herrno fun a ha => by
    rw [← Bool.not_eq_true]
    intro hintr
    refine hcalm ⟨.send o.m_socket ((pBuf.getD []).take n) a, ?_, hintr⟩
    rw [hend.trace_eq]
    exact List.mem_map_of_mem ha
  have htrace := hend.trace_eq
  have hresult := hend.result
  match as with
  | [] =>
    have hzero : r = 0 := hresult
    subst hzero
    exact ⟨by rw [htrace]; simp [Op.reportedSent], by rw [htrace]; rfl⟩
  | [a] =>
    have hcount : r = narrow a.ret := hresult
    subst hcount
    cases a with
    | fail e => exact ⟨by rw [htrace]; simp [Op.reportedSent, Event.put], by rw [htrace]; rfl⟩
    | ok k =>
      rw [htrace] at hsane
      have hk : k ≤ ((pBuf.getD []).take n).length := hsane _ (List.mem_singleton_self _)
      refine ⟨?_, by rw [htrace]; rfl⟩
      -- the count is an `int32`, in which the length of the block fits
      rw [htrace, Op.reportedSent, Answer.ret_ok, toNat_narrow hk hfits]
      simp [Event.put]
  | _ :: _ :: _ => exact absurd honce (by simp)

/-- `Send` of a vector. -/
theorem faithful_sendVector {items : List Iovec} (hfits : (Op.sendVector items).Fits)
    (hrun : call ((Op.sendVector items).run cls) o os = .done ret t)
    (hsane : ∀ e ∈ t.trace, e.Sane) : Faithful (.sendVector items) ret t := by
  obtain ⟨r, hr, rfl⟩ := call_done hrun
  have hmade : wp (sendVector items) (fun r t => ∃ res, r = narrow res.ret ∧
      t.trace = [.writev o.m_socket (items.map Iovec.bytes) res]) (fun _ _ => True) ⟨o, os, []⟩ := by
    simp only [sendVector, wp_bind, wp_setSocketError, wp_assign, wp_this, sysWritev, wp_issue_iff,
      wp_when, wp_translateSocketError, wp_pure]
    exact ⟨fun _ => trivial, fun res rest _ => ⟨fun _ => ⟨res, rfl, rfl⟩, fun _ => ⟨res, rfl, rfl⟩⟩⟩
  obtain ⟨res, rfl, htrace⟩ := wp_call hmade hr
  cases res with
  | fail e => exact ⟨by rw [htrace]; simp [Op.reportedSent, Event.put], by rw [htrace]; rfl⟩
  | ok k =>
    rw [htrace] at hsane
    have hk : k ≤ (items.map Iovec.bytes).flatten.length := hsane _ (List.mem_singleton_self _)
    refine ⟨?_, by rw [htrace]; rfl⟩
    rw [htrace, Op.reportedSent, Answer.ret_ok, toNat_narrow hk hfits]
    simp [Event.put]

/-- `Receive`. -/
theorem faithful_receive {n : Int} {pBuffer : Option Bytes} (ho : Talking o)
    (hfits : (Op.receive n pBuffer).Fits) (herrno : os.errno ≠ EINTR)
    (hrun : call ((Op.receive n pBuffer).run cls) o os = .done ret t) (hcalm : ¬ Disturbed t.trace)
    (hsane : ∀ e ∈ t.trace, e.Sane) : Faithful (.receive n pBuffer) ret t := by
  obtain ⟨⟨r, out⟩, hr, rfl⟩ := call_done hrun
  obtain ⟨hpos, hmax, hroom⟩ := hfits
  by_cases hvalid : o.m_socket = -1
  -- nothing is called
  · have hzero : wp (receive n pBuffer) (fun r t => r = (0, pBuffer) ∧ t.trace = [])
        (fun _ _ => True) ⟨o, os, []⟩ := by
      rw [wp_receive_iff]
      exact ⟨fun _ => ⟨rfl, rfl⟩, fun h => absurd hvalid (by simpa using h)⟩
    obtain ⟨heq, htrace⟩ := wp_call hzero hr
    cases heq
    exact ⟨by rw [htrace]; rfl, by rw [htrace]; simp [Op.reportedReceived]⟩
  · obtain ⟨hend, hcount, -⟩ := wp_call (wp_receive_received (s := ⟨o, os, []⟩) rfl hvalid ho.type
      ho.buffer hpos hmax hroom) hr
    obtain ⟨-, calls, htrace, hall⟩ := wp_call (receipts_receive pBuffer ⟨o, os, []⟩) hr
    have htrace : t.trace = calls := htrace
    refine ⟨?_, ?_⟩
    · have hsent : t.trace.flatMap Event.put = [] := by
        rw [htrace, List.flatMap_eq_nil_iff]
        exact fun e he => (hall e he).put
      exact hsent
    rw [flatMap_took]
    rcases hend.result with ⟨hfail, hlost⟩ | ⟨-, hlanded⟩
    · have hr : r = -1 := hcount.trans hfail
      have hnone : removedIn t.trace = [] := by
        by_contra hne
        exact (hlost hne).elim herrno hcalm
      rw [hnone, hr]
      simp [Op.reportedReceived]
    · obtain ⟨bs, block, hremoved, hlength, hblock, hfront⟩ := hlanded hsane
      have hr : r = bs.length := hcount.trans hlength
      rw [hremoved, hr, Op.reportedReceived, hblock]
      simpa using hfront.symm

end

/-- **A call reports what it moves**, if nothing interrupts it; the object stays one to talk over,
and `EINTR` stays out of `errno`. -/
theorem faithful_run {cls : SocketClass} {o : CSimpleSocket} {op : Op} {os : Os} {ret : Ret} {t : State}
    (ho : Talking o) (hfits : op.Fits) (herrno : os.errno ≠ EINTR)
    (hrun : call (op.run cls) o os = .done ret t) (hcalm : ¬ Disturbed t.trace)
    (hsane : ∀ e ∈ t.trace, e.Sane) : Faithful op ret t ∧ Talking t.self ∧ t.os.errno ≠ EINTR := by
  -- the two operations that are not on the object's own descriptor do not fit
  have hown : op.isOwn = true := by
    cases op <;> first | rfl | exact hfits.elim
  obtain ⟨⟨hproper, htype⟩, -⟩ := wp_call (wp_run_licensed cls op (s := ⟨o, os, []⟩) ho.proper) hrun
  refine ⟨?_, ⟨hproper, htype.trans ho.type, bufferOk_of_call ho.buffer hrun⟩, fun hintr => ?_⟩
  · by_cases hmoves : op.moves = true
    · cases op with
      | send pBuf n => exact faithful_send ho hfits herrno hrun hcalm hsane
      | sendVector items => exact faithful_sendVector hfits hrun hsane
      | receive n pBuffer => exact faithful_receive ho hfits herrno hrun hcalm hsane
      | _ => cases hmoves
    · exact faithful_of_mute ho hown (Bool.not_eq_true _ |>.mp hmoves) hrun
  · obtain ⟨-, calls, htrace, -, hwhy⟩ := wp_call
      (conduct_run (l := .of o.m_nSocketType o.m_socket) cls hown (fun _ => rfl) ⟨o, os, []⟩) hrun
        ho.proper.held
    have htrace : t.trace = calls := htrace
    rw [htrace] at hcalm
    exact (hwhy hintr).elim herrno hcalm

/-! ### Sessions -/

/-- A program that talks over an object. -/
structure Party where
  cls : SocketClass
  self : CSimpleSocket
  errno : Int

/-- A call that returned: what was called and returned, the system calls it made, and the object
after it. -/
structure Turn where
  op : Op
  ret : Ret
  trace : Trace
  self : CSimpleSocket

/-- **A call of a party.** Between two calls the program may change `errno`, but does not leave `EINTR`
there. -/
inductive CallStep : Party → Turn → Party → Prop where
  | call {p : Party} {op : Op} {os : Os} {ret : Ret} {t : State} (has : op.ofClass p.cls = true)
      (errno : os.errno = EINTR → p.errno = EINTR)
      (hrun : ClSocket.call (op.run p.cls) p.self os = .done ret t) :
      CallStep p ⟨op, ret, t.trace, t.self⟩ ⟨p.cls, t.self, t.os.errno⟩

/-- A party that is about to talk. -/
structure Party.Ready (p : Party) : Prop where
  reachable : Reachable p.cls p.self
  type : p.self.m_nSocketType = .socketTypeTcp
  errno_ne : p.errno ≠ EINTR

theorem Party.Ready.talking {p : Party} (h : p.Ready) : Talking p.self :=
  ⟨h.reachable.proper, h.type, h.reachable.bufferOk⟩

section

variable (steps : List (Taken Party Turn))

/-- The system calls of a session. -/
def sessionTrace : Trace := steps.flatMap fun x => x.label.trace

/-- What the program has been told went out. -/
def sessionSent : Bytes := steps.flatMap fun x => x.label.op.reportedSent x.label.ret

/-- What the program has been told came in. -/
def sessionReceived : Bytes :=
  steps.flatMap fun x => x.label.op.reportedReceived x.label.ret x.label.self

end

/-- **A session reports what it moves.** -/
theorem session_faithful {p q : Party} {steps : List (Taken Party Turn)}
    (hrun : Run CallStep p steps q) (htalking : Talking p.self) (herrno : p.errno ≠ EINTR)
    (hfits : ∀ x ∈ steps, x.label.op.Fits) (hcalm : ∀ e ∈ sessionTrace steps, e.interrupts = false)
    (hsane : ∀ e ∈ sessionTrace steps, e.Sane) :
    sessionSent steps = (sessionTrace steps).flatMap Event.put ∧
      sessionReceived steps = (sessionTrace steps).flatMap Event.took := by
  induction hrun with
  | nil p => exact ⟨rfl, rfl⟩
  | @cons p q' q turn steps hstep _ ih =>
    cases hstep with
    | @call op os ret t has errno hrun =>
      rw [List.forall_mem_cons] at hfits
      have htrace : sessionTrace (⟨p, ⟨op, ret, t.trace, t.self⟩, ⟨p.cls, t.self, t.os.errno⟩⟩ :: steps) =
          t.trace ++ sessionTrace steps := List.flatMap_cons
      rw [htrace, List.forall_mem_append] at hcalm hsane
      have hundisturbed : ¬ Disturbed t.trace := by
        rintro ⟨e, he, hintr⟩
        rw [hcalm.1 e he] at hintr
        cases hintr
      -- the object stays one to talk over, so the induction goes on from there
      obtain ⟨hfaithful, htalking', herrno'⟩ := faithful_run htalking hfits.1
        (fun h => herrno (errno h)) hrun hundisturbed hsane.1
      obtain ⟨hsent, hreceived⟩ := ih htalking' herrno' hfits.2 hcalm.2 hsane.2
      rw [htrace, List.flatMap_append, List.flatMap_append, ← hsent, ← hreceived, hfaithful.sent,
        hfaithful.received]
      exact ⟨rfl, rfl⟩

/-- **The reports of two programs fit together**, in every interleaving of their calls: what each of
them has been told it sent is what the other has been told it received, followed by what is in
flight. -/
theorem exchange_exact {p q : Bool → Party} {steps : Bool → List (Taken Party Turn)}
    {log : List (Bool × Event)} (hrun : ∀ i, Run CallStep (p i) (steps i) (q i))
    (hready : ∀ i, (p i).Ready) (hfits : ∀ i, ∀ x ∈ steps i, x.label.op.Fits)
    (hlog : ∀ i, Channel.doneBy i log = sessionTrace (steps i))
    (hcalm : ∀ x ∈ log, x.2.interrupts = false) (hsane : ∀ x ∈ log, x.2.Sane)
    (hlink : (Channel.monitor Event.put Event.took).Accepts (fun _ => []) log) (i : Bool) :
    sessionSent (steps i) = sessionReceived (steps !i) ++
      (Channel.monitor Event.put Event.took).after (fun _ => []) log i := by
  have hof : ∀ {P : Event → Prop}, (∀ x ∈ log, P x.2) → ∀ j, ∀ e ∈ sessionTrace (steps j), P e := by
    intro P hall j e he
    rw [← hlog j] at he
    obtain ⟨x, hx, rfl⟩ := Channel.exists_of_mem_doneBy he
    exact hall x hx
  have hmoved := fun j => session_faithful (hrun j) (hready j).talking (hready j).errno_ne (hfits j)
    (hof hcalm j) (hof hsane j)
  rw [(hmoved i).1, (hmoved !i).2, ← hlog, ← hlog]
  exact Channel.conserved hlink i

/-! One party sends two bytes, of which the other receives the first. -/

/-- Either party at the start. -/
def talker : Party := ⟨.active, Reachable.initialized, 0⟩

/-- The call of a party. -/
def talkerOp (i : Bool) : Op := if i then .receive 1 (some [0]) else .send (some [7, 8]) 2

/-- Its answers. -/
def talkerOs (i : Bool) : Os := .idle (if i then { recv := [.ok [7]] } else { send := [.ok 2] })

/-- The state after it. -/
def talked (i : Bool) : State := (call ((talkerOp i).run .active) talker.self (talkerOs i)).state

/-- What it returns. -/
def talkerRet (i : Bool) : Ret := if i then .received 1 (some [7]) else .int 2

/-- The session of a party. -/
def talk (i : Bool) : List (Taken Party Turn) :=
  [⟨talker, ⟨talkerOp i, talkerRet i, (talked i).trace, (talked i).self⟩,
    ⟨.active, (talked i).self, (talked i).os.errno⟩⟩]

/-- A byte has arrived, and a byte is in flight. -/
theorem exchange_exact_talk : sessionSent (talk false) = sessionReceived (talk true) ++ [8] := by
  have hrun : ∀ i, Run CallStep talker
      (talk i) ⟨.active, (talked i).self, (talked i).os.errno⟩ := by
    intro i
    refine .cons (@CallStep.call talker (talkerOp i) (talkerOs i) (talkerRet i) (talked i)
      ?_ id ?_) (.nil _)
    · cases i <;> rfl
    · cases i <;> rfl
  have hlink : (Channel.monitor Event.put Event.took).Accepts (fun _ => [])
      [(false, .send 3 [7, 8] (.ok 2)), (true, .recv 3 0 1 0 (.ok [7]))] := by
    simp [Channel.monitor, Event.put, Event.took, Event.removed?]
  refine exchange_exact hrun (fun _ => ⟨.of_initialized, rfl, by decide⟩) ?fits ?log (by decide) ?sane
    hlink false
  case fits =>
    intro i x hx
    obtain rfl := List.mem_singleton.mp hx
    cases i
    · exact ⟨by decide, by decide⟩
    · refine ⟨by decide, by decide, fun b hb => ?_⟩
      cases hb
      decide
  case log =>
    intro i
    cases i <;> rfl
  case sane =>
    simp [Event.Sane]

end ClSocket
