import ClSocket.Errors.Report

/-!
# The error code after the operations with branches

What the code tells of the operations that go several ways: `Open`, `Listen`, `BindMulticast`,
`Select`, the sending ones, `Receive` and `SendFile`. Of each it is said when it fails silently
(`OpenSilent`, `SelectSilent`, `SendFileSilent`, `Miscounted`) and when its success is clean.
-/

namespace ClSocket

open Prog CSimpleSocket CActiveSocket CPassiveSocket

/-! ### `Open` and `Select` -/

/-- **The silent failures of `Open`**: the code is that of an earlier call, because nothing sets
it, or the translation of what `errno` held. -/
inductive OpenSilent (o : CSimpleSocket) (os : Os) (pAddr : Option String) (nPort : UInt16) :
    Prop where
  | unsupported (addr : String) (accepted : Accepted o pAddr nPort addr)
      (type : o.m_nSocketType ≠ .socketTypeTcp ∧ o.m_nSocketType ≠ .socketTypeUdp)
      (prior : o.m_socketErrno = .socketSuccess)
  | unresolved (addr : String) (accepted : Accepted o pAddr nPort addr)
      (type : o.m_nSocketType = .socketTypeTcp ∨ o.m_nSocketType = .socketTypeUdp)
      (h_errno errno : Int)
      (answer : os.script.gethostbyname.head? = some (.failed h_errno errno))
      (other : h_errno ≠ HOST_NOT_FOUND) (prior : o.m_socketErrno = .socketSuccess)
  | broadcast (addr : String) (accepted : Accepted o pAddr nPort addr)
      (type : o.m_nSocketType = .socketTypeTcp ∨ o.m_nSocketType = .socketTypeUdp)
      (answer : os.script.gethostbyname.head? = some (.found 0xffffffff)) (errno : os.errno = 0)

theorem OpenSilent.exists_accepted {o : CSimpleSocket} {os : Os} {pAddr : Option String}
    {nPort : UInt16} (h : OpenSilent o os pAddr nPort) : ∃ addr, Accepted o pAddr nPort addr := by
  cases h with
  | unsupported addr accepted => exact ⟨addr, accepted⟩
  | unresolved addr accepted => exact ⟨addr, accepted⟩
  | broadcast addr accepted => exact ⟨addr, accepted⟩

section

variable {o : CSimpleSocket} {os : Os} {pAddr : Option String} {nPort : UInt16} {addr : String}

/-- Nothing is called for a socket of another type, and the code is the old one. -/
theorem openSilent_iff_of_unsupported (accepted : Accepted o pAddr nPort addr)
    (type : o.m_nSocketType ≠ .socketTypeTcp ∧ o.m_nSocketType ≠ .socketTypeUdp) :
    OpenSilent o os pAddr nPort ↔ o.m_socketErrno = .socketSuccess := by
  constructor
  · intro h
    cases h with
    | unsupported _ _ _ prior => exact prior
    | unresolved _ _ type' => exact absurd type' (not_or.mpr type)
    | broadcast _ _ type' => exact absurd type' (not_or.mpr type)
  · exact .unsupported addr accepted type

/-- One resolver error has a code of its own, the others leave the code of the earlier calls. -/
theorem openSilent_iff_of_failed {h_errno errno : Int} (accepted : Accepted o pAddr nPort addr)
    (type : o.m_nSocketType = .socketTypeTcp ∨ o.m_nSocketType = .socketTypeUdp)
    (answer : os.script.gethostbyname.head? = some (.failed h_errno errno)) :
    OpenSilent o os pAddr nPort ↔
      h_errno ≠ HOST_NOT_FOUND ∧ o.m_socketErrno = .socketSuccess := by
  constructor
  · intro h
    cases h with
    | unsupported _ _ type' => exact absurd type (not_or.mpr type')
    | unresolved _ _ _ _ _ answer' other prior =>
      rw [answer] at answer'
      cases answer'
      exact ⟨other, prior⟩
    | broadcast _ _ _ answer' =>
      rw [answer] at answer'
      cases answer'
  · rintro ⟨other, prior⟩
    exact .unresolved addr accepted type h_errno errno answer other prior

/-- The broadcast address is taken for `INADDR_NONE`, and `errno` is what it was at entry. -/
theorem openSilent_iff_of_found {a : UInt32} (accepted : Accepted o pAddr nPort addr)
    (type : o.m_nSocketType = .socketTypeTcp ∨ o.m_nSocketType = .socketTypeUdp)
    (answer : os.script.gethostbyname.head? = some (.found a)) :
    OpenSilent o os pAddr nPort ↔ a = 0xffffffff ∧ os.errno = 0 := by
  constructor
  · intro h
    cases h with
    | unsupported _ _ type' => exact absurd type (not_or.mpr type')
    | unresolved _ _ _ _ _ answer' =>
      rw [answer] at answer'
      cases answer'
    | broadcast _ _ _ answer' errno =>
      rw [answer] at answer'
      cases answer'
      exact ⟨rfl, errno⟩
  · rintro ⟨rfl, errno⟩
    exact .broadcast addr accepted type answer errno

end

/-- What a failed `Open` leaves in the code. -/
theorem OpenCase.silent_iff {s t : State} {pAddr : Option String} {nPort : UInt16}
    (h : OpenCase s pAddr nPort false t) :
    t.self.m_socketErrno = .socketSuccess ↔ OpenSilent s.self s.os pAddr nPort := by
  cases h with
  | invalid _ why failed =>
    -- an argument was refused, with a code of its own
    refine iff_of_false failed fun hsilent => ?_
    obtain ⟨addr, hvalid, haddr, hport⟩ := hsilent.exists_accepted
    rcases why with hv | ha | hp
    · exact hvalid hv
    · rw [haddr] at ha
      cases ha
    · exact hport hp
  | unsupported addr accepted type => exact (openSilent_iff_of_unsupported accepted type).symm
  | unresolved _ addr accepted type h answer none code =>
    rw [code]
    cases h with
    | failed h_errno errno =>
      rw [openSilent_iff_of_failed accepted type answer]
      show (if h_errno = HOST_NOT_FOUND then CSocketError.socketInvalidAddress
        else s.self.m_socketErrno) = .socketSuccess ↔ _
      by_cases hnf : h_errno = HOST_NOT_FOUND
      · rw [if_pos hnf]
        exact iff_of_false (by simp) fun hother => hother.1 hnf
      · rw [if_neg hnf]
        exact (and_iff_right hnf).symm
    | found a =>
      rw [openSilent_iff_of_found accepted type answer, and_iff_right (none a rfl)]
      exact translateErrno_eq_success
  | failed _ addr accepted type a answer host evs attempt code =>
    -- the name resolved, and the connection failed with a code
    rw [openSilent_iff_of_found accepted type answer]
    exact iff_of_false code fun hfound => host hfound.1

section

variable (s : State)

/-- A successful `Open` ends by setting the code. -/
theorem wp_openSocket_code (pAddr : Option String) (nPort : UInt16) :
    wp (openSocket pAddr nPort) (fun r t => r = true → t.self.m_socketErrno = .socketSuccess)
      (fun _ _ => True) s := by
  unfold openSocket
  rw [wp_bind, wp_this, wp_ite]
  refine ⟨fun _ => ?_, fun _ => ?_⟩
  · rw [wp_bind, wp_setSocketError, wp_pure]
    intro h
    cases h
  cases pAddr with
  | none =>
    rw [wp_bind, wp_setSocketError, wp_pure]
    intro h
    cases h
  | some addr =>
    rw [wp_ite]
    refine ⟨fun _ => ?_, fun _ => ?_⟩
    · rw [wp_bind, wp_setSocketError, wp_pure]
      intro h
      cases h
    · rw [wp_bind]
      refine wp_mono (fun r u _ => ?_) (fun _ _ _ => trivial)
        (wp_trivial (connectByType addr nPort) s)
      rw [wp_bind, wp_when]
      -- the code is set when the endpoints have been asked for, whatever the answers
      refine ⟨fun _ => ?_, fun hfalse htrue => absurd htrue hfalse⟩
      simp [storeEndpoints, sysGetpeername, sysGetsockname]

theorem tells_openSocket (pAddr : Option String) (nPort : UInt16) :
    wp (openSocket pAddr nPort) (fun r t =>
      Tells (r = false) (OpenSilent s.self s.os pAddr nPort) (r = true) True t)
      (fun _ _ => True) s := by
  refine wp_mono (fun r t h => ?_) (fun _ _ h => h)
    (wp_and (wp_openSocket pAddr nPort s) (wp_openSocket_code s pAddr nPort))
  obtain ⟨hcase, hcode⟩ := h
  refine ⟨?_, fun hr => iff_of_true (hcode hr) trivial⟩
  rintro rfl
  exact hcase.silent_iff

/-- **The silent failures of `Select`**: other descriptors are ready, this one is not. -/
def SelectSilent (o : CSimpleSocket) (os : Os) : Prop :=
  o.m_socketErrno = .socketSuccess ∧ ∃ r : Selected, os.script.select.head? = some (.ok r) ∧
    r.count ≠ 0 ∧ ¬ (Answer.ok r).leavesSet o.m_socket

/-- A successful `Select` translates the error of the socket, which is zero. -/
theorem wp_select_code (sec usec : Int) :
    wp (select sec usec) (fun r t => r = true → t.self.m_socketErrno = .socketSuccess)
      (fun _ _ => True) s := by
  rw [select, wp_bind]
  refine wp_mono (fun res u _ => ?_) (fun _ _ _ => trivial) (wp_trivial _ _)
  simp [sysGetsockopt]

theorem tells_select (sec usec : Int) :
    wp (select sec usec) (fun r t =>
      Tells (r = false) (SelectSilent s.self s.os) (r = true) True t) (fun _ _ => True) s := by
  refine wp_mono (fun r t h => ?_) (fun _ _ h => h)
    (wp_and (wp_select sec usec s) (wp_select_code s sec usec))
  obtain ⟨hcase, hcode⟩ := h
  refine ⟨fun hr => ?_, fun hr => iff_of_true (hcode hr) trivial⟩
  cases hcase with
  | timedOut _ r frame answer none code =>
    refine iff_of_false (by rw [code]; simp) ?_
    rintro ⟨-, r', hanswer, hcount, -⟩
    rw [answer] at hanswer
    cases hanswer
    exact hcount none
  -- others are ready: the code is not touched
  | notReady _ r frame answer some out code =>
    rw [code]
    exact ⟨fun h => ⟨h, r, answer, some, out⟩, fun h => h.1⟩
  | asked _ sel pending frame answer error inSet code =>
    refine iff_of_false (code (of_decide_eq_false hr)) ?_
    rintro ⟨-, r', hanswer, -, hout⟩
    rw [answer] at hanswer
    cases hanswer
    exact hout inSet

/-! ### `Listen`, `BindMulticast` and `Accept` -/

/-- The two options `Listen` starts with are taken. -/
def OptionsTaken (sc : Script) : Prop :=
  headFails sc.setsockopt = false ∧ headFails sc.setsockopt.tail = false

/-- `errno` after the options: a failure that nobody looks at is in it. -/
theorem wp_listenOptions_errno :
    wp listenOptions (fun _ t => t.os.errno = 0 ↔ s.os.errno = 0 ∧ OptionsTaken s.os.script)
      (fun _ _ => True) s := by
  rw [listenOptions, wp_bind, wp_this, wp_bind, sysSetsockopt, wp_issue_iff]
  refine ⟨fun _ => trivial, fun a rest hq => ?_⟩
  rw [wp_bind, sysSetsockopt, wp_issue_iff]
  refine ⟨fun _ => trivial, fun a' rest' hq' => ?_⟩
  obtain rfl : rest = a' :: rest' := hq'
  cases a with
  | ok u =>
    cases a' with
    | ok u' => simp [OptionsTaken, hq]
    | fail e' => simp [OptionsTaken, hq, e'.2]
  | fail e =>
    cases a' with
    | ok u' => simp [OptionsTaken, hq, e.2]
    | fail e' => simp [OptionsTaken, hq, e'.2]

/-- `bind` and `listen` leave `errno` alone when they succeed. -/
theorem wp_bindAndListen_errno (nConnectionBacklog : Int) :
    wp (bindAndListen nConnectionBacklog) (fun r t => r = true → t.os.errno = s.os.errno)
      (fun _ _ => True) s := by
  simp [bindAndListen, sysBind, sysListen]

theorem wp_listen_code (pAddr : Option String) (nPort : UInt16) (nConnectionBacklog : Int) :
    wp (listen pAddr nPort nConnectionBacklog) (fun r t => r = true →
      (t.self.m_socketErrno = .socketSuccess ↔ s.os.errno = 0 ∧ OptionsTaken s.os.script))
      (fun _ _ => True) s := by
  rw [CPassiveSocket.listen, wp_bind]
  refine wp_mono (fun _ u hu => ?_) (fun _ _ h => h) (wp_listenOptions_errno s)
  simp only [wp_bind, wp_bindAddress, wp_assign, wp_timerInitialize, wp_setStartTime]
  refine wp_mono (fun r v hv => ?_) (fun _ _ h => h) (wp_bindAndListen_errno _ nConnectionBacklog)
  simp only [wp_setEndTime, wp_translateSocketError, wp_when, wp_pure]
  -- after a success the code is the translation of `errno`, which only the options can have set
  refine ⟨fun hfalse => ?_, fun _ htrue => ?_⟩
  · refine wp_mono (fun _ t _ htrue => ?_) (fun _ _ h => h) (wp_trivial closeKeepingError _)
    rw [hfalse] at htrue
    cases htrue
  · have herrno : v.os.errno = u.os.errno := hv htrue
    show translateErrno v.os.errno = .socketSuccess ↔ _
    rw [translateErrno_eq_success, herrno, hu]

theorem tells_listen (pAddr : Option String) (nPort : UInt16) (nConnectionBacklog : Int) :
    wp (listen pAddr nPort nConnectionBacklog) (fun r t => Tells (r = false) False (r = true)
      (s.os.errno = 0 ∧ OptionsTaken s.os.script) t) (fun _ _ => True) s := by
  refine wp_mono (fun r t h => ?_) (fun _ _ h => h) (wp_and
    (wp_listen pAddr nPort nConnectionBacklog s) (wp_listen_code s pAddr nPort nConnectionBacklog))
  obtain ⟨⟨-, -, -, hfalse⟩, hcode⟩ := h
  exact ⟨fun hr => iff_of_false (hfalse hr).2 id, hcode⟩

theorem wp_bindMulticast_code (pInterface : Option String) (pGroup : String) (nPort : UInt16) :
    wp (bindMulticast pInterface pGroup nPort) (fun r t => r = true →
      (t.self.m_socketErrno = .socketSuccess ↔ s.os.errno = 0)) (fun _ _ => True) s := by
  have hjoin : ∀ u : State, wp (bindAndJoin pGroup) (fun r t => r = true →
      t.os.errno = u.os.errno) (fun _ _ => True) u := by
    intro u
    simp [bindAndJoin, joinGroup, sysBind, sysSetsockopt]
  simp only [bindMulticast, wp_bind, wp_bindAddress, wp_assign]
  refine wp_mono (fun r v hv => ?_) (fun _ _ h => h) (hjoin _)
  simp only [wp_timerInitialize, wp_setStartTime, wp_translateSocketError, wp_when, wp_bind, wp_pure]
  refine ⟨fun hfalse => ?_, fun _ htrue => ?_⟩
  · refine wp_mono (fun _ t _ htrue => ?_) (fun _ _ h => h) (wp_trivial closeSocket _)
    rw [hfalse] at htrue
    cases htrue
  · have herrno : v.os.errno = s.os.errno := hv htrue
    show translateErrno v.os.errno = .socketSuccess ↔ _
    rw [translateErrno_eq_success, herrno]

theorem tells_bindMulticast (pInterface : Option String) (pGroup : String) (nPort : UInt16) :
    wp (bindMulticast pInterface pGroup nPort) (fun r t => Tells (r = false) False (r = true)
      (s.os.errno = 0) t) (fun _ _ => True) s := by
  refine wp_mono (fun r t h => ?_) (fun _ _ h => h) (wp_and
    (wp_bindMulticast pInterface pGroup nPort s)
    (wp_bindMulticast_code s pInterface pGroup nPort))
  obtain ⟨⟨-, -, -, hfalse⟩, hcode⟩ := h
  exact ⟨fun hr => iff_of_false (hfalse hr).2 id, hcode⟩

theorem tells_accept (raw : CSimpleSocket) (clean : Prop) :
    wp (accept raw) (fun r t => Tells (r.isNone = true) False False clean t)
      (fun _ _ => True) s := by
  refine wp_mono (fun r t h => ?_) (fun _ _ h => h) (wp_accept raw s)
  obtain ⟨-, fails, h⟩ := h
  cases r with
  | none => exact .of_failure id id h.1
  | some client => exact .of_neither (by simp) id

end

/-! ### Moving data -/

/-- The first call succeeds with a count that reads as the error return, `errno` being zero. -/
def Miscounted (queue : Script → List (Answer ℕ)) (os : Os) : Prop :=
  os.errno = 0 ∧ ∃ k : ℕ, (queue os.script).head? = some (.ok k) ∧ narrow k = -1

/-- What a method tells that settled and then translated. -/
theorem Tells.of_settled {queue : Script → List (Answer ℕ)} {c : Counter} {s t : State} {r : Int}
    (h : Settled queue c s t) (hcode : t.self.m_socketErrno = translateErrno t.os.errno)
    (hr : r = c.read t.self) :
    Tells (r = -1) (Miscounted queue s.os) (0 < r) (s.os.errno = 0) t := by
  cases h with
  | failed count errno_ne late =>
    have hfail : r = -1 := hr.trans count
    have hne : t.self.m_socketErrno ≠ .socketSuccess := by
      rw [hcode, ne_eq, translateErrno_eq_success]
      exact errno_ne
    -- a failure leaves its `errno`, which is not zero
    refine ⟨fun _ => iff_of_false hne ?_, fun hpos => absurd hpos (by omega)⟩
    rintro ⟨herrno, k, hfirst, -⟩
    exact late (by rw [herrno]; decide) k hfirst
  -- an answered call leaves `errno` as it was at the start
  | answered k first count errno_eq =>
    have hk : r = narrow k := hr.trans count
    constructor
    · intro hneg
      rw [hcode, translateErrno_eq_success, errno_eq]
      exact ⟨fun herrno => ⟨herrno, k, first, hk.symm.trans hneg⟩, fun h => h.1⟩
    · intro _
      rw [hcode, translateErrno_eq_success, errno_eq]

/-- What one call tells whose failure alone is translated, the code having been success. -/
theorem Tells.of_one_call {queue : Script → List (Answer ℕ)} {res : Answer ℕ} {n : Int} {os : Os}
    {t : State} {clean : Prop} (hn : narrow res.ret = n)
    (hfirst : (queue os.script).head? = some res) (hclean : clean)
    (hfailed : n = -1 → t.self.m_socketErrno = translateErrno (res.errno os.errno))
    (hdone : n ≠ -1 → t.self.m_socketErrno = .socketSuccess) :
    Tells (n = -1) (Miscounted queue os) (0 < n) clean t := by
  refine ⟨fun hneg => ?_, fun hpos => iff_of_true (hdone (by omega)) hclean⟩
  rw [hfailed hneg, translateErrno_eq_success]
  cases res with
  | ok k =>
    -- a success that counts `-1` leaves `errno` as it was
    have hk : narrow k = -1 := hn.trans hneg
    rw [Answer.errno_ok]
    exact ⟨fun h => ⟨h, k, hfirst, hk⟩, fun h => h.1⟩
  | fail e =>
    rw [Answer.errno_fail]
    refine iff_of_false e.2 ?_
    rintro ⟨-, k, hk, -⟩
    rw [hfirst] at hk
    cases hk

/-- The counts ahead for a sending socket of the type. -/
def sendCounts (type : CSocketType) : Script → List (Answer ℕ) :=
  if type = .socketTypeTcp then Script.send else Script.sendto

section

variable (s : State)

theorem tells_send (pBuf : Option Bytes) (n : ℕ) :
    wp (CSimpleSocket.send pBuf n) (fun r t => r = t.self.m_nBytesSent ∧ Tells (r = -1)
      (Miscounted (sendCounts s.self.m_nSocketType) s.os) (0 < r) (s.os.errno = 0) t)
      (fun _ _ => True) s := by
  have hcount : wp (CSimpleSocket.send pBuf n) (fun r t => r = t.self.m_nBytesSent)
      (fun _ _ => True) s := by
    rw [CSimpleSocket.send, wp_bind, wp_setSocketError, wp_bind, wp_assign, wp_bind, wp_this,
      wp_bind]
    exact wp_mono (fun _ u _ => rfl) (fun _ _ _ => trivial) (wp_trivial _ _)
  refine wp_mono (fun r t h => ⟨h.1, ?_⟩) (fun _ _ h => h)
    (wp_and hcount (wp_send_settled pBuf n s))
  -- nothing was sent, and zero is neither a failure nor a count
  rcases h.2 with rfl | ⟨hr, hsettled, hcode⟩
  · exact .of_neither (by simp) (by simp)
  · exact .of_settled hsettled hcode hr

/-- The one call of `CPassiveSocket::Send` on a datagram socket, which translates a failure only;
the code has been set to success before. -/
theorem tells_sendtoClient {data : Bytes} {clean : Prop} (hclean : clean) {u : State}
    (herrno : u.os.errno = s.os.errno) (hscript : u.os.script = s.os.script)
    (hcode : u.self.m_socketErrno = .socketSuccess) :
    wp (sendtoClient data) (fun _ t => Tells (t.self.m_nBytesSent = -1)
      (Miscounted Script.sendto s.os) (0 < t.self.m_nBytesSent) clean t) (fun _ _ => True) u := by
  simp only [sendtoClient, wp_bind, wp_timerInitialize, wp_setStartTime, wp_this, sysSendto,
    wp_issue_iff, wp_assign, wp_setEndTime, wp_when, wp_translateSocketError]
  refine ⟨fun _ => trivial, fun res rest hq => ?_⟩
  have hfirst : s.os.script.sendto.head? = some res := by
    rw [← hscript]
    show u.os.script.sendto.head? = _
    rw [show u.os.script.sendto = res :: rest from hq]
    rfl
  -- the stored count is a number of its own from here on
  generalize hn : narrow res.ret = n
  refine ⟨fun hneg => .of_one_call hn hfirst hclean (fun _ => ?_) fun hne => absurd hneg hne,
    fun hne => .of_one_call hn hfirst hclean (fun hneg => absurd hneg hne) fun _ => ?_⟩
  · show translateErrno (res.errno u.os.errno) = _
    rw [herrno]
  · simp only [State.upd_self, State.tick_self, State.answered_self]
    exact hcode

theorem tells_passiveSend (pBuf : Option Bytes) (n : ℕ) :
    wp (CPassiveSocket.send pBuf n) (fun r t => Tells (r = -1)
      (Miscounted (sendCounts s.self.m_nSocketType) s.os) (0 < r)
      (s.self.m_nSocketType = .socketTypeUdp ∨ s.os.errno = 0) t) (fun _ _ => True) s := by
  simp only [CPassiveSocket.send, wp_bind, wp_setSocketError, wp_assign, wp_this, wp_ite, wp_when,
    wp_pure, State.upd_self]
  refine ⟨fun hudp => ⟨fun _ => ?udp, fun _ => .of_neither (by simp) (by simp)⟩,
    fun hudp => ⟨fun htcp => ?tcp, fun _ => .of_neither (by simp) (by simp)⟩⟩
  case udp =>
    have hqueue : sendCounts s.self.m_nSocketType = Script.sendto := by
      rw [hudp]
      rfl
    rw [hqueue]
    exact tells_sendtoClient s (Or.inl hudp) rfl rfl rfl
  case tcp =>
    refine wp_mono (fun r t h => ?_) (fun _ _ h => h) (tells_send _ pBuf n)
    obtain ⟨rfl, hfailure, hsuccess⟩ := h
    refine ⟨hfailure, fun hpos => (hsuccess hpos).trans ?_⟩
    exact ⟨fun h => Or.inr h, fun h => h.resolve_left hudp⟩

theorem tells_virtualSend (cls : SocketClass) (pBuf : Option Bytes) (n : ℕ) :
    wp (virtualSend cls pBuf n) (fun r t => Tells (r = -1)
      (Miscounted (sendCounts s.self.m_nSocketType) s.os) (0 < r)
      (cls = .passive ∧ s.self.m_nSocketType = .socketTypeUdp ∨ s.os.errno = 0) t)
      (fun _ _ => True) s := by
  have hbase : cls ≠ .passive → wp (CSimpleSocket.send pBuf n) (fun r t => Tells (r = -1)
      (Miscounted (sendCounts s.self.m_nSocketType) s.os) (0 < r)
      (cls = .passive ∧ s.self.m_nSocketType = .socketTypeUdp ∨ s.os.errno = 0) t)
      (fun _ _ => True) s := by
    intro hcls
    refine wp_mono (fun r t h => ?_) (fun _ _ h => h) (tells_send s pBuf n)
    refine ⟨h.2.failure, fun hpos => (h.2.success hpos).trans ?_⟩
    exact ⟨fun h => Or.inr h, fun h => h.resolve_left fun h => hcls h.1⟩
  cases cls with
  | simple => exact hbase (by simp)
  | active => exact hbase (by simp)
  | passive =>
    refine wp_mono (fun r t h => ?_) (fun _ _ h => h) (tells_passiveSend s pBuf n)
    refine ⟨h.failure, fun hpos => (h.success hpos).trans ?_⟩
    simp

/-- `Send` of a vector translates a failure only. -/
theorem tells_sendVector (items : List Iovec) :
    wp (sendVector items) (fun r t => Tells (r = -1) (Miscounted Script.writev s.os) (0 < r) True t)
      (fun _ _ => True) s := by
  simp only [sendVector, wp_bind, wp_setSocketError, wp_assign, wp_this, sysWritev, wp_issue_iff,
    wp_when, wp_translateSocketError, wp_pure]
  refine ⟨fun _ => trivial, fun res rest hq => ?_⟩
  have hfirst : s.os.script.writev.head? = some res := by
    rw [show s.os.script.writev = res :: rest from hq]
    rfl
  generalize hn : narrow res.ret = n
  exact ⟨fun hneg => .of_one_call hn hfirst trivial (fun _ => rfl) fun hne => absurd hneg hne,
    fun hne => .of_one_call hn hfirst trivial (fun hneg => absurd hneg hne) fun _ => rfl⟩

theorem tells_receive (nMaxBytes : Int) (pBuffer : Option Bytes) :
    wp (receive nMaxBytes pBuffer) (fun r t => Tells (r.1 = -1)
      (Miscounted (receiveCounts s.self.m_nSocketType) s.os) (0 < r.1) (s.os.errno = 0) t)
      (fun _ _ => True) s := by
  refine wp_mono (fun r t h => ?_) (fun _ _ h => h) (wp_receive_settled nMaxBytes pBuffer s)
  rcases h with hzero | ⟨hr, hsettled, hcode⟩
  · rw [hzero]
    exact .of_neither (by simp) (by simp)
  · exact .of_settled hsettled hcode hr

/-- **The silent failures of `SendFile`**: it does not set the code when a call fails, and
translates what `errno` held when it was asked for a negative count. -/
def SendFileSilent (o : CSimpleSocket) (os : Os) (nCount : Int) : Prop :=
  (headFails os.script.lseek = true ∨ 0 ≤ nCount) ∧ o.m_socketErrno = .socketSuccess ∨
    headFails os.script.lseek = false ∧ nCount < 0 ∧ os.errno = 0

/-- The loop of `SendFile` and the code: a loop that is given up leaves the code alone, and one
for a negative count is over at once. -/
theorem wp_sendFileLoop_code (nOutFd nInFd nCount : Int) (n : ℕ) :
    wp (iter .waiting (sendFileRound nOutFd nInFd nCount) n (-1))
      (fun r t => t.self = s.self ∧ (r = none → 0 ≤ nCount) ∧
        ∀ c, r = some c → nCount ≤ c ∧ (nCount < 0 → t.os.errno = s.os.errno))
      (fun _ _ => True) s := by
  refine wp_iter (fun _ c t => t.self = s.self ∧ -1 ≤ c ∧ (nCount < 0 → t.os.errno = s.os.errno))
    ?round (fun _ _ _ => trivial) n (-1) s ⟨rfl, le_rfl, fun _ => rfl⟩
  case round =>
    rintro - c t ⟨hself, hlower, herrno⟩
    refine wp_mono (fun r u h => ?_) (fun _ _ _ => trivial)
      (wp_sendFileRound_case nOutFd nInFd nCount c t)
    cases h with
    | finished enough =>
      refine ⟨hself, by simp, fun c' hc => ?_⟩
      cases hc
      exact ⟨enough, herrno⟩
    -- a block was due, so the count asked for is not negative
    | unread u res more self_eq =>
      exact ⟨self_eq.trans hself, fun _ => by omega, by simp⟩
    | unsent u bs res more self_eq =>
      exact ⟨self_eq.trans hself, fun _ => by omega, by simp⟩
    | copied u bs more self_eq =>
      have hpos := blockSize_pos more
      exact ⟨self_eq.trans hself, by omega, fun hneg => absurd hneg (by omega)⟩

theorem tells_sendFile (nOutFd nInFd pOffset nCount : Int) (clean : Prop) :
    wp (sendFile nOutFd nInFd pOffset nCount) (fun r t => Tells (r.1 = -1)
      (SendFileSilent s.self s.os nCount) False clean t) (fun _ _ => True) s := by
  rw [sendFile, wp_bind, sysLseek, wp_issue_iff]
  refine ⟨fun _ => trivial, fun res rest hq => ?_⟩
  cases res with
  | fail e =>
    have hfails : headFails s.os.script.lseek = true := by rw [hq]; rfl
    rw [wp_pure]
    refine .of_untouched id rfl fun _ => ?_
    simp [SendFileSilent, hfails]
  | ok u =>
    have hfails : headFails s.os.script.lseek = false := by rw [hq]; rfl
    rw [wp_bind, wp_script, wp_bind]
    refine wp_mono (fun r t h => ?_) (fun _ _ h => h) (wp_sendFileLoop_code _ nOutFd nInFd nCount _)
    obtain ⟨hself, hnone, hsome⟩ := h
    have hprior : t.self.m_socketErrno = s.self.m_socketErrno := by rw [hself]; rfl
    cases r with
    | none =>
      -- given up: there was something to send, and the code is the old one
      have hcount : 0 ≤ nCount := hnone rfl
      have hneg : ¬ nCount < 0 := by omega
      rw [wp_pure]
      refine .of_untouched id hprior fun _ => ?_
      simp [SendFileSilent, hfails, hcount, hneg]
    | some c =>
      obtain ⟨hle, herrno⟩ := hsome c rfl
      rw [wp_bind, wp_translateSocketError, wp_pure]
      refine .of_untouched id rfl fun hfail => ?_
      -- the count is minus one only because it was asked to be negative
      have hc : c = -1 := hfail
      have hneg : nCount < 0 := by omega
      have hcount : ¬ 0 ≤ nCount := by omega
      have herr : t.os.errno = s.os.errno := herrno hneg
      show translateErrno t.os.errno = .socketSuccess ↔ _
      rw [translateErrno_eq_success, herr]
      simp [SendFileSilent, hfails, hneg, hcount]

end

end ClSocket
