import ClSocket.Exchange.Session
import ClSocket.Program.Process

/-!
# The methods of a connected object

What `Receive`, `Send`, `Close` and the destructor call on the object of a connection, whether they
return or not, and what they leave of it. `Accept` is here too, for the calls it has made when it
does not return.
-/

namespace ClSocket

open Prog CSimpleSocket

/-- An object with a stream on the descriptor `fd`. -/
structure Attached (fd : Int) (o : CSimpleSocket) : Prop extends Talking o where
  socket : o.m_socket = fd
  valid : fd ≠ -1

/-- The object of a connection that has just been accepted. -/
theorem attached_accepted (raw : CSimpleSocket) (fd : ℕ) (peer : SockaddrIn)
    (name : Answer SockaddrIn) : Attached fd (CPassiveSocket.accepted raw fd peer name) where
  proper := proper_accepted raw fd peer name
  type := rfl
  buffer _ h := by cases h
  socket := rfl
  valid := by omega

section

variable {fd : Int} {s : State}

theorem Attached.withSent {o : CSimpleSocket} (h : Attached fd o) {n : Int} {err : CSocketError}
    {tm : TrackedTimer} (herr : err.reported = true) : Attached fd (o.withSent n err tm) :=
  ⟨⟨⟨h.proper.domain, h.proper.flags, herr⟩, h.type, h.buffer⟩, h.socket, h.valid⟩

/-- **`Receive`** into the internal buffer. -/
theorem wp_receive_attached {n : Int} (hs : s.trace = []) (hconn : Attached fd s.self)
    (hpos : 0 < n) (hmax : InInt32 n) :
    wp (receive n none) (fun r t => Attached fd t.self ∧ (∀ e ∈ t.trace, Receipt fd n e) ∧
        Received s.os.errno r.2 t ∧ r.2 = none ∧ r.1 = t.self.m_nBytesReceived ∧
          (r.1 = -1 → t.self.m_pBuffer = none))
      (fun _ t => ∀ e ∈ t.trace, Receipt fd n e) s := by
  have hvalid : s.self.m_socket ≠ -1 := hconn.socket.trans_ne hconn.valid
  have hcalls := wp_receive_receipts (n := n) hs hconn.toTalking
  rw [hconn.socket] at hcalls
  refine wp_mono (fun r t h => ?_) (fun _ t h => h.1) (wp_conj hcalls
    (wp_conj (wp_conj (receipts_receive none s)
        (conduct_receive (l := .of s.self.m_nSocketType s.self.m_socket) rfl n none s))
      (wp_conj (wp_conj (holds_receive n none s) (wp_receive_none s))
        (wp_receive_received hs hvalid hconn.type hconn.buffer hpos hmax fun _ h => by cases h))))
  obtain ⟨hall, ⟨hreceipts, hconduct⟩, ⟨hholds, hnone⟩, hreceived, hcount, hfreed⟩ := h
  obtain ⟨hproper, htype⟩ := (hconduct hconn.proper.held).1.proper
  exact ⟨⟨⟨hproper, htype.trans hconn.type, hholds.2.2.2 hconn.buffer⟩,
    hreceipts.1.trans hconn.socket, hconn.valid⟩, hall, hreceived, hnone, hcount, hfreed⟩

/-- **`Send`.** -/
theorem wp_send_attached (pBuf : Option Bytes) (n : ℕ) (hs : s.trace = [])
    (hconn : Attached fd s.self) :
    wp (virtualSend .active pBuf n) (fun r t => Attached fd t.self ∧ t.self.m_pBuffer = s.self.m_pBuffer ∧
        ∃ as, SendEnd pBuf n s r t as)
      (fun _ t => ∃ as, SendCalls pBuf n s t as) s := by
  refine wp_mono (fun r t h => ?_) (fun _ _ h => h.2)
    (wp_conj (conduct_virtualSend (l := .of s.self.m_nSocketType s.self.m_socket) rfl .active pBuf n s)
      (wp_virtualSend_end .active pBuf n hs hconn.type))
  obtain ⟨hconduct, as, hend⟩ := h
  obtain ⟨count, err, tm, hself⟩ := hend.self_eq
  have hcode := (hconduct hconn.proper.held).1.code
  rw [hself] at hcode
  have hkept : Attached fd (s.self.withSent count err tm) := hconn.withSent hcode
  rw [← hself] at hkept
  exact ⟨hkept, by rw [hself]; rfl, as, hend⟩

/-- What `Close` leaves of an object. -/
structure ClosedBy (s t : State) (res : Answer Unit) : Prop where
  trace_eq : ∃ ids : List ℕ, t.trace = ids.map .free ++ [.close s.self.m_socket res]
  buffer : t.self.m_pBuffer = none
  socket : t.self.m_socket = if res = .ok () then -1 else s.self.m_socket

/-- **`Close`** of an object with a descriptor. -/
theorem wp_closeSocket_valid (hs : s.trace = []) (hvalid : s.self.m_socket ≠ -1) :
    wp closeSocket (fun _ t => ∃ res, ClosedBy s t res)
      (fun _ t => ∃ ids : List ℕ, t.trace = ids.map .free) s := by
  have hfree : (bufferDeleted s).trace = (s.self.m_pBuffer.toList.map Buffer.id).map .free := by
    rw [bufferDeleted, hs, List.nil_append, List.map_map]
    rfl
  simp only [closeSocket, closeHandle, wp_bind, wp_deleteBuffer, wp_this, wp_ite, wp_pure,
    wp_translateSocketError, isSocketValid_iff, bufferDeleted_self, sysClose, wp_issue_iff]
  refine ⟨fun _ => ⟨fun _ => ⟨_, hfree⟩, fun res rest _ => ?_⟩, fun h => absurd hvalid h⟩
  have htrace : (bufferDeleted s).trace ++ [.close s.self.m_socket res] =
      (s.self.m_pBuffer.toList.map Buffer.id).map .free ++ [.close s.self.m_socket res] := by
    rw [hfree]
  cases res with
  | ok _ => exact ⟨.ok (), ⟨_, htrace⟩, rfl, rfl⟩
  | fail e => exact ⟨.fail e, ⟨_, htrace⟩, rfl, by simp⟩

/-- **The destructor** of an object with a descriptor closes it. -/
theorem wp_destroy_valid (hs : s.trace = []) (hvalid : s.self.m_socket ≠ -1) :
    wp (destroy .active) (fun _ t => ∃ res, ∃ ids : List ℕ,
        t.trace = ids.map .free ++ [.close s.self.m_socket res])
      (fun _ t => ∃ ids : List ℕ, t.trace = ids.map .free) s := by
  rw [destroy, wp_bind, wp_when]
  refine ⟨fun _ => ?_, fun h => absurd (by decide) h⟩
  rw [wp_bind]
  refine wp_mono (fun _ t h => ?_) (fun _ _ h => h) (wp_closeSocket_valid hs hvalid)
  obtain ⟨res, ⟨ids, htrace⟩, hbuffer, -⟩ := h
  refine ⟨res, ids, ?_⟩
  show t.trace ++ t.self.m_pBuffer.toList.map _ = _
  rw [hbuffer, htrace]
  exact List.append_nil _

/-- That of an object without one frees its buffer. -/
theorem wp_destroy_invalid (hs : s.trace = []) (hinvalid : s.self.m_socket = -1) :
    wp (destroy .active) (fun _ t => ∃ ids : List ℕ, t.trace = ids.map .free)
      (fun _ _ => False) s := by
  have hfree : (bufferDeleted s).trace = (s.self.m_pBuffer.toList.map Buffer.id).map .free := by
    rw [bufferDeleted, hs, List.nil_append, List.map_map]
    rfl
  simp only [destroy, closeSocket, wp_bind, wp_when, wp_deleteBuffer, wp_this, wp_ite, wp_pure,
    wp_translateSocketError, isSocketValid_iff, bufferDeleted_self]
  refine ⟨fun _ => ⟨fun h => absurd hinvalid h, fun _ => ⟨s.self.m_pBuffer.toList.map Buffer.id, ?_⟩⟩,
    fun h => absurd (by decide) h⟩
  show (bufferDeleted s).trace ++ _ = _
  rw [hfree]
  exact List.append_nil _

/-! ### `Listen` -/

/-- The calls that set a listener up, or give up on it. -/
def Event.isOpening : Event → Prop
  | .socket _ _ _ | .setsockopt _ _ _ _ _ | .bind _ _ _ | .listen _ _ _ | .close _ _ | .free _ => True
  | _ => False

/-- Only such calls are made. -/
def Opens (s t : State) : Prop := ∃ calls, t.trace = s.trace ++ calls ∧ ∀ e ∈ calls, e.isOpening

theorem Opens.of_eq {s t : State} (h : t.trace = s.trace) : Opens s t := ⟨[], by simp [h], by simp⟩

theorem Opens.of_snoc {s t : State} {e : Event} (h : t.trace = s.trace ++ [e]) (he : e.isOpening) :
    Opens s t := ⟨[e], h, by simpa using he⟩

instance : Std.Refl Opens := ⟨fun _ => .of_eq rfl⟩

instance : IsTrans State Opens := ⟨by
  rintro s t u ⟨calls, ht, hall⟩ ⟨calls', hu, hall'⟩
  exact ⟨calls ++ calls', by rw [hu, ht, List.append_assoc], List.forall_mem_append.mpr ⟨hall, hall'⟩⟩⟩

theorem opens_issue {α : Type} {queue : Script → List (Answer α)}
    {put : List (Answer α) → Script → Script} {ev : Answer α → Event} (h : ∀ a, (ev a).isOpening) :
    Keeps Opens (issue queue put ev) := by
  intro s
  rw [wp_issue_iff]
  exact ⟨fun _ => .of_eq rfl, fun a _ _ => .of_snoc rfl (h a)⟩

theorem opens_initializeSocket : Keeps Opens initializeSocket :=
  keeps_bind (fun _ => .of_eq rfl) fun _ => keeps_bind (fun _ => .of_eq rfl) fun _ =>
    keeps_bind (fun _ => .of_eq rfl) fun _ => keeps_bind keeps_this fun _ =>
      keeps_bind (opens_issue fun _ => trivial) fun _ => keeps_bind (fun _ => .of_eq rfl) fun _ =>
        keeps_bind (fun _ => .of_eq rfl) fun _ => keeps_bind (fun _ => .of_eq rfl) fun _ =>
          keeps_bind keeps_this fun _ => keeps_pure _

theorem opens_deleteBuffer : Keeps Opens deleteBuffer := by
  refine fun s => ⟨_, rfl, fun e he => ?_⟩
  obtain ⟨b, -, rfl⟩ := List.mem_map.mp he
  trivial

theorem opens_closeSocket : Keeps Opens closeSocket := by
  have hhandle : Keeps Opens closeHandle := by
    refine keeps_bind keeps_this fun o => keeps_bind (opens_issue fun _ => trivial) fun res => ?_
    cases res with
    | ok _ => exact keeps_bind (fun _ => .of_eq rfl) fun _ => keeps_pure _
    | fail _ => exact keeps_pure _
  exact keeps_bind opens_deleteBuffer fun _ => keeps_bind keeps_this fun _ =>
    keeps_bind (keeps_ite hhandle (keeps_pure _)) fun _ => keeps_bind (fun _ => .of_eq rfl) fun _ =>
      keeps_pure _

theorem opens_destroy (cls : SocketClass) : Keeps Opens (destroy cls) :=
  keeps_bind (keeps_ite (keeps_bind opens_closeSocket fun _ => keeps_pure _) (keeps_pure _))
    fun _ => opens_deleteBuffer

theorem opens_listen (pAddr : Option String) (nPort : UInt16) (nConnectionBacklog : Int) :
    Keeps Opens (CPassiveSocket.listen pAddr nPort nConnectionBacklog) := by
  have hoptions : Keeps Opens CPassiveSocket.listenOptions :=
    keeps_bind keeps_this fun _ => keeps_bind (opens_issue fun _ => trivial) fun _ =>
      keeps_bind (opens_issue fun _ => trivial) fun _ => keeps_pure _
  have hbind : Keeps Opens (CPassiveSocket.bindAndListen nConnectionBacklog) := by
    refine keeps_bind keeps_this fun o => keeps_bind (opens_issue fun _ => trivial) fun res => ?_
    cases res with
    | fail _ => exact keeps_pure _
    | ok _ =>
      exact keeps_ite (keeps_bind (opens_issue fun _ => trivial) fun _ => keeps_pure _) (keeps_pure _)
  have hgiveUp : Keeps Opens CPassiveSocket.closeKeepingError :=
    keeps_bind keeps_this fun _ => keeps_bind opens_closeSocket fun _ _ => .of_eq rfl
  exact keeps_bind hoptions fun _ =>
    keeps_bind (fun _ => (CPassiveSocket.wp_bindAddress pAddr).mpr (.of_eq rfl)) fun _ =>
      keeps_bind (fun _ => .of_eq rfl) fun _ => keeps_bind (fun _ => .of_eq rfl) fun _ =>
        keeps_bind (fun _ => .of_eq rfl) fun _ => keeps_bind hbind fun _ =>
          keeps_bind (fun _ => .of_eq rfl) fun _ => keeps_bind (fun _ => .of_eq rfl) fun _ =>
            keeps_bind (keeps_ite hgiveUp (keeps_pure _)) fun _ => keeps_pure _

/-- **`Initialize`** calls `socket`. -/
theorem wp_initializeSocket_call (s : State) :
    wp initializeSocket (fun _ t => t.self.m_nSocketType = s.self.m_nSocketType ∧
        t.os.script.bind = s.os.script.bind ∧ t.os.script.listen = s.os.script.listen ∧
        t.os.inet_addr = s.os.inet_addr ∧ ∃ res rest, s.os.script.socket = res :: rest ∧
          t.self.m_socket = res.ret ∧
            t.trace = s.trace ++ [.socket s.self.m_nSocketDomain s.self.m_nSocketType.code res])
      (fun _ _ => True) s := by
  simp only [initializeSocket, wp_bind, wp_setErrno, wp_timerInitialize, wp_setStartTime, wp_this,
    sysSocket, wp_issue_iff, wp_assign, wp_setEndTime, wp_translateSocketError, wp_pure]
  refine ⟨fun _ => trivial, fun res rest hhead => ⟨rfl, rfl, rfl, rfl, res, rest, ?_, rfl, ?_⟩⟩
  · simpa using hhead
  · simp

namespace CPassiveSocket

/-- The calls of a `Listen` that has succeeded. -/
def listeningCalls (fd : Int) (addr : SockaddrIn) (backlog : Int) (res res' : Answer Unit) : Trace :=
  [.setsockopt fd SOL_SOCKET SO_REUSEADDR (.int IPTOS_LOWDELAY) res,
    .setsockopt fd IPPROTO_TCP IP_TOS (.int IPTOS_LOWDELAY) res',
    .bind fd addr (.ok ()), .listen fd backlog (.ok ())]

/-- **`Listen`** that returns `true`. -/
theorem wp_listen_listening (pAddr : Option String) (nPort : UInt16) (nConnectionBacklog : Int)
    (htcp : s.self.m_nSocketType = .socketTypeTcp) :
    wp (listen pAddr nPort nConnectionBacklog) (fun r t => r = true →
        t.self.m_socket = s.self.m_socket ∧ t.self.m_nSocketType = .socketTypeTcp ∧
        ∃ res res', t.trace = s.trace ++ listeningCalls s.self.m_socket
          ⟨AF_INET, htons nPort, boundAddress s.os.inet_addr pAddr⟩ nConnectionBacklog res res')
      (fun _ _ => True) s := by
  simp only [listen, listenOptions, bindAndListen, wp_bind, wp_this, sysSetsockopt, wp_issue_iff, wp_pure,
    wp_bindAddress, wp_assign, wp_timerInitialize, wp_setStartTime, sysBind]
  refine ⟨fun _ => trivial, fun res _ _ => ⟨fun _ => trivial, fun res' _ _ => ⟨fun _ => trivial,
    fun bound _ _ => ?_⟩⟩⟩
  -- a failure returns `false`, whatever the clean-up does
  have hgiveUp : ∀ t, wp closeKeepingError (fun _ _ => True) (fun _ _ => True) t := wp_trivial _
  cases bound with
  | fail e =>
    simp only [wp_pure, wp_setEndTime, wp_translateSocketError, wp_when]
    exact ⟨fun _ => wp_mono (fun _ _ _ h => by cases h) (fun _ _ h => h) (hgiveUp _),
      fun h => absurd trivial h⟩
  | ok _ =>
    simp only [wp_bind, sysListen, wp_issue_iff, wp_ite, wp_pure, wp_setEndTime, wp_translateSocketError,
      wp_when]
    refine ⟨fun _ => ⟨fun _ => trivial, fun heard _ _ => ?_⟩, fun h => absurd htcp h⟩
    cases heard with
    | fail e =>
      refine ⟨fun _ => wp_mono (fun _ _ _ h => ?_) (fun _ _ h => h) (hgiveUp _), fun h => ?_⟩
      · exact absurd h (by simp)
      · exact absurd h (by simp)
    | ok _ =>
      refine ⟨fun h => absurd h (by simp), fun _ _ => ⟨by simp, ?_, res, res', by simp [listeningCalls]⟩⟩
      simpa using htcp

end CPassiveSocket

/-! ### `Accept` -/

namespace CPassiveSocket

/-- The calls of an `Accept` that has not returned. -/
inductive Unaccepted (lfd : Int) : Trace → Prop where
  | rejected (fails : List Errno) : Unaccepted lfd (rejections lfd fails)
  | opened (fails : List Errno) (fd : ℕ) (peer : SockaddrIn) :
      Unaccepted lfd (rejections lfd fails ++ [.accept lfd (.ok (fd, peer))])
  | named (fails : List Errno) (fd : ℕ) (peer : SockaddrIn) (name : Answer SockaddrIn) :
      Unaccepted lfd (rejections lfd fails ++
        [.accept lfd (.ok (fd, peer)), .getpeername lfd name])

/-- The loop of `Accept` before a round, for what it does when it stops. -/
def Refused (lfd : Int) (t : State) : Prop :=
  t.self.m_socket = lfd ∧ ∃ fails, t.trace = rejections lfd fails

theorem wp_acceptRound_unaccepted {lfd : Int} {t : State} (client : CSimpleSocket)
    (ht : Refused lfd t) :
    wp (acceptRound client) (Round.post (fun _ u => Refused lfd u) fun _ _ => True)
      (fun _ u => Unaccepted lfd u.trace) t := by
  obtain ⟨hlfd, fails, htrace⟩ := ht
  rw [acceptRound, wp_bind, wp_setErrno, wp_bind, wp_this, wp_bind, sysAccept, wp_issue_iff]
  refine ⟨fun _ => ?_, fun res rest _ => ?_⟩
  · show Unaccepted lfd t.trace
    rw [htrace]
    exact .rejected fails
  have hcalled : t.trace ++ [.accept t.self.m_socket res] =
      rejections lfd fails ++ [.accept lfd res] := by rw [htrace, hlfd]
  cases res with
  | fail e =>
    have hrefused : rejections lfd fails ++ [.accept lfd (.fail e)] = rejections lfd (fails ++ [e]) := by
      simp [rejections]
    simp only [wp_bind, wp_translateSocketError, wp_this, wp_ite, wp_pure]
    exact ⟨fun _ => ⟨hlfd, _, hcalled.trans hrefused⟩, fun _ => trivial⟩
  | ok c =>
    obtain ⟨fd, peer⟩ := c
    -- `errno` was cleared, so the loop is left
    have hsuccess : translateErrno 0 = .socketSuccess := rfl
    simp only [wp_bind, wp_assign, wp_getErrno, State.upd_os, State.answered_errno, Answer.errno_ok,
      State.withErrno_errno, hsuccess, reduceCtorEq, if_false, wp_pure, storeAccepted, wp_this,
      sysGetpeername, sysGetsockname, wp_issue_iff]
    refine ⟨fun _ => ?_, fun name rest' _ => ⟨fun _ => ?_, fun name' rest'' _ => ?_⟩⟩
    · show Unaccepted lfd (t.trace ++ [.accept t.self.m_socket (.ok (fd, peer))])
      rw [hcalled]
      exact .opened fails fd peer
    · show Unaccepted lfd (t.trace ++ [.accept t.self.m_socket (.ok (fd, peer))] ++
        [.getpeername t.self.m_socket name])
      rw [hcalled, hlfd, List.append_assoc]
      exact .named fails fd peer name
    · cases name' <;> trivial

/-- **`Accept`** when it does not return. -/
theorem wp_accept_unaccepted (raw : CSimpleSocket) (hs : s.trace = []) :
    wp (accept raw) (fun _ _ => True) (fun _ t => Unaccepted s.self.m_socket t.trace) s := by
  simp only [accept, wp_bind, wp_this, wp_ite, wp_setSocketError, wp_pure, wp_timerInitialize,
    wp_setStartTime, wp_script, wp_setEndTime]
  refine ⟨fun _ => trivial, fun _ => ?_⟩
  -- the invariant of the loop: so far every `accept` has failed
  have hstart : ∀ t : State, t.trace = s.trace → t.self.m_socket = s.self.m_socket →
      Refused s.self.m_socket t := fun t ht hfd => ⟨hfd, [], ht.trans hs⟩
  have hstopped : ∀ t, Refused s.self.m_socket t → Unaccepted s.self.m_socket t.trace := by
    rintro t ⟨-, fails, ht⟩
    rw [ht]
    exact .rejected fails
  refine wp_mono (fun r t h => ?_) (fun _ _ h => h.2) (wp_conj (wp_acceptLoop raw (s := s) ?listener
    ?trace _) (wp_iter (fun _ _ => Refused s.self.m_socket) (fun _ client _ h =>
      wp_acceptRound_unaccepted client h) (fun _ t h => hstopped t h) _ _ _ ?start))
  case listener => exact ⟨rfl, rfl, rfl, rfl⟩
  case trace => rfl
  case start => exact hstart _ rfl rfl
  cases h.1 with
  | rejected _ fails hl hne ht =>
    refine ⟨fun _ => ?_, fun _ => trivial⟩
    exact wp_mono (fun _ _ _ => trivial) (fun _ _ hF => hF.elim) (wp_deleteClient raw _)
  | accepted => exact ⟨fun h => absurd rfl h, fun _ => trivial⟩

end CPassiveSocket

end

end ClSocket
