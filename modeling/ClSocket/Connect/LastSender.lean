import ClSocket.Framework.Transition
import ClSocket.Transfer.Receiving
import ClSocket.Transfer.Sending

/-!
# To whom a reply goes

`CPassiveSocket::Send` on a UDP object replies to the address in `m_stClientSockaddr`. `Receive`
puts the sender of a datagram there, but only in unicast mode: in multicast mode it puts it in
`m_stMulticastGroup`, which `Send` does not look at. In unicast mode, on the other hand, it does so
for every datagram its loop takes, also for an empty one and for one that is lost because the
loop goes round again at an `errno` of `EINTR`; then the reply goes to the sender of a datagram that
was not returned.

`answersLast_iff` says on which runs neither can be seen (`Strays`). Of the loop it needs what it
took, `takenFrom`, and of that list the datagram that is returned, `returned`, and the last sender,
`lastTaken`: what a loop writes over and over again is in the end what it wrote last.
-/

namespace ClSocket

open Prog CSimpleSocket CPassiveSocket

/-- The sender of the datagram an answer brings. -/
def Answer.source? : Answer (Bytes × SockaddrIn) → Option SockaddrIn
  | .ok d => some d.2
  | .fail _ => none

/-- The sender of the datagram a call took. -/
def Event.source? : Event → Option SockaddrIn
  | .recvfrom _ _ res => res.source?
  | _ => none

/-- The senders of the datagrams of a trace. -/
def sourcesIn (t : Trace) : List SockaddrIn := t.filterMap Event.source?

@[simp] theorem sourcesIn_append (t u : Trace) : sourcesIn (t ++ u) = sourcesIn t ++ sourcesIn u :=
  List.filterMap_append

@[simp] theorem sourcesIn_bufferDeleted (s : State) :
    sourcesIn (bufferDeleted s).trace = sourcesIn s.trace :=
  filterMap_bufferDeleted (fun _ => rfl) s

/-- The sender of the last datagram among answers. -/
def lastTaken (as : List (Answer (Bytes × SockaddrIn))) : Option SockaddrIn :=
  (as.filterMap Answer.source?).getLast?

theorem lastTaken_ok (as : List (Answer (Bytes × SockaddrIn))) (d : Bytes × SockaddrIn) :
    lastTaken (as ++ [.ok d]) = some d.2 := by
  simp [lastTaken, Answer.source?]

theorem lastTaken_fail (as : List (Answer (Bytes × SockaddrIn))) (e : Errno) :
    lastTaken (as ++ [.fail e]) = lastTaken as := by
  simp [lastTaken, Answer.source?]

/-- The count of an answer, as `Receive` stores it. -/
def countOf (a : Answer (Bytes × SockaddrIn)) : Int := narrow (a.count fun d => d.1.length).ret

/-- The datagram that `Receive` returns a count for: the first one, unless `errno` was left at
`EINTR` before, and unless it is empty. -/
def returned (errno : Int) : List (Answer (Bytes × SockaddrIn)) → Option (Bytes × SockaddrIn)
  | .ok d :: _ => if errno ≠ EINTR ∧ 0 < countOf (.ok d) then some d else none
  | _ => none

/-! ### What the loop takes -/

section

variable {errno : Int} {as : List (Answer (Bytes × SockaddrIn))}

/-- A loop that comes to `EINTR` leaves with a failure. -/
theorem taken_of_interrupted (h : LeavesFrom EINTR as) :
    ∃ pre e, takenFrom EINTR as = pre ++ [.fail e] := by
  induction as with
  | nil => exact absurd h Retry.not_finished_nil
  | cons a as ih =>
    by_cases ha : errnoAfter EINTR a = EINTR
    · have hleft : LeavesFrom EINTR as := by
        have hgo := (Retry.finished_again ha).mp h
        rwa [ha] at hgo
      obtain ⟨pre, e, hpre⟩ := ih hleft
      refine ⟨a :: pre, e, ?_⟩
      calc takenFrom EINTR (a :: as) = a :: takenFrom (errnoAfter EINTR a) as :=
            Retry.taken_again ha
        _ = a :: takenFrom EINTR as := by rw [ha]
        _ = (a :: pre) ++ [.fail e] := by rw [hpre]; rfl
    · cases a with
      | ok d => exact absurd rfl ha
      | fail e => exact ⟨[], e, Retry.taken_leave ha⟩

/-- **A loop that leaves** took one datagram, or ended with a failure. -/
theorem returned_cases (h : LeavesFrom errno as) :
    (∃ d, takenFrom errno as = [.ok d] ∧
      returned errno as = if 0 < countOf (.ok d) then some d else none) ∨
    ∃ pre e, takenFrom errno as = pre ++ [.fail e] ∧ returned errno as = none := by
  cases as with
  | nil => exact absurd h Retry.not_finished_nil
  | cons a as =>
    -- `EINTR` after the first answer: it is not what is returned, and only a failure ends the loop
    by_cases ha : errnoAfter errno a = EINTR
    · have hleft : LeavesFrom EINTR as := by
        have hgo := (Retry.finished_again ha).mp h
        rwa [ha] at hgo
      obtain ⟨pre, e, hpre⟩ := taken_of_interrupted hleft
      refine Or.inr ⟨a :: pre, e, ?_, ?_⟩
      · calc takenFrom errno (a :: as) = a :: takenFrom (errnoAfter errno a) as :=
              Retry.taken_again ha
          _ = a :: takenFrom EINTR as := by rw [ha]
          _ = (a :: pre) ++ [.fail e] := by rw [hpre]; rfl
      · cases a with
        | ok d =>
          have herrno : errno = EINTR := ha
          exact if_neg fun hd => hd.1 herrno
        | fail e => rfl
    · have hone : takenFrom errno (a :: as) = [a] := Retry.taken_leave ha
      cases a with
      | ok d =>
        have herrno : errno ≠ EINTR := ha
        refine Or.inl ⟨d, hone, ?_⟩
        rw [returned]
        simp only [herrno, ne_eq, not_false_iff, true_and]
      | fail e => exact Or.inr ⟨[], e, hone, rfl⟩

end

/-! ### What `Receive` leaves -/

/-- The type and the client's address: how a reply is sent, and where. -/
def CSimpleSocket.reply (o : CSimpleSocket) : CSocketType × SockaddrIn :=
  (o.m_nSocketType, o.m_stClientSockaddr)

/-- The loop has taken these answers. -/
structure Drawn (s : State) (as : List (Answer (Bytes × SockaddrIn))) (t : State) : Prop where
  socket : t.self.m_socket = s.self.m_socket
  type : t.self.m_nSocketType = s.self.m_nSocketType
  multicast : t.self.m_bIsMulticast = s.self.m_bIsMulticast
  client : t.self.m_stClientSockaddr = if s.self.m_bIsMulticast = true
    then s.self.m_stClientSockaddr else (lastTaken as).getD s.self.m_stClientSockaddr
  count : ∀ a, as.getLast? = some a → t.self.m_nBytesReceived = countOf a
  errno_eq : t.os.errno = as.foldl errnoAfter s.os.errno
  ahead : t.os.script.recvfrom = s.os.script.recvfrom.drop as.length
  sources : sourcesIn t.trace = sourcesIn s.trace ++ as.filterMap Answer.source?

namespace Drawn

variable {s t : State} {as : List (Answer (Bytes × SockaddrIn))}

theorem start (s : State) : Drawn s [] s where
  socket := rfl
  type := rfl
  multicast := rfl
  client := by simp [lastTaken]
  count _ h := by cases h
  errno_eq := rfl
  ahead := rfl
  sources := by simp

/-- Of these members alone it speaks. -/
theorem congr {u : State} (h : Drawn s as t)
    (hself : (u.self.m_socket, u.self.reply, u.self.m_bIsMulticast, u.self.m_nBytesReceived) =
      (t.self.m_socket, t.self.reply, t.self.m_bIsMulticast, t.self.m_nBytesReceived))
    (herrno : u.os.errno = t.os.errno) (hahead : u.os.script.recvfrom = t.os.script.recvfrom)
    (hsources : sourcesIn u.trace = sourcesIn t.trace) : Drawn s as u := by
  simp only [reply, Prod.mk.injEq] at hself
  obtain ⟨hsocket, ⟨htype, hclient⟩, hmulticast, hcount⟩ := hself
  exact ⟨hsocket.trans h.socket, htype.trans h.type, hmulticast.trans h.multicast,
    hclient.trans h.client, fun a ha => hcount.trans (h.count a ha), herrno.trans h.errno_eq,
    hahead.trans h.ahead, hsources.trans h.sources⟩

/-- One more answer. -/
theorem snoc {a : Answer (Bytes × SockaddrIn)} {rest : List (Answer (Bytes × SockaddrIn))}
    {u : State} (h : Drawn s as t) (hq : t.os.script.recvfrom = a :: rest)
    (hsocket : u.self.m_socket = t.self.m_socket)
    (htype : u.self.m_nSocketType = t.self.m_nSocketType)
    (hmulticast : u.self.m_bIsMulticast = t.self.m_bIsMulticast)
    (hclient : u.self.m_stClientSockaddr = if t.self.m_bIsMulticast = true
      then t.self.m_stClientSockaddr else a.source?.getD t.self.m_stClientSockaddr)
    (hcount : u.self.m_nBytesReceived = countOf a) (herrno : u.os.errno = a.errno t.os.errno)
    (hrest : u.os.script.recvfrom = rest)
    (hsources : sourcesIn u.trace = sourcesIn t.trace ++ a.source?.toList) :
    Drawn s (as ++ [a]) u where
  socket := hsocket.trans h.socket
  type := htype.trans h.type
  multicast := hmulticast.trans h.multicast
  client := by
    -- in multicast mode the member is not written, else by the last datagram
    rw [hclient, h.multicast, h.client]
    split
    · rfl
    · cases a with
      | ok d => rw [lastTaken_ok]; rfl
      | fail e => rw [lastTaken_fail]; rfl
  count b hb := by
    rw [List.getLast?_append_of_ne_nil _ (by simp)] at hb
    obtain rfl : a = b := by simpa using hb
    exact hcount
  errno_eq := by simp [herrno, h.errno_eq, errnoAfter]
  ahead := by
    rw [hrest, List.length_append, List.length_singleton, ← List.drop_drop, ← h.ahead, hq]
    rfl
  sources := by
    rw [hsources, h.sources, List.append_assoc, List.filterMap_append]
    cases a <;> rfl

end Drawn

section

variable {s t : State} {as : List (Answer (Bytes × SockaddrIn))} {nMaxBytes : Int}

/-- Delivering writes the internal buffer at most. -/
theorem wp_deliver_upd (pBuffer : Option Bytes) (offset : Int) (bs : Bytes) :
    wp (deliver pBuffer offset bs)
      (fun _ u => ∃ b, u = t.upd fun o => { o with m_pBuffer := b }) (fun _ _ => False) t := by
  cases pBuffer with
  | some b =>
    rw [deliver, wp_bind, wp_when]
    exact ⟨fun h => absurd h (Option.some_ne_none b), fun _ => ⟨t.self.m_pBuffer, rfl⟩⟩
  | none =>
    rw [deliver, wp_bind, wp_when]
    exact ⟨fun _ => ⟨_, rfl⟩, fun h => absurd rfl h⟩

/-- The sender goes to one of two members, by the mode. -/
def CSimpleSocket.withSource (o : CSimpleSocket) (src : SockaddrIn) : CSimpleSocket :=
  if o.m_bIsMulticast = true then { o with m_stMulticastGroup := src }
  else { o with m_stClientSockaddr := src }

theorem CSimpleSocket.withSource_frame (o : CSimpleSocket) (src : SockaddrIn) :
    (o.withSource src).m_socket = o.m_socket ∧
      (o.withSource src).m_nSocketType = o.m_nSocketType ∧
      (o.withSource src).m_bIsMulticast = o.m_bIsMulticast ∧
      (o.withSource src).m_nBytesReceived = o.m_nBytesReceived := by
  unfold withSource
  split <;> exact ⟨rfl, rfl, rfl, rfl⟩

theorem CSimpleSocket.withSource_client (o : CSimpleSocket) (src : SockaddrIn) :
    (o.withSource src).m_stClientSockaddr =
      if o.m_bIsMulticast = true then o.m_stClientSockaddr else src := by
  unfold withSource
  split <;> rfl

/-- A round takes an answer. -/
theorem wp_recvfromRound_drawn (pBuffer : Option Bytes) {a : Answer (Bytes × SockaddrIn)}
    {rest : List (Answer (Bytes × SockaddrIn))} (h : Drawn s as t)
    (hq : t.os.script.recvfrom = a :: rest) :
    wp (recvfromRound nMaxBytes pBuffer) (fun _ u => Drawn s (as ++ [a]) u ∧
      u.os.script.recvfrom = rest ∧ u.os.errno = a.errno t.os.errno) (fun _ _ => False) t := by
  rw [recvfromRound, wp_bind, wp_this, wp_bind, sysRecvfrom, wp_issue_cons hq, wp_bind, wp_assign]
  -- the stored count is a number of its own from here on
  generalize hn : narrow (a.count fun d => d.1.length).ret = n
  have hcount : countOf a = n := hn
  have hsources : ∀ res, sourcesIn (t.trace ++ [.recvfrom t.self.m_socket nMaxBytes res]) =
      sourcesIn t.trace ++ res.source?.toList := by
    intro res
    rw [sourcesIn_append]
    cases res <;> rfl
  cases a with
  | fail e =>
    refine ⟨h.snoc hq rfl rfl rfl ?_ hcount.symm rfl rfl (hsources _), rfl, rfl⟩
    exact (ite_self _).symm
  | ok d =>
    -- a datagram is written to the buffer and its sender to one of the two members
    obtain ⟨bs, src⟩ := d
    rw [wp_bind, wp_assign]
    refine wp_mono ?_ (fun _ _ hF => hF) (wp_deliver_upd pBuffer 0 bs)
    rintro _ _ ⟨b, rfl⟩
    have hframe := fun o => CSimpleSocket.withSource_frame o src
    have hclient := fun o => CSimpleSocket.withSource_client o src
    exact ⟨h.snoc hq (hframe _).1 (hframe _).2.1 (hframe _).2.2.1 (hclient _)
      ((hframe _).2.2.2.trans hcount.symm) rfl rfl (hsources _), rfl, rfl⟩

/-- **The loop.** It takes the answers a retry loop takes, and writes what each of them brings. -/
theorem wp_recvfromRounds (pBuffer : Option Bytes) (h : Drawn s [] t) :
    wp (whileInterrupted (t.os.script.recvfrom.length + 1) (recvfromRound nMaxBytes) pBuffer)
      (fun _ u => LeavesFrom s.os.errno s.os.script.recvfrom ∧
        Drawn s (takenFrom s.os.errno s.os.script.recvfrom) u) (fun e _ => e = .waiting) t := by
  have hahead : t.os.script.recvfrom = s.os.script.recvfrom := h.ahead
  rw [hahead]
  refine wp_mono (fun _ u hu => hu) (fun e u hu => hu.2)
    (wp_retry errnoAfter Interrupted s.os.errno
      (fun done rest _ u => Drawn s done u ∧ u.os.script.recvfrom = rest)
      (fun done _ u => Drawn s done u) (fun _ e _ => e = Stop.waiting) ?round ?empty
      s.os.script.recvfrom [] pBuffer t ⟨h, hahead⟩)
  -- after each answer `errno` decides, through its translation, whether another is taken
  case round =>
    rintro done a rest buf u ⟨hu, hq⟩
    rw [wp_bind]
    refine wp_mono (fun buf' v hv => ?_) (fun _ _ hF => hF) (wp_recvfromRound_drawn buf hu hq)
    obtain ⟨hdrawn, hrest, herrno⟩ := hv
    have hfold : (done ++ [a]).foldl errnoAfter s.os.errno = v.os.errno := hdrawn.errno_eq.symm
    rw [hfold]
    simp only [wp_bind, wp_translateSocketError, wp_this, wp_ite, wp_pure, State.upd_self,
      translateErrno_eq_interrupted]
    have hstored : Drawn s (done ++ [a]) (v.upd fun o =>
        { o with m_socketErrno := translateErrno v.os.errno }) := hdrawn.congr rfl rfl rfl rfl
    exact ⟨fun he => ⟨he, hstored, hrest⟩, fun he => ⟨he, hstored⟩⟩
  case empty =>
    rintro done buf u ⟨hu, hq⟩
    rw [wp_bind, recvfromRound, wp_bind, wp_this, wp_bind, sysRecvfrom, wp_issue_nil hq]

/-- The rest of `Receive` on a UDP socket: what it returns is the count of the last answer. -/
theorem wp_receiveTimed_drawn (pBuffer : Option Bytes) (h : Drawn s [] t)
    (hudp : s.self.m_nSocketType = .socketTypeUdp) :
    wp (receiveTimed nMaxBytes pBuffer)
      (fun r u => LeavesFrom s.os.errno s.os.script.recvfrom ∧
        Drawn s (takenFrom s.os.errno s.os.script.recvfrom) u ∧ r.1 = u.self.m_nBytesReceived)
      (fun e _ => e = .waiting) t := by
  have htcp : t.self.m_nSocketType ≠ .socketTypeTcp := by
    rw [h.type, hudp]
    exact CSocketType.noConfusion
  have htype : t.self.m_nSocketType = .socketTypeUdp := h.type.trans hudp
  simp only [receiveTimed, receiveLoop, wp_bind, wp_setSocketError, wp_timerInitialize,
    wp_setStartTime, wp_this, wp_script, wp_ite]
  refine ⟨fun hno => absurd hno htcp, fun _ => ⟨fun _ => ?_, fun hno => absurd htype hno⟩⟩
  refine wp_mono (fun out u hu => ?_) (fun _ _ he => he) (wp_recvfromRounds (s := s) pBuffer
    (h.congr rfl rfl rfl rfl))
  obtain ⟨hleaves, hu⟩ := hu
  simp only [wp_setEndTime, wp_translateSocketError, wp_when, wp_deleteBuffer, wp_pure]
  exact ⟨fun _ => ⟨hleaves, hu.congr rfl rfl rfl (sourcesIn_bufferDeleted _), rfl⟩,
    fun _ => ⟨hleaves, hu.congr rfl rfl rfl rfl, trivial⟩⟩

/-- `Receive` gets a buffer: its caller's, or one whose size can be had. -/
def Buffered (o : CSimpleSocket) (nMaxBytes : Int) (pBuffer : Option Bytes) : Prop :=
  pBuffer = none → nMaxBytes < 0 → o.m_pBuffer ≠ none ∧ nMaxBytes = o.m_nBufferSize

/-- The internal buffer is provided before anything is taken. -/
theorem wp_provideBuffer_drawn (h : Drawn s [] t) :
    wp (provideBuffer nMaxBytes) (fun _ u => Drawn s [] u ∧ Buffered t.self nMaxBytes none)
      (fun _ u => ¬ Buffered t.self nMaxBytes none ∧
        u.self.m_nSocketType = t.self.m_nSocketType ∧
        u.self.m_stClientSockaddr = t.self.m_stClientSockaddr) t := by
  have hfreed : Drawn s [] (bufferDeleted t) := h.congr rfl rfl rfl (sourcesIn_bufferDeleted t)
  have halloc : ∀ (u : State) (b : Buffer), Drawn s [] u → Drawn s []
      (((u.upd fun o => { o with m_nBufferSize := nMaxBytes }).allocated nMaxBytes).upd fun o =>
        { o with m_pBuffer := some b }) := by
    intro u b hu
    refine hu.congr rfl rfl rfl ?_
    simp only [State.upd_trace, State.allocated_trace, sourcesIn_append]
    exact List.append_nil _
  have hroom : ¬ nMaxBytes < 0 → Buffered t.self nMaxBytes none := fun hn _ hneg => absurd hneg hn
  simp only [provideBuffer, wp_bind, wp_this, wp_when, wp_deleteBuffer, wp_assign, wp_newBytes,
    State.upd_os]
  -- a buffer of another size is freed first; the allocation throws for a negative one
  refine ⟨fun hother => ?_, fun hsame => ?_⟩
  · have hno : nMaxBytes < 0 → ¬ Buffered t.self nMaxBytes none := fun hneg hb =>
      hother.2 (hb rfl hneg).2
    exact ⟨fun _ => ⟨fun hneg => ⟨hno hneg, rfl, rfl⟩, fun hn => ⟨halloc _ _ hfreed, hroom hn⟩⟩,
      fun hsome => absurd rfl hsome⟩
  · refine ⟨fun hnone => ⟨fun hneg => ⟨fun hb => (hb rfl hneg).1 hnone, rfl, rfl⟩,
      fun hn => ⟨halloc _ _ h, hroom hn⟩⟩, fun hsome => ⟨h, fun _ _ => ⟨hsome, ?_⟩⟩⟩
    by_contra hne
    exact hsame ⟨hsome, hne⟩

/-- **`Receive` on a valid UDP socket.** -/
theorem wp_receive_drawn (pBuffer : Option Bytes) (hvalid : s.self.isSocketValid = true)
    (hudp : s.self.m_nSocketType = .socketTypeUdp) :
    wp (receive nMaxBytes pBuffer)
      (fun r u => (LeavesFrom s.os.errno s.os.script.recvfrom ∧
        Drawn s (takenFrom s.os.errno s.os.script.recvfrom) u ∧ r.1 = u.self.m_nBytesReceived) ∧
        Buffered s.self nMaxBytes pBuffer)
      (fun e u => e = .waiting ∨ ¬ Buffered s.self nMaxBytes pBuffer ∧
        u.self.m_nSocketType = s.self.m_nSocketType ∧
        u.self.m_stClientSockaddr = s.self.m_stClientSockaddr) s := by
  have hstart : Drawn s [] (s.upd fun o => { o with m_nBytesReceived := 0 }) := by
    have h := Drawn.start s
    exact ⟨h.1, h.2, h.3, h.4, fun a ha => absurd ha (Option.some_ne_none a).symm, h.6, h.7, h.8⟩
  rw [wp_receive_iff]
  refine ⟨fun hinv => absurd (hvalid.symm.trans hinv) Bool.noConfusion,
    fun _ => ⟨?internal, ?supplied⟩⟩
  case internal =>
    rintro rfl
    refine wp_mono (fun _ u hu => ?_) (fun _ _ h => Or.inr h) (wp_provideBuffer_drawn hstart)
    exact wp_mono (fun _ _ h => ⟨h, hu.2⟩) (fun _ _ he => Or.inl he)
      (wp_receiveTimed_drawn none hu.1 hudp)
  case supplied =>
    intro hsome
    exact wp_mono (fun _ _ h => ⟨h, fun hnone => absurd hnone hsome⟩) (fun _ _ he => Or.inl he)
      (wp_receiveTimed_drawn pBuffer hstart hudp)

end

/-! ### Runs -/

/-- A UDP object, and the sender of the datagram it returned last. -/
structure Answering where
  self : CSimpleSocket
  last : Option SockaddrIn

/-- An operation and the answers it meets. -/
structure Handled where
  op : Op
  os : Os

/-- The steps of a passive object. A `Receive` that returns a count returns the last datagram it
took; it may throw. -/
inductive AnswerStep : Answering → Handled → Answering → Prop where
  | received {s : Answering} {nMaxBytes r : Int} {pBuffer out : Option Bytes} {os : Os} {t : State}
      (hrun : call (receive nMaxBytes pBuffer) s.self os = .done (r, out) t) :
      AnswerStep s ⟨.receive nMaxBytes pBuffer, os⟩
        ⟨t.self, if 0 < r then (sourcesIn t.trace).getLast? else s.last⟩
  | threw {s : Answering} {nMaxBytes : Int} {pBuffer : Option Bytes} {os : Os} {t : State}
      (hrun : call (receive nMaxBytes pBuffer) s.self os = .stop .threw t) :
      AnswerStep s ⟨.receive nMaxBytes pBuffer, os⟩ ⟨t.self, s.last⟩
  | other {s : Answering} {op : Op} {os : Os} {ret : Ret} {t : State}
      (has : op.ofClass .passive = true) (hop : ∀ nMaxBytes pBuffer, op ≠ .receive nMaxBytes pBuffer)
      (hrun : call (op.run .passive) s.self os = .done ret t) :
      AnswerStep s ⟨op, os⟩ ⟨t.self, s.last⟩

/-- **The property**: every `Send` goes to the sender of the datagram returned last. -/
def AnswersLast (s : Answering) : Prop :=
  ∀ a, s.last = some a → ∀ pBuf bytesToSend os r t,
    call (CPassiveSocket.send pBuf bytesToSend) s.self os = .done r t →
      ∀ fd data dest res, Event.sendto fd data dest res ∈ t.trace → dest = a

/-- **The defect**: a `Receive` on a valid socket that has a buffer returns, in multicast mode, a
datagram from another address than the one `Send` knows; or it takes, in unicast mode, one from
another address than the last, and returns no count for it. -/
def Handled.Strays (s : Answering) (x : Handled) : Prop :=
  ∃ nMaxBytes pBuffer, x.op = .receive nMaxBytes pBuffer ∧ s.self.isSocketValid = true ∧
    Buffered s.self nMaxBytes pBuffer ∧
    ((s.self.m_bIsMulticast = true ∧ ∃ d, returned x.os.errno x.os.script.recvfrom = some d ∧
        d.2 ≠ s.self.m_stClientSockaddr) ∨
      (s.self.m_bIsMulticast = false ∧ returned x.os.errno x.os.script.recvfrom = none ∧
        ∃ a src, s.last = some a ∧
          lastTaken (takenFrom x.os.errno x.os.script.recvfrom) = some src ∧ src ≠ a))

/-- A UDP object that would reply to the last sender, were it valid. -/
structure Attentive (s : Answering) : Prop where
  udp : s.self.m_nSocketType = .socketTypeUdp
  client : ∀ a, s.last = some a → s.self.m_stClientSockaddr = a

/-! ### Sending -/

/-- `Send` passes the client's address to `sendto`. -/
theorem wp_passiveSend_dest (pBuf : Option Bytes) (bytesToSend : ℕ) {s : State}
    (hudp : s.self.m_nSocketType = .socketTypeUdp) (hs : s.trace = []) :
    wp (CPassiveSocket.send pBuf bytesToSend) (fun _ t => ∀ fd data dest res,
      Event.sendto fd data dest res ∈ t.trace →
        s.self.isSocketValid = true ∧ dest = s.self.m_stClientSockaddr) (fun _ _ => True) s := by
  simp only [CPassiveSocket.send, wp_bind, wp_setSocketError, wp_assign, wp_this, wp_ite, wp_when,
    State.upd_self]
  refine ⟨fun _ => ⟨fun hgo => ?_, fun _ fd data dest res hmem => ?_⟩, fun hno => absurd hudp hno⟩
  · rw [sendtoClient]
    simp only [wp_bind, wp_timerInitialize, wp_setStartTime, wp_this, sysSendto, wp_issue_iff,
      wp_assign, wp_setEndTime]
    refine ⟨fun _ => trivial, fun res rest _ => ?_⟩
    -- the one call of the trace is this `sendto`
    have hdest : ∀ fd data dest res', Event.sendto fd data dest res' ∈
        s.trace ++ [.sendto s.self.m_socket ((pBuf.getD []).take bytesToSend)
          s.self.m_stClientSockaddr res] →
            s.self.isSocketValid = true ∧ dest = s.self.m_stClientSockaddr := by
      intro fd data dest res' hmem
      rw [hs, List.nil_append, List.mem_singleton] at hmem
      cases hmem
      exact ⟨hgo.1, rfl⟩
    generalize narrow res.ret = n
    rw [wp_when]
    exact ⟨fun _ => hdest, fun _ => hdest⟩
  · rw [State.upd_trace, State.upd_trace, hs] at hmem
    cases hmem

/-- The answer to one `sendto`. -/
def sending : Os := .idle { sendto := [.ok 1] }

/-- There is a `Send` on a valid socket that reaches `sendto`. -/
theorem exists_send {o : CSimpleSocket} (hudp : o.m_nSocketType = .socketTypeUdp)
    (hvalid : o.isSocketValid = true) : ∃ r t,
      call (CPassiveSocket.send (some [0]) 1) o sending = .done r t ∧
        Event.sendto o.m_socket [0] o.m_stClientSockaddr (.ok 1) ∈ t.trace := by
  have h : wp (CPassiveSocket.send (some [0]) 1)
      (fun _ t => Event.sendto o.m_socket [0] o.m_stClientSockaddr (.ok 1) ∈ t.trace)
      (fun _ _ => False) ⟨o, sending, []⟩ := by
    have hgo : o.isSocketValid = true ∧ 0 < 1 ∧ some ([0] : Bytes) ≠ none :=
      ⟨hvalid, Nat.one_pos, Option.some_ne_none _⟩
    simp only [CPassiveSocket.send, wp_bind, wp_setSocketError, wp_assign, wp_this, wp_ite, wp_when,
      State.upd_self]
    refine ⟨fun _ => ⟨fun _ => ?_, fun hno => absurd hgo hno⟩, fun hno => absurd hudp hno⟩
    -- one `sendto` is made and answered
    rw [sendtoClient]
    simp only [wp_bind, wp_timerInitialize, wp_setStartTime, wp_this, sysSendto]
    refine (wp_issue_cons (h := rfl)).mpr ?_
    simp only [wp_assign, wp_setEndTime, wp_when]
    exact ⟨fun _ => List.mem_singleton_self _, fun _ => List.mem_singleton_self _⟩
  obtain ⟨hdone, hstop⟩ := (wp_iff _).mp h
  cases hout : call (CPassiveSocket.send (some [0]) 1) o sending with
  | done r t => exact ⟨r, t, rfl, hdone r t hout⟩
  | stop e t => exact (hstop e t hout).elim

/-- What the property says of the member. -/
theorem answersLast_iff_client {s : Answering} (hudp : s.self.m_nSocketType = .socketTypeUdp) :
    AnswersLast s ↔
      (s.self.isSocketValid = true → ∀ a, s.last = some a → s.self.m_stClientSockaddr = a) := by
  constructor
  -- were another address stored, some `Send` would go there
  · intro h hvalid a ha
    obtain ⟨r, t, hrun, hmem⟩ := exists_send hudp hvalid
    exact h a ha _ _ _ r t hrun _ _ _ _ hmem
  · intro h a ha pBuf n os r t hrun fd data dest res hmem
    obtain ⟨hvalid, hdest⟩ := wp_call (wp_passiveSend_dest pBuf n hudp rfl) hrun fd data dest res hmem
    exact hdest.trans (h hvalid a ha)

/-! ### The other operations -/

/-- The reply is as it was. -/
def SameReply (s t : State) : Prop := t.self.reply = s.self.reply

instance : Std.Refl SameReply := ⟨fun _ => rfl⟩

instance : IsTrans State SameReply := ⟨fun _ _ _ h₁ h₂ => h₂.trans h₁⟩

theorem reply_of_core (a b : CSimpleSocket) (h : a.core = b.core) : a.reply = b.reply := by
  simp only [core, Prod.mk.injEq] at h
  exact congrArg₂ _ h.2.1 h.2.2.2.2.2

theorem Quiet.sameReply {s t : State} (h : Quiet s t) : SameReply s t := reply_of_core _ _ h.1

/-- The reply is nothing that binding and closing write. -/
theorem spared_reply : SparedByClose CSimpleSocket.reply fun _ => false where
  toSpared := spared_core.coarser reply_of_core fun _ _ => rfl
  socket _ _ := rfl
  buffer _ _ := rfl
  server _ _ := rfl
  multicastGroup _ _ := rfl
  close _ _ := rfl
  free _ := rfl
  bind _ _ _ := rfl
  listen _ _ _ := rfl

theorem reply_of_frame {α : Type} {x : M α}
    (h : Keeps (Frame CSimpleSocket.reply fun _ => false) x) : Keeps SameReply x := fun s =>
  wp_mono (fun _ _ h => h.1) (fun _ _ h => h.1) (h s)

theorem reply_initializeSocket : Keeps SameReply initializeSocket := by
  intro s
  simp [initializeSocket, sysSocket, SameReply, reply]

theorem reply_listen (pAddr : Option String) (nPort : UInt16) (nConnectionBacklog : Int) :
    Keeps SameReply (CPassiveSocket.listen pAddr nPort nConnectionBacklog) := by
  have hoptions : Keeps SameReply listenOptions := by
    intro s
    simp [listenOptions, sysSetsockopt, SameReply]
  exact keeps_bind hoptions fun _ =>
    reply_of_frame (frame_listenRest spared_reply pAddr nPort nConnectionBacklog)

/-- Only `Receive` changes to whom a UDP object replies. -/
theorem reply_of_call {op : Op} {o : CSimpleSocket} {os : Os} {ret : Ret} {t : State}
    (hudp : o.m_nSocketType = .socketTypeUdp) (has : op.ofClass .passive = true)
    (hop : ∀ nMaxBytes pBuffer, op ≠ .receive nMaxBytes pBuffer)
    (hrun : call (op.run .passive) o os = .done ret t) : t.self.reply = o.reply := by
  by_cases hq : op.isQuiet = true
  · exact (wp_call (quiet_run .passive hq _) hrun).sameReply
  cases op with
  | initializeSocket =>
    obtain ⟨r, hr, rfl⟩ := call_done hrun
    exact wp_call (reply_initializeSocket _) hr
  | close =>
    obtain ⟨r, hr, rfl⟩ := call_done hrun
    exact wp_call (reply_of_frame (frame_closeSocket spared_reply) _) hr
  | receive nMaxBytes pBuffer => exact absurd rfl (hop nMaxBytes pBuffer)
  | openSocket => cases has
  | listen addr port backlog =>
    obtain ⟨r, hr, rfl⟩ := call_done hrun
    exact wp_call (reply_listen addr port backlog _) hr
  | bindMulticast iface group port =>
    obtain ⟨r, hr, rfl⟩ := call_done hrun
    exact wp_call (reply_of_frame (frame_bindMulticast spared_reply iface group port) _) hr
  | accept raw =>
    obtain ⟨r, hr, rfl⟩ := call_done hrun
    have htcp : o.m_nSocketType ≠ .socketTypeTcp := by
      rw [hudp]
      exact CSocketType.noConfusion
    -- a UDP object refuses to accept
    have hrefused : wp (accept raw) (fun _ t => t.self.reply = o.reply) (fun _ _ => True)
        ⟨o, os, []⟩ := by
      rw [accept, wp_bind, wp_this, if_pos htcp]
      exact rfl
    exact wp_call hrefused hr
  | _ => exact absurd rfl hq

/-! ### One step -/

section

variable {s : Answering} {nMaxBytes r : Int} {pBuffer out : Option Bytes} {os : Os} {t : State}

/-- `Receive` on an invalid socket returns zero and takes nothing. -/
theorem wp_receive_refused (hinvalid : s.self.isSocketValid = false) :
    wp (receive nMaxBytes pBuffer) (fun r t => r.1 = 0 ∧ t.self.reply = s.self.reply)
      (fun _ _ => False) ⟨s.self, os, []⟩ := by
  rw [wp_receive_iff]
  exact ⟨fun _ => ⟨rfl, rfl⟩, fun hvalid => absurd (hvalid.symm.trans hinvalid) (by decide)⟩

/-- A valid one: what it returned a count for, and whom it knows afterwards. -/
theorem receive_valid (hs : Attentive s) (hvalid : s.self.isSocketValid = true)
    (hrun : call (receive nMaxBytes pBuffer) s.self os = .done (r, out) t) :
    (0 < r ↔ returned os.errno os.script.recvfrom ≠ none) ∧
      (∀ d, returned os.errno os.script.recvfrom = some d →
        takenFrom os.errno os.script.recvfrom = [.ok d]) ∧
      Drawn ⟨s.self, os, []⟩ (takenFrom os.errno os.script.recvfrom) t ∧
      Buffered s.self nMaxBytes pBuffer := by
  have hreceive := @wp_receive_drawn ⟨s.self, os, []⟩ nMaxBytes pBuffer hvalid hs.udp
  have hdone := wp_call hreceive hrun
  obtain ⟨⟨hleaves, hdrawn, hr⟩, hbuffered⟩ := hdone
  have hr : r = t.self.m_nBytesReceived := hr
  have hleaves : LeavesFrom os.errno os.script.recvfrom := hleaves
  have hcount := hdrawn.count
  refine ⟨?_, ?_, hdrawn, hbuffered⟩
  · rcases returned_cases hleaves with ⟨d, htaken, hret⟩ | ⟨pre, e, htaken, hret⟩
    · have hlast : r = countOf (.ok d) := by
        refine hr.trans (hcount _ ?_)
        rw [show takenFrom _ _ = _ from htaken]
        rfl
      rw [hret, hlast]
      by_cases hpos : 0 < countOf (.ok d)
      · simp [hpos]
      · simp [hpos]
    · have hlast : r = countOf (.fail e) := by
        refine hr.trans (hcount _ ?_)
        rw [show takenFrom _ _ = _ from htaken]
        simp
      have hneg : r = -1 := hlast.trans narrow_neg_one
      rw [hret, hneg]
      simp
  · intro d hd
    -- what is returned is the count of the last answer: of the one datagram, or of a failure
    rcases returned_cases hleaves with ⟨d', htaken, hret⟩ | ⟨pre, e, htaken, hret⟩
    · rw [hret] at hd
      split at hd
      · cases hd
        exact htaken
      · cases hd
    · rw [hret] at hd
      cases hd

/-- **`Receive` on a valid socket** leaves `Send` right exactly when it does not stray. -/
theorem client_iff_of_receive (hs : Attentive s) (hvalid : s.self.isSocketValid = true)
    (hrun : call (receive nMaxBytes pBuffer) s.self os = .done (r, out) t) :
    (∀ a, (if 0 < r then (sourcesIn t.trace).getLast? else s.last) = some a →
      t.self.m_stClientSockaddr = a) ↔ ¬ Handled.Strays s ⟨.receive nMaxBytes pBuffer, os⟩ := by
  obtain ⟨hpos, hone, hdrawn, hbuffered⟩ := receive_valid hs hvalid hrun
  -- the call is on a valid socket with a buffer, so only the two cases are left of `Strays`
  have hstrays : Handled.Strays s ⟨.receive nMaxBytes pBuffer, os⟩ ↔
      (s.self.m_bIsMulticast = true ∧ ∃ d, returned os.errno os.script.recvfrom = some d ∧
        d.2 ≠ s.self.m_stClientSockaddr) ∨
      (s.self.m_bIsMulticast = false ∧ returned os.errno os.script.recvfrom = none ∧
        ∃ a src, s.last = some a ∧
          lastTaken (takenFrom os.errno os.script.recvfrom) = some src ∧ src ≠ a) := by
    constructor
    · rintro ⟨n, buf, -, -, -, h⟩
      exact h
    · exact fun h => ⟨nMaxBytes, pBuffer, rfl, hvalid, hbuffered, h⟩
  have hclient : t.self.m_stClientSockaddr = if s.self.m_bIsMulticast = true
      then s.self.m_stClientSockaddr
      else (lastTaken (takenFrom os.errno os.script.recvfrom)).getD s.self.m_stClientSockaddr :=
    hdrawn.client
  rw [hstrays]
  cases hret : returned os.errno os.script.recvfrom with
  | some d =>
    -- the datagram is the only one that was taken
    have htaken := hone d hret
    have hlast : (sourcesIn t.trace).getLast? = some d.2 := by
      rw [hdrawn.sources, htaken]
      rfl
    rw [if_pos (hpos.mpr (by rw [hret]; exact Option.some_ne_none d)), hlast, hclient, htaken]
    cases hm : s.self.m_bIsMulticast with
    -- unicast: the member is the sender
    | false =>
      refine iff_of_true (fun a ha => Option.some.inj ha) ?_
      rintro (⟨hno, -⟩ | ⟨-, hno, -⟩)
      · cases hno
      · cases hno
    -- multicast: the member is not written, so the sender has to be the one it has
    | true =>
      constructor
      · rintro h (⟨-, d', hd', hne⟩ | ⟨hno, -⟩)
        · cases hd'
          exact hne (h d.2 rfl).symm
        · cases hno
      · intro h a ha
        by_contra hne
        refine h (Or.inl ⟨rfl, d, rfl, fun heq => hne ?_⟩)
        exact heq.symm.trans (Option.some.inj ha)
  | none =>
    -- nothing is returned, and the reply is still due to the last sender
    rw [if_neg fun h => hpos.mp h hret, hclient]
    cases hm : s.self.m_bIsMulticast with
    | true =>
      refine iff_of_true (fun a ha => hs.client a ha) ?_
      rintro (⟨-, d, hno, -⟩ | ⟨hno, -⟩)
      · cases hno
      · cases hno
    | false =>
      constructor
      · rintro h (⟨hno, -⟩ | ⟨-, -, a, src, ha, hsrc, hne⟩)
        · cases hno
        · have hknown := h a ha
          rw [hsrc] at hknown
          exact hne hknown
      · intro h a ha
        show (lastTaken _).getD _ = a
        cases hsrc : lastTaken (takenFrom os.errno os.script.recvfrom) with
        | none => exact hs.client a ha
        | some src =>
          by_contra hne
          exact h (Or.inr ⟨rfl, rfl, a, src, ha, hsrc, hne⟩)

end

/-- A step that does not touch the reply. -/
theorem Attentive.of_reply {s : Answering} {u : CSimpleSocket} (hs : Attentive s)
    (h : u.reply = s.self.reply) : Attentive ⟨u, s.last⟩ := by
  obtain ⟨htype, hclient⟩ := Prod.mk.inj h
  exact ⟨htype.trans hs.udp, fun a ha => hclient.trans (hs.client a ha)⟩

theorem Attentive.answersLast {s : Answering} (hs : Attentive s) : AnswersLast s :=
  (answersLast_iff_client hs.udp).mpr fun _ => hs.client

/-- **One step**: it does not stray exactly when the object replies to the last sender after it,
and then it is attentive still. -/
theorem AnswerStep.answers_iff {s s' : Answering} {x : Handled} (h : AnswerStep s x s')
    (hs : Attentive s) : (AnswersLast s' ↔ ¬ x.Strays s) ∧ (¬ x.Strays s → Attentive s') := by
  -- most steps leave the reply as it is, and cannot stray
  have hkept : ∀ {u : CSimpleSocket}, u.reply = s.self.reply → ¬ x.Strays s →
      (AnswersLast ⟨u, s.last⟩ ↔ ¬ x.Strays s) ∧ (¬ x.Strays s → Attentive ⟨u, s.last⟩) := by
    intro u hreply hno
    have hu := hs.of_reply hreply
    exact ⟨iff_of_true hu.answersLast hno, fun _ => hu⟩
  cases h with
  | @other op os ret t has hop hrun =>
    refine hkept (reply_of_call hs.udp has hop hrun) ?_
    rintro ⟨n, buf, hreq, -⟩
    exact hop n buf hreq
  | @threw n buf os t hrun =>
    by_cases hvalid : s.self.isSocketValid = true
    · have hreceive := @wp_receive_drawn ⟨s.self, os, []⟩ n buf hvalid hs.udp
      have hstop := wp_stopped hreceive hrun
      rcases hstop with hno | ⟨hunbuffered, htype, hclient⟩
      · cases hno
      · refine hkept (Prod.ext htype hclient) ?_
        rintro ⟨n', buf', hreq, -, hbuffered, -⟩
        cases hreq
        exact hunbuffered hbuffered
    · have hstop := wp_stopped (wp_receive_refused (Bool.eq_false_iff.mpr hvalid)) hrun
      exact hstop.elim
  | @received n r buf out os t hrun =>
    by_cases hvalid : s.self.isSocketValid = true
    · have hiff := client_iff_of_receive hs hvalid hrun
      obtain ⟨-, -, hdrawn, -⟩ := receive_valid hs hvalid hrun
      have hudp : t.self.m_nSocketType = .socketTypeUdp := hdrawn.type.trans hs.udp
      refine ⟨?_, fun hno => ⟨hudp, hiff.mpr hno⟩⟩
      rw [answersLast_iff_client hudp, ← hiff]
      -- `Receive` keeps the descriptor, so the property is about this object
      refine forall_prop_of_true ?_
      exact isSocketValid_iff.mpr (hdrawn.socket ▸ isSocketValid_iff.mp hvalid)
    · have hdone := wp_call (wp_receive_refused (Bool.eq_false_iff.mpr hvalid)) hrun
      obtain ⟨hzero, hreply⟩ := hdone
      have hzero : r = 0 := hzero
      rw [hzero, if_neg (lt_irrefl 0)]
      refine hkept hreply ?_
      rintro ⟨n', buf', -, hvalid', -⟩
      exact hvalid hvalid'

/-- **A UDP object replies to the last sender** in every state of a run exactly when no `Receive`
of it strays. -/
theorem answersLast_iff {raw : CSimpleSocket} {steps : List (Taken Answering Handled)}
    {s : Answering} (hrun : Run AnswerStep ⟨.construct raw .socketTypeUdp, none⟩ steps s) :
    (∀ x ∈ steps, AnswersLast x.post) ↔ ∀ x ∈ steps, ¬ x.label.Strays x.pre :=
  Run.forall_iff Attentive (fun _ _ s' => AnswersLast s') (fun s x _ => ¬ x.Strays s)
    (fun _ _ _ h hs => (h.answers_iff hs).1) (fun _ _ _ h hs hc => (h.answers_iff hs).2 hc)
    hrun ⟨rfl, fun a ha => absurd ha (Option.some_ne_none a).symm⟩

/-! ### One datagram in either mode -/

/-- The address a datagram comes from. -/
def correspondent : SockaddrIn := ⟨AF_INET, htons 5000, 7⟩

/-- The kernel gives out the number 3 and delivers one datagram. -/
def delivering : Os := .idle {
  socket := [.ok 3], setsockopt := [.ok ()], recvfrom := [.ok ([7], correspondent)] }

/-- A new object. -/
def newAnswering : Answering := ⟨.construct .zeroed .socketTypeUdp, none⟩

/-- The state after an operation. -/
def Answering.then (s : Answering) (op : Op) : Answering :=
  ⟨(call (op.run .passive) s.self delivering).state.self, s.last⟩

/-- The state after a `Receive` that returned the datagram. -/
def Answering.mailed (s : Answering) : Answering :=
  ⟨(call (receive 4 none) s.self delivering).state.self,
    (sourcesIn (call (receive 4 none) s.self delivering).state.trace).getLast?⟩

theorem Answering.mailed_step {s : Answering} (hrun : call (receive 4 none) s.self delivering =
    .done (1, none) (call (receive 4 none) s.self delivering).state) :
    AnswerStep s ⟨.receive 4 none, delivering⟩ s.mailed := by
  have h := AnswerStep.received hrun
  rwa [if_pos Int.one_pos] at h

def Answering.initialized : Answering := newAnswering.then .initializeSocket

def Answering.grouped : Answering := Answering.initialized.then (.setMulticast true 1)

/-- It is initialized. -/
def starting : Taken Answering Handled :=
  ⟨newAnswering, ⟨.initializeSocket, delivering⟩, Answering.initialized⟩

/-- It receives in unicast mode. -/
def unicasting : List (Taken Answering Handled) :=
  [starting,
    ⟨Answering.initialized, ⟨.receive 4 none, delivering⟩, Answering.initialized.mailed⟩]

/-- It receives in multicast mode. -/
def multicasting : List (Taken Answering Handled) :=
  [starting, ⟨Answering.initialized, ⟨.setMulticast true 1, delivering⟩, Answering.grouped⟩,
    ⟨Answering.grouped, ⟨.receive 4 none, delivering⟩, Answering.grouped.mailed⟩]

theorem step_starting :
    AnswerStep newAnswering ⟨.initializeSocket, delivering⟩ Answering.initialized :=
  .other rfl (fun _ _ => Op.noConfusion) rfl

/-- In unicast mode the reply goes back. -/
theorem answersLast_unicasting :
    Run AnswerStep newAnswering unicasting Answering.initialized.mailed ∧
      ∀ x ∈ unicasting, AnswersLast x.post := by
  have hrun : Run AnswerStep newAnswering unicasting Answering.initialized.mailed :=
    .cons step_starting (.cons (Answering.mailed_step rfl) (.nil _))
  refine ⟨hrun, (answersLast_iff hrun).mpr fun x hx => ?_⟩
  simp only [unicasting, List.mem_cons, List.not_mem_nil, or_false] at hx
  rintro ⟨n, buf, hreq, -, -, ⟨hgroup, -⟩ | ⟨-, hnone, -⟩⟩
  · rcases hx with rfl | rfl
    · cases hreq
    · cases hgroup
  · rcases hx with rfl | rfl
    · cases hreq
    · exact absurd hnone (Option.some_ne_none ([7], correspondent))

/-- In multicast mode it goes nowhere. -/
theorem not_answersLast_multicasting :
    Run AnswerStep newAnswering multicasting Answering.grouped.mailed ∧
      ¬ ∀ x ∈ multicasting, AnswersLast x.post := by
  refine ⟨.cons step_starting (.cons ?_ (.cons (Answering.mailed_step rfl) (.nil _))), fun h => ?_⟩
  · exact .other rfl (fun _ _ => Op.noConfusion) rfl
  · have hlast : AnswersLast Answering.grouped.mailed :=
      h ⟨Answering.grouped, ⟨.receive 4 none, delivering⟩, Answering.grouped.mailed⟩
        (by simp [multicasting])
    have hdest := hlast correspondent rfl (some [7]) 1 sending 1 _ rfl 3 [7] .zero (.ok 1)
      (List.mem_singleton_self _)
    exact absurd hdest (by decide)

end ClSocket
