import ClSocket.Method.Quiet

/-!
# What `Accept` does

The loop of `Accept` clears `errno` before every `accept`, so a call that succeeds finds
`errno` at zero, is read as a success and ends the loop; only failures with `EINTR` go round
again. `wp_accept` gives both outcomes in full: which object is returned, and the calls made
on the way.
-/

namespace ClSocket

open Prog

namespace CPassiveSocket

open CSimpleSocket

/-- The object `Accept` returns for a connection: `peer` is what `accept` stored, `name` what
`getsockname` answered on the listening descriptor. -/
def accepted (raw : CSimpleSocket) (fd : ℕ) (peer : SockaddrIn) (name : Answer SockaddrIn) :
    CSimpleSocket :=
  { CSimpleSocket.construct raw .socketTypeTcp with
    m_socket := fd
    m_socketErrno := .socketSuccess
    m_stClientSockaddr := peer
    m_stServerSockaddr := match name with
      | .ok a => a
      | .fail _ => .zero }

/-- The failed calls `Accept` begins with. -/
def rejections (fd : Int) (fails : List Errno) : Trace := fails.map fun e => .accept fd (.fail e)

/-- The calls of a successful round. -/
def acceptance (lfd : Int) (fd : ℕ) (peer : SockaddrIn) (name' name : Answer SockaddrIn) : Trace :=
  [.accept lfd (.ok (fd, peer)), .getpeername lfd name', .getsockname lfd name]

/-- The listener, as far as `Accept` leaves it alone. -/
structure SameListener (s t : State) : Prop where
  socket : t.self.m_socket = s.self.m_socket
  type : t.self.m_nSocketType = s.self.m_nSocketType
  buffer : t.self.m_pBuffer = s.self.m_pBuffer
  bufferSize : t.self.m_nBufferSize = s.self.m_nBufferSize

/-- The loop before a round. -/
structure Accepting (raw : CSimpleSocket) (s : State) (client : CSimpleSocket) (t : State) :
    Prop where
  listener : SameListener s t
  client_eq : client = CSimpleSocket.construct raw .socketTypeTcp
  trace_eq : ∃ fails, t.trace = s.trace ++ rejections s.self.m_socket fails

/-- **The outcome of the loop**: the client and the code it left with. -/
inductive AcceptLeft (raw : CSimpleSocket) (s : State) :
    CSimpleSocket × CSocketError → State → Prop where
  | rejected (t : State) (fails : List Errno) (listener : SameListener s t)
      (failed : t.self.m_socketErrno ≠ .socketSuccess)
      (trace_eq : t.trace = s.trace ++ rejections s.self.m_socket fails) :
      AcceptLeft raw s (.construct raw .socketTypeTcp, t.self.m_socketErrno) t
  | accepted (t : State) (fails : List Errno) (fd : ℕ) (peer : SockaddrIn)
      (name' name : Answer SockaddrIn) (listener : SameListener s t)
      (trace_eq : t.trace = s.trace ++ rejections s.self.m_socket fails ++
        acceptance s.self.m_socket fd peer name' name) :
      AcceptLeft raw s (CPassiveSocket.accepted raw fd peer name, .socketSuccess) t

/-- The successful round: the addresses are stored and the loop is left. -/
theorem wp_storeAccepted {raw : CSimpleSocket} {s t : State} {fails : List Errno} {fd : ℕ}
    {peer : SockaddrIn} (hl : SameListener s t) (hc : t.self.m_stClientSockaddr = peer)
    (ht : t.trace = s.trace ++ rejections s.self.m_socket fails ++
      [.accept s.self.m_socket (.ok (fd, peer))]) :
    wp (storeAccepted { CSimpleSocket.construct raw .socketTypeTcp with
        m_socket := fd, m_socketErrno := .socketSuccess })
      (fun c u => AcceptLeft raw s (c, .socketSuccess) u) (fun _ _ => True) t := by
  have hfd := hl.socket
  rw [storeAccepted, wp_bind, wp_this, wp_bind, sysGetpeername, wp_issue_iff]
  refine ⟨fun _ => trivial, fun name' rest _ => ?_⟩
  rw [wp_bind, sysGetsockname, wp_issue_iff]
  refine ⟨fun _ => trivial, fun name rest _ => ?_⟩
  have htrace : t.trace ++ [.getpeername t.self.m_socket name'] ++
      [.getsockname t.self.m_socket name] = s.trace ++ rejections s.self.m_socket fails ++
        acceptance s.self.m_socket fd peer name' name := by
    rw [ht, hfd]
    simp [acceptance]
  -- the loop is left with this object, whatever the two calls answer
  have hleft : ∀ u : State, SameListener s u → u.trace = s.trace ++
      rejections s.self.m_socket fails ++ acceptance s.self.m_socket fd peer name' name →
      AcceptLeft raw s (CPassiveSocket.accepted raw fd peer name, .socketSuccess) u :=
    fun u hl hu => .accepted u fails fd peer name' name hl hu
  subst hc
  cases name with
  | ok a => exact hleft _ ⟨hl.1, hl.2, hl.3, hl.4⟩ htrace
  | fail e => exact hleft _ ⟨hl.1, hl.2, hl.3, hl.4⟩ htrace

theorem wp_acceptRound {raw client : CSimpleSocket} {s t : State} (h : Accepting raw s client t) :
    wp (acceptRound client) (Round.post (Accepting raw s) (AcceptLeft raw s)) (fun _ _ => True) t := by
  obtain ⟨hl, rfl, fails, ht⟩ := h
  have hfd := hl.socket
  rw [acceptRound, wp_bind, wp_setErrno, wp_bind, wp_this, wp_bind, sysAccept, wp_issue_iff]
  refine ⟨fun _ => trivial, fun res rest _ => ?_⟩
  cases res with
  | ok c =>
    obtain ⟨fd, peer⟩ := c
    -- `errno` was cleared, so a success is read as one
    have hsuccess : translateErrno 0 = .socketSuccess := rfl
    simp only [wp_bind, wp_assign, wp_getErrno, State.upd_os, State.answered_errno, Answer.errno_ok,
      State.withErrno_errno, hsuccess, reduceCtorEq, if_false, wp_pure]
    have hopened : t.trace ++ [.accept t.self.m_socket (.ok (fd, peer))] =
        s.trace ++ rejections s.self.m_socket fails ++
          [.accept s.self.m_socket (.ok (fd, peer))] := by
      rw [ht, hfd]
    exact wp_storeAccepted ⟨hl.1, hl.2, hl.3, hl.4⟩ rfl hopened
  | fail e =>
    have htrace : t.trace ++ [.accept t.self.m_socket (.fail e)] =
        s.trace ++ rejections s.self.m_socket (fails ++ [e]) := by
      rw [ht, hfd]
      simp [rejections]
    simp only [wp_bind, wp_translateSocketError, wp_this, wp_ite, wp_pure]
    refine ⟨fun _ => ⟨⟨hl.1, hl.2, hl.3, hl.4⟩, rfl, fails ++ [e], htrace⟩, fun _ => ?_⟩
    exact .rejected _ (fails ++ [e]) ⟨hl.1, hl.2, hl.3, hl.4⟩ (translateErrno_ne_success e) htrace

theorem wp_acceptLoop (raw : CSimpleSocket) {s t : State} (hl : SameListener s t)
    (ht : t.trace = s.trace) (n : ℕ) :
    wp (iter .waiting acceptRound n (CSimpleSocket.construct raw .socketTypeTcp))
      (AcceptLeft raw s) (fun _ _ => True) t :=
  wp_iter (fun _ => Accepting raw s) (fun _ _ _ h => wp_acceptRound h) (fun _ _ _ => trivial) n _ t
    ⟨hl, rfl, [], by rw [ht]; simp [rejections]⟩

/-- A client that holds nothing is deleted without a call. -/
theorem wp_deleteClient (raw : CSimpleSocket) (s : State) :
    wp (onObject (CSimpleSocket.construct raw .socketTypeTcp) (do let _ ← closeSocket))
      (fun _ t => t = s) (fun _ _ => False) s := by
  simp only [wp_onObject, wp_bind, closeSocket, wp_deleteBuffer, wp_this, wp_ite, wp_pure,
    wp_translateSocketError, bufferDeleted_self, CSimpleSocket.construct, INVALID_SOCKET,
    CSimpleSocket.isSocketValid_iff]
  refine ⟨fun hne => absurd rfl hne, fun _ => ?_⟩
  simp [bufferDeleted]

/-- **`Accept`.** It returns no object after failures only, the last of which it reports, and
otherwise the object of the first call that succeeded. -/
theorem wp_accept (raw : CSimpleSocket) (s : State) :
    wp (accept raw) (fun r t => SameListener s t ∧ ∃ fails, match r with
      | none => t.self.m_socketErrno ≠ .socketSuccess ∧
          t.trace = s.trace ++ rejections s.self.m_socket fails
      | some client => ∃ fd peer name' name, client = accepted raw fd peer name ∧
          t.trace = s.trace ++ rejections s.self.m_socket fails ++
            acceptance s.self.m_socket fd peer name' name) (fun _ _ => True) s := by
  simp only [accept, wp_bind, wp_this, wp_ite, wp_setSocketError, wp_pure, wp_timerInitialize,
    wp_setStartTime, wp_script, wp_setEndTime]
  refine ⟨fun _ => ⟨⟨rfl, rfl, rfl, rfl⟩, [], by simp, by simp [rejections]⟩, fun _ => ?_⟩
  refine wp_mono (fun r t h => ?_) (fun _ _ _ => trivial)
    (wp_acceptLoop raw (s := s) ?listener ?trace _)
  case listener => exact ⟨rfl, rfl, rfl, rfl⟩
  case trace => rfl
  cases h with
  -- the client object is deleted, and `NULL` is returned
  | rejected _ fails hl hne ht =>
    refine ⟨fun _ => ?_, fun h => absurd hne h⟩
    refine wp_mono ?_ (fun _ _ hF => hF.elim) (wp_deleteClient raw _)
    rintro _ _ rfl
    exact ⟨⟨hl.1, hl.2, hl.3, hl.4⟩, fails, hne, ht⟩
  | accepted _ fails fd peer name' name hl ht =>
    refine ⟨fun h => absurd rfl h, fun _ => ?_⟩
    exact ⟨⟨hl.1, hl.2, hl.3, hl.4⟩, fails, fd, peer, name', name, rfl, ht⟩

end CPassiveSocket

end ClSocket
