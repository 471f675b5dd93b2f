import ClSocket.Program.Connection

/-!
# The echo server

`examples/EchoServer.cpp` listens, and as long as its socket is valid it accepts a client, receives
once, sends back what it got and closes the client.

What it does after `Listen` is told by a monitor over its calls (`echo`): whom it is serving, what
it has heard from that client and whether it has answered. The loop does nothing the monitor does not
allow, in whatever way the system answers (`loop_does`). A client is closed before the next is
accepted, and not before it has been received from and, if that took bytes, a `send` of exactly these
bytes has been made (`Client.Served`). How much of them the `send` puts through is the system's affair:
the server does not look. The loop is never left either, so the program ends only when it could not
start to listen (`main_conforms`).
-/

namespace ClSocket

open Prog Function

namespace EchoServer

open CSimpleSocket CPassiveSocket

/-! ### The program -/

/-- The variables of `main`. -/
inductive Var where
  | socket
  | pClient
  deriving DecidableEq, Repr

def MAX_PACKET : Int := 4096

/-- The inner block: receive, answer, close, and in any case `delete`. -/
def serveClient : Program Var String Unit := do
  let (nBytes, _) ← invoke .pClient (receive MAX_PACKET none)
  when (nBytes ≠ 0) (do
    let o ← object .pClient
    let _ ← invoke .pClient (virtualSend .active o.getData (toSizeT o.getBytesReceived))
    let _ ← invoke .pClient closeSocket)
  invoke .pClient (destroy .active)

/-- A round of the loop; `raws k` is what the storage of the `k`-th new object holds. -/
def serveRound (raws : ℕ → CSimpleSocket) (k : ℕ) : Program Var String (Round ℕ Unit) := do
  let o ← object .socket
  if o.isSocketValid = true then
    match ← invoke .socket (accept (raws k)) with
    | some client =>
      assignObject .pClient client
      serveClient
      return .again (k + 1)
    | none => return .again (k + 1)
  else return .leave ()

/-- `main`, of whose loop this many rounds are run at most. -/
def main (raws : ℕ → CSimpleSocket) (rounds : ℕ) : Program Var String Int := do
  declare .socket .socketTypeTcp
  let _ ← invoke .socket initializeSocket
  let bListening ← invoke .socket (listen (some "127.0.0.1") 6789 30000)
  if bListening = false then
    let o ← object .socket
    print (describeError o.m_socketErrno)
    invoke .socket (destroy .passive)
    return 1
  else
    iter (.inCall .waiting) (serveRound raws) rounds 0
    let _ ← invoke .socket closeSocket
    invoke .socket (destroy .passive)
    return 1

/-! ### The protocol -/

/-- Whom the server is serving. -/
structure Client where
  /-- The descriptor of the last connection. -/
  fd : Option Int
  /-- The last answer of `recv` on it. -/
  heard : Option (Answer Bytes)
  /-- What `recv` took from it. -/
  taken : List Bytes
  /-- A `send` has been made. -/
  answered : Bool
  closes : List (Answer Unit)

/-- Nobody yet. -/
def Client.nobody : Client := ⟨none, none, [], false, []⟩

/-- A connection nothing has happened on. -/
def Client.connected (fd : Int) : Client := ⟨some fd, none, [], false, []⟩

/-- It has been received from, and if bytes came, a `send` has been made. -/
def Client.Served (c : Client) : Prop :=
  ∃ res, c.heard = some res ∧ ∀ bs, res = .ok bs → bs ≠ [] → c.answered = true

/-- There is no client whose connection has not been closed. -/
def Client.Gone (c : Client) : Prop := c.fd = none ∨ c.closes ≠ []

/-- **The protocol** of a server that listens on `lfd`. -/
def echo (lfd : Int) : Monitor Client Event where
  next c
    | .accept _ (.ok (fd, _)) => .connected fd
    | .recv _ _ _ _ (.ok bs) => { c with heard := some (.ok bs), taken := c.taken ++ [bs] }
    | .recv _ _ _ _ (.fail e) => { c with heard := some (.fail e) }
    | .send _ _ _ => { c with answered := true }
    | .close _ res => { c with closes := c.closes ++ [res] }
    | _ => c
  ok c
    | .accept fd _ => fd = lfd ∧ c.Gone
    | .getpeername fd _ | .getsockname fd _ => fd = lfd
    | .recv fd _ len _ _ => c.fd = some fd ∧ c.answered = false ∧ c.closes = [] ∧ len = MAX_PACKET
    | .send fd data _ => c.fd = some fd ∧ c.taken = [data] ∧ data ≠ [] ∧ c.closes = []
    | .close fd _ => c.fd = some fd ∧ c.Served ∧ (c.closes = [] ∨ ∃ e, c.closes = [.fail e])
    | .alloc _ _ | .free _ => True
    | _ => False

/-- Calls that follow the protocol and lead to a client with `P`, if the system takes and delivers no
more than it is asked to. -/
def Follows (lfd : Int) (c : Client) (calls : Trace) (P : Client → Prop) : Prop :=
  (∀ e ∈ calls, e.Sane) → (echo lfd).Accepts c calls ∧ P ((echo lfd).after c calls)

section

variable {lfd : Int} {c : Client} {calls more : Trace} {P P' : Client → Prop}

theorem Follows.nil (h : P c) : Follows lfd c [] P := fun _ => ⟨trivial, h⟩

theorem Follows.append (h : Follows lfd c calls P)
    (h' : (∀ e ∈ calls, e.Sane) → ∀ d, P d → Follows lfd d more P') :
    Follows lfd c (calls ++ more) P' := by
  intro hsane
  rw [List.forall_mem_append] at hsane
  obtain ⟨haccepts, hP⟩ := h hsane.1
  obtain ⟨haccepts', hP'⟩ := h' hsane.1 _ hP hsane.2
  rw [Monitor.accepts_append, Monitor.after_append]
  exact ⟨⟨haccepts, haccepts'⟩, hP'⟩

theorem Follows.mono (h : Follows lfd c calls P) (hP : ∀ d, P d → P' d) : Follows lfd c calls P' :=
  fun hsane => (h hsane).imp_right (hP _)

theorem Follows.cons {e : Event} (hok : (echo lfd).ok c e)
    (h : Follows lfd ((echo lfd).next c e) calls P) : Follows lfd c (e :: calls) P := by
  intro hsane
  rw [List.forall_mem_cons] at hsane
  obtain ⟨haccepts, hP⟩ := h hsane.2
  exact ⟨⟨hok, haccepts⟩, hP⟩

/-- Blocks come and go without the protocol noticing. -/
theorem follows_free (ids : List ℕ) : Follows lfd c (ids.map .free) (· = c) := by
  induction ids with
  | nil => exact .nil rfl
  | cons id ids ih => exact .cons trivial ih

/-- What `Receive` calls on a connection. -/
theorem follows_receipts {fd : Int} (h : ∀ e ∈ calls, e.isReceipt fd MAX_PACKET ∧
    CSocketType.socketTypeTcp.Permits e) (heard : Option (Answer Bytes)) (taken : List Bytes) :
    Follows lfd ⟨some fd, heard, taken, false, []⟩ calls
      (· = ⟨some fd, (heardIn calls).or heard, taken ++ removedIn calls, false, []⟩) := by
  induction calls generalizing heard taken with
  | nil => exact .nil (by simp [heardIn])
  | cons e calls ih =>
    rw [List.forall_mem_cons] at h
    obtain ⟨⟨hreceipt, htcp⟩, hrest⟩ := h
    -- what the call was told and took is added, and the rest follows
    have hgo : Follows lfd ⟨some fd, e.heard?.or heard, taken ++ e.removed?.toList, false, []⟩ calls
        (· = ⟨some fd, (heardIn (e :: calls)).or heard, taken ++ removedIn (e :: calls), false, []⟩) := by
      rw [heardIn_cons]
      simpa using ih hrest (e.heard?.or heard) (taken ++ e.removed?.toList)
    have hsame : e.heard? = none → e.removed? = none → Follows lfd ⟨some fd, heard, taken, false, []⟩
        calls (· = ⟨some fd, (heardIn (e :: calls)).or heard, taken ++ removedIn (e :: calls), false,
          []⟩) := fun hheard hremoved => by
      simpa [hheard, hremoved] using hgo
    cases e with
    | recv fd' off len flags res =>
      obtain ⟨rfl, rfl⟩ := hreceipt
      cases res with
      | ok bs => exact .cons ⟨rfl, rfl, rfl, rfl⟩ hgo
      | fail e =>
        have hadd : taken ++ (Event.recv fd' off MAX_PACKET flags (.fail e)).removed?.toList = taken :=
          List.append_nil taken
        rw [hadd] at hgo
        exact .cons ⟨rfl, rfl, rfl, rfl⟩ hgo
    | recvfrom fd' len res => exact absurd htcp (by simp [CSocketType.Permits])
    | alloc id size => exact .cons trivial (hsame rfl rfl)
    | free id => exact .cons trivial (hsame rfl rfl)
    | _ => exact hreceipt.elim

/-- What `Send` calls with what has been received. -/
theorem follows_sends {fd : Int} {data : Bytes} (hdata : data ≠ []) (heard : Option (Answer Bytes))
    (answered : Bool) (as : List (Answer ℕ)) :
    Follows lfd ⟨some fd, heard, [data], answered, []⟩ (as.map (.send fd data))
      (· = ⟨some fd, heard, [data], answered || !as.isEmpty, []⟩) := by
  induction as generalizing answered with
  | nil => exact .nil (by simp)
  | cons a as ih =>
    refine .cons ⟨rfl, rfl, hdata, rfl⟩ ((ih true).mono fun d hd => ?_)
    rw [hd]
    simp

/-- A `close` of the connection. -/
theorem follows_close {fd : Int} (hfd : c.fd = some fd) (hserved : c.Served)
    (hcloses : c.closes = [] ∨ ∃ e, c.closes = [.fail e]) (res : Answer Unit) :
    Follows lfd c [.close fd res]
      (fun d => d.fd = some fd ∧ d.Served ∧ d.closes = c.closes ++ [res]) :=
  .cons ⟨hfd, hserved, hcloses⟩ (.nil ⟨hfd, hserved, rfl⟩)

end

/-! ### Serving a client -/

/-- From `p` to `q` the program follows the protocol, with any client that has `P`, and then has
`P'`. -/
def Does (lfd : Int) (P P' : Client → Prop) (p q : Process Var String) : Prop :=
  ∃ calls, q.trace = p.trace ++ calls ∧ ∀ c, P c → Follows lfd c calls P'

/-- The same for a part of the program that leaves the listener alone. -/
def Serves (lfd : Int) (P P' : Client → Prop) (p q : Process Var String) : Prop :=
  q.var .socket = p.var .socket ∧ Does lfd P P' p q

/-- The client whose object is `o`, when `delete` comes. -/
inductive Leaving (o : CSimpleSocket) (c : Client) : Prop where
  | opened (valid : o.m_socket ≠ -1) (hfd : c.fd = some o.m_socket) (served : c.Served)
    (closes : c.closes = [] ∨ ∃ e, c.closes = [.fail e])
  | closed (invalid : o.m_socket = -1) (closes : c.closes ≠ [])

/-- The client whose object is `o`, after `Receive` has returned `n`. -/
structure Heard (o : CSimpleSocket) (n : Int) (c : Client) : Prop where
  hfd : c.fd = some o.m_socket
  answered : c.answered = false
  closes : c.closes = []
  /-- What will be sent is what was taken; if `Receive` failed, so has the last `recv`. -/
  echoes : (o.getData = none ∧ ∃ e, c.heard = some (.fail e)) ∨
    ∃ data, c.heard = some (.ok data) ∧ c.taken = [data] ∧
      (o.getData.getD []).take (toSizeT o.getBytesReceived) = data ∧ (n = 0 ↔ data = [])

/-- The client has been received from, is there to be closed and has been answered. -/
structure Answered (fd : Int) (c : Client) : Prop where
  hfd : c.fd = some fd
  closes : c.closes = []
  served : c.Served

section

variable {lfd fd : Int} {c : Client} {P P' P'' : Client → Prop} {p q r : Process Var String}

theorem Does.refl (h : ∀ c, P c → P' c) : Does lfd P P' p p :=
  ⟨[], by simp, fun c hc => .nil (h c hc)⟩

theorem Does.trans (h : Does lfd P P' p q) (h' : Does lfd P' P'' q r) : Does lfd P P'' p r := by
  obtain ⟨calls, hq, hdoes⟩ := h
  obtain ⟨more, hr, hdoes'⟩ := h'
  refine ⟨calls ++ more, by rw [hr, hq, List.append_assoc], fun c hc => ?_⟩
  exact (hdoes c hc).append fun _ d hd => hdoes' d hd

theorem Does.mono (h : Does lfd P' P'' p q) (hP : ∀ c, P c → P' c) : Does lfd P P'' p q := by
  obtain ⟨calls, hq, hdoes⟩ := h
  exact ⟨calls, hq, fun c hc => hdoes c (hP c hc)⟩

theorem Serves.trans (h : Serves lfd P P' p q) (h' : Serves lfd P' P'' q r) : Serves lfd P P'' p r :=
  ⟨h'.1.trans h.1, h.2.trans h'.2⟩

/-- After a method of the client's object. -/
theorem does_after {v : Var} {t : State} (h : ∀ c, P c → Follows lfd c t.trace P') :
    Does lfd P P' p (p.after v t) := ⟨t.trace, rfl, h⟩

theorem serves_after {t : State} (h : ∀ c, P c → Follows lfd c t.trace P') :
    Serves lfd P P' p (p.after .pClient t) :=
  ⟨Process.after_var_ne _ _ _ (by decide), does_after h⟩

/-- `delete pClient`. -/
theorem serves_destroy :
    wp (invoke .pClient (destroy .active))
      (fun _ q => Serves lfd (Leaving (p.var .pClient)) Client.Gone p q)
      (fun _ q => Does lfd (Leaving (p.var .pClient)) (fun _ => True) p q) p := by
  rw [wp_invoke]
  -- the client was closed before, and the destructor only frees
  by_cases hvalid : (p.var .pClient).m_socket = -1
  · refine wp_mono (fun _ t h => ?_) (fun _ _ hF => hF.elim)
      (wp_destroy_invalid (s := ⟨p.var .pClient, p.os, []⟩) rfl hvalid)
    obtain ⟨ids, htrace⟩ := h
    refine serves_after fun c hc => ?_
    cases hc with
    | opened hne => exact absurd hvalid hne
    | closed _ hcloses =>
      rw [htrace]
      exact (follows_free ids).mono fun d hd => Or.inr (hd ▸ hcloses)
  · refine wp_mono (fun _ t h => ?_) (fun _ t h => ?_)
      (wp_destroy_valid (s := ⟨p.var .pClient, p.os, []⟩) rfl hvalid)
    -- it was not, or `close` failed: the destructor closes it
    · obtain ⟨res, ids, htrace⟩ := h
      refine serves_after fun c hc => ?_
      cases hc with
      | opened _ hfd hserved hcloses =>
        rw [htrace]
        refine (follows_free ids).append fun _ d hd => ?_
        subst hd
        refine (follows_close hfd hserved hcloses res).mono fun d hd => Or.inr ?_
        rw [hd.2.2]
        simp
      | closed hinv => exact absurd hinv hvalid
    · obtain ⟨ids, htrace⟩ := h
      refine does_after fun c _ => ?_
      rw [htrace]
      exact (follows_free ids).mono fun _ _ => trivial

/-- `pClient->Close()`. -/
theorem serves_close (hvalid : (p.var .pClient).m_socket ≠ -1)
    (hP : ∀ c, P c → Answered (p.var .pClient).m_socket c) :
    wp (invoke .pClient closeSocket)
      (fun _ q => Serves lfd P (Leaving (q.var .pClient)) p q)
      (fun _ q => Does lfd P (fun _ => True) p q) p := by
  rw [wp_invoke]
  refine wp_mono (fun _ t h => ?_) (fun _ t h => ?_)
    (wp_closeSocket_valid (s := ⟨p.var .pClient, p.os, []⟩) rfl hvalid)
  · obtain ⟨res, ⟨ids, htrace⟩, -, hsocket⟩ := h
    refine serves_after fun c hc => ?_
    obtain ⟨hfd, hcloses, hserved⟩ := hP c hc
    rw [htrace]
    refine (follows_free ids).append fun _ d hd => ?_
    subst hd
    refine (follows_close hfd hserved (Or.inl hcloses) res).mono fun d hd => ?_
    obtain ⟨hdfd, hdserved, hdcloses⟩ := hd
    rw [hcloses, List.nil_append] at hdcloses
    rw [Process.after_var_self]
    cases res with
    | ok _ => exact .closed (by simpa using hsocket) (by simp [hdcloses])
    -- a descriptor whose `close` failed is kept, for the destructor to close
    | fail e =>
      have hkept : t.self.m_socket = (p.var .pClient).m_socket := by simpa using hsocket
      exact .opened (hkept ▸ hvalid) (by rw [hdfd, hkept]) hdserved (Or.inr ⟨e, hdcloses⟩)
  · obtain ⟨ids, htrace⟩ := h
    refine does_after fun c _ => ?_
    rw [htrace]
    exact (follows_free ids).mono fun _ _ => trivial

/-- What was heard when `Receive` has returned: if it failed, the last `recv` has failed, and otherwise
the last is the one that took the bytes. -/
theorem Heard.of_received {errno n : Int} {out : Option Bytes} {t : State}
    (hsocket : t.self.m_socket = fd) (hcalls : ∀ e ∈ t.trace, Receipt fd MAX_PACKET e)
    (hsane : ∀ e ∈ t.trace, e.Sane) (hreceived : Received errno out t) (hnone : out = none)
    (hcount : n = t.self.m_nBytesReceived) (hfreed : n = -1 → t.self.m_pBuffer = none) :
    Heard t.self n ⟨some fd, heardIn t.trace, removedIn t.trace, false, []⟩ := by
  have hint : InInt32 MAX_PACKET := by decide
  refine ⟨by rw [hsocket], rfl, rfl, ?_⟩
  obtain ⟨res, hheard, hres⟩ := hreceived.heard
  -- the bytes of a `recv` are as many as it counts
  have hcounted : ∀ bs, res = .ok bs → t.self.m_nBytesReceived = bs.length := by
    rintro bs rfl
    have hle := length_le_of_receipts hcalls hsane (mem_removedIn_of_heardIn hheard)
    have hint' : InInt32 (bs.length : Int) := ⟨by omega, hle.trans hint.2⟩
    rw [hres]
    exact narrow_eq_self.mpr hint'
  rcases hreceived.result with ⟨hfail, -⟩ | ⟨-, hlanded⟩
  -- `Receive` failed, and has freed the buffer
  · refine Or.inl ⟨by rw [CSimpleSocket.getData, hfreed (hcount.trans hfail)]; rfl, ?_⟩
    cases res with
    | fail e => exact ⟨e, hheard⟩
    | ok bs =>
      have hlen := hcounted bs rfl
      omega
  · obtain ⟨bs, block, hremoved, hlen, hblock, htake⟩ := hlanded hsane
    rw [hnone] at hblock
    have hsize : toSizeT t.self.getBytesReceived = bs.length := by
      have hmem : bs ∈ removedIn t.trace := by simp [hremoved]
      rw [CSimpleSocket.getBytesReceived, hlen]
      exact toSizeT_natCast ⟨by omega, (length_le_of_receipts hcalls hsane hmem).trans hint.2⟩
    have hdata : t.self.getData = some block := hblock
    have hlast : res = .ok bs := by
      cases res with
      | fail e =>
        rw [hres] at hlen
        have hneg : narrow (((Answer.fail e : Answer Bytes).count List.length).ret) = -1 :=
          narrow_neg_one
        omega
      | ok bs' =>
        have hmem := mem_removedIn_of_heardIn hheard
        rw [hremoved, List.mem_singleton] at hmem
        rw [hmem]
    refine Or.inr ⟨bs, by rw [hheard, hlast], hremoved, by rw [hsize, hdata]; exact htake, ?_⟩
    rw [hcount, hlen, Int.natCast_eq_zero, List.length_eq_zero_iff]

/-- `pClient->Receive(MAX_PACKET)`. -/
theorem serves_receive (hconn : Attached fd (p.var .pClient)) :
    wp (invoke .pClient (receive MAX_PACKET none))
      (fun r q => Attached fd (q.var .pClient) ∧
        Serves lfd (· = .connected fd) (Heard (q.var .pClient) r.1) p q)
      (fun _ q => Does lfd (· = .connected fd) (fun _ => True) p q) p := by
  -- by the protocol its calls lead to a client that was received from
  have hfollows : ∀ t : State, (∀ e ∈ t.trace, Receipt fd MAX_PACKET e) →
      Follows lfd (.connected fd) t.trace
        (· = ⟨some fd, heardIn t.trace, removedIn t.trace, false, []⟩) := by
    intro t hcalls
    have h : Follows lfd (.connected fd) t.trace
        (· = ⟨some fd, (heardIn t.trace).or none, [] ++ removedIn t.trace, false, []⟩) :=
      follows_receipts hcalls none []
    rwa [Option.or_none, List.nil_append] at h
  rw [wp_invoke]
  refine wp_mono (fun r t h => ?_) (fun _ t h => ?_)
    (wp_receive_attached (s := ⟨p.var .pClient, p.os, []⟩) rfl hconn (by decide) (by decide))
  · obtain ⟨hconn', hcalls, hreceived, hnone, hcount, hfreed⟩ := h
    refine ⟨by rwa [Process.after_var_self], serves_after fun c hc hsane => ?_⟩
    obtain rfl : c = .connected fd := hc
    obtain ⟨haccepts, hafter⟩ := hfollows t hcalls hsane
    refine ⟨haccepts, ?_⟩
    rw [hafter, Process.after_var_self]
    exact .of_received hconn'.socket hcalls hsane hreceived hnone hcount hfreed
  · refine does_after fun c hc => ?_
    obtain rfl : c = .connected fd := hc
    exact (hfollows t h).mono fun _ _ => trivial

/-- The calls of a `Send` of what was heard: `send` of what was taken, and none if nothing was. -/
theorem follows_reply {n : Int} {s t : State} {as : List (Answer ℕ)} (hsocket : s.self.m_socket = fd)
    (hc : Heard s.self n c) (hn : n ≠ 0)
    (hcalls : SendCalls s.self.getData (toSizeT s.self.getBytesReceived) s t as) :
    Follows lfd c t.trace fun d => d.fd = some fd ∧ d.closes = [] ∧
      ((0 < toSizeT s.self.getBytesReceived → s.self.getData ≠ none → as ≠ []) → d.Served) := by
  have hfd : c.fd = some fd := by rw [hc.hfd, hsocket]
  rw [hcalls.trace_eq]
  rcases hc.echoes with ⟨hnone, e, hfail⟩ | ⟨data, hheard, htaken, hdata, hne⟩
  -- a failed `Receive` has left no buffer to send
  · have has : as = [] := by
      by_contra hmade
      exact (hcalls.made hmade).2.2 hnone
    rw [has]
    exact .nil ⟨hfd, hc.closes, fun _ => ⟨_, hfail, fun _ h => by cases h⟩⟩
  · have hsome : data ≠ [] := fun h => hn (hne.mpr h)
    rw [hdata, hsocket]
    obtain ⟨fd', heard, taken, answered, closes⟩ := c
    obtain rfl : fd' = some fd := hfd
    obtain rfl : taken = [data] := htaken
    obtain rfl : closes = [] := hc.closes
    refine (follows_sends hsome heard answered as).mono fun d hd => ?_
    subst hd
    refine ⟨rfl, rfl, fun hmade => ⟨_, hheard, fun _ _ _ => ?_⟩⟩
    -- bytes were taken, so there was something to send
    have has : as ≠ [] := hmade
      (by
        by_contra hzero
        rw [Nat.eq_zero_of_not_pos hzero, List.take_zero] at hdata
        exact hsome hdata.symm)
      (by
        intro hnone
        rw [hnone, Option.getD_none, List.take_nil] at hdata
        exact hsome hdata.symm)
    cases as with
    | nil => exact absurd rfl has
    | cons a as => simp

/-- `pClient->Send(pClient->GetData(), pClient->GetBytesReceived())`. -/
theorem serves_send {n : Int} (hconn : Attached fd (p.var .pClient)) (hn : n ≠ 0) :
    wp (invoke .pClient (virtualSend .active (p.var .pClient).getData
        (toSizeT (p.var .pClient).getBytesReceived)))
      (fun _ q => Attached fd (q.var .pClient) ∧ Serves lfd (Heard (p.var .pClient) n)
        (Answered fd) p q)
      (fun _ q => Does lfd (Heard (p.var .pClient) n) (fun _ => True) p q) p := by
  rw [wp_invoke]
  refine wp_mono (fun _ t h => ?_) (fun _ t h => ?_)
    (wp_send_attached (s := ⟨p.var .pClient, p.os, []⟩) _ _ rfl hconn)
  · obtain ⟨hconn', -, as, hend⟩ := h
    refine ⟨by rwa [Process.after_var_self], serves_after fun c hc =>
      (follows_reply (s := ⟨p.var .pClient, p.os, []⟩) hconn.socket hc hn hend.toSendCalls).mono
        fun d hd => ⟨hd.1, hd.2.1, hd.2.2 ?_⟩⟩
    exact hend.called (by rw [hconn.socket]; exact hconn.valid)
  · obtain ⟨as, hcalls⟩ := h
    exact does_after fun c hc => (follows_reply (s := ⟨p.var .pClient, p.os, []⟩) hconn.socket hc hn
      hcalls).mono fun _ _ => trivial

/-- **A client is served** as the protocol has it, and has left when its object is gone. -/
theorem serves_client (hconn : Attached fd (p.var .pClient)) :
    wp serveClient (fun _ q => Serves lfd (· = .connected fd) Client.Gone p q)
      (fun _ q => Does lfd (· = .connected fd) (fun _ => True) p q) p := by
  have hdelete : ∀ {P : Client → Prop} {q}, Serves lfd (· = .connected fd) P p q →
      (∀ c, P c → Leaving (q.var .pClient) c) →
        wp (invoke .pClient (destroy .active)) (fun _ r => Serves lfd (· = .connected fd) Client.Gone p r)
          (fun _ r => Does lfd (· = .connected fd) (fun _ => True) p r) q := by
    intro P q hq hP
    refine wp_mono (fun _ r hr => hq.trans ⟨hr.1, hr.2.mono hP⟩)
      (fun _ r hr => hq.2.trans (hr.mono hP)) serves_destroy
  rw [serveClient, wp_bind]
  refine wp_mono (fun r q h => ?_) (fun _ _ h => h) (serves_receive hconn)
  obtain ⟨hconn₁, hreceived⟩ := h
  rw [wp_bind, wp_when]
  refine ⟨fun hne => ?_, fun hzero => ?_⟩
  · simp only [wp_bind, wp_object]
    refine wp_mono (fun _ q₂ h => ?_) (fun _ _ h => hreceived.2.trans h) (serves_send hconn₁ hne)
    obtain ⟨hconn₂, hsent⟩ := h
    refine wp_mono (fun _ q₃ h => ?_) (fun _ _ h => (hreceived.trans hsent).2.trans h)
      (serves_close (by rw [hconn₂.socket]; exact hconn₂.valid) fun c hc => by
        rw [hconn₂.socket]
        exact hc)
    exact hdelete ((hreceived.trans hsent).trans h) fun c hc => hc
  -- the other end has closed: there is nothing to answer
  · refine hdelete hreceived fun c hc => ?_
    have hzero : r.1 = 0 := not_not.mp hzero
    have hserved : c.Served := by
      rcases hc.echoes with ⟨-, e, hfail⟩ | ⟨data, hheard, -, -, hempty⟩
      · exact ⟨_, hfail, fun _ h => by cases h⟩
      · refine ⟨_, hheard, fun bs hbs hne => absurd ?_ hne⟩
        cases hbs
        exact hempty.mp hzero
    exact .opened (by rw [hconn₁.socket]; exact hconn₁.valid) hc.hfd hserved (Or.inl hc.closes)

end

/-! ### The loop -/

/-- An object that listens on `lfd`. -/
structure Listening (lfd : Int) (o : CSimpleSocket) : Prop where
  socket : o.m_socket = lfd
  type : o.m_nSocketType = .socketTypeTcp
  valid : lfd ≠ -1

section

variable {lfd : Int} {p : Process Var String}

/-- Failed calls of `accept` change nothing. -/
theorem follows_rejections {c : Client} (hgone : c.Gone) (fails : List Errno) :
    Follows lfd c (rejections lfd fails) (· = c) := by
  induction fails with
  | nil => exact .nil rfl
  | cons e fails ih => exact .cons ⟨rfl, hgone⟩ ih

theorem follows_unaccepted {c : Client} (hgone : c.Gone) {calls : Trace} (h : Unaccepted lfd calls) :
    Follows lfd c calls fun _ => True := by
  cases h with
  | rejected fails => exact (follows_rejections hgone fails).mono fun _ _ => trivial
  | opened fails fd peer =>
    refine (follows_rejections hgone fails).append fun _ d hd => ?_
    subst hd
    exact .cons ⟨rfl, hgone⟩ (.nil trivial)
  | named fails fd peer name =>
    refine (follows_rejections hgone fails).append fun _ d hd => ?_
    subst hd
    exact .cons ⟨rfl, hgone⟩ (.cons rfl (.nil trivial))

/-- `socket.Accept()`. -/
theorem does_accept (raw : CSimpleSocket) (hl : Listening lfd (p.var .socket)) :
    wp (invoke .socket (accept raw))
      (fun r q => Listening lfd (q.var .socket) ∧ match r with
        | none => Does lfd Client.Gone Client.Gone p q
        | some client => ∃ fd, Attached fd client ∧ Does lfd Client.Gone (· = .connected fd) p q)
      (fun _ q => Does lfd Client.Gone (fun _ => True) p q) p := by
  rw [wp_invoke]
  refine wp_mono (fun r t h => ?_) (fun _ t h => ?_)
    (wp_conj (wp_accept raw ⟨p.var .socket, p.os, []⟩)
      (wp_accept_unaccepted (s := ⟨p.var .socket, p.os, []⟩) raw rfl))
  · obtain ⟨⟨hsame, fails, hr⟩, -⟩ := h
    refine ⟨?_, ?_⟩
    · rw [Process.after_var_self]
      exact ⟨hsame.socket.trans hl.socket, hsame.type.trans hl.type, hl.valid⟩
    have hlfd : (p.var .socket).m_socket = lfd := hl.socket
    cases r with
    | none =>
      -- every `accept` failed: the one before stays gone
      obtain ⟨-, htrace⟩ := hr
      refine does_after fun c hc => ?_
      rw [htrace, List.nil_append, hlfd]
      exact (follows_rejections hc fails).mono fun d hd => hd ▸ hc
    | some client =>
      -- the connection is taken whatever is answered for its names
      obtain ⟨fd, peer, name', name, rfl, htrace⟩ := hr
      refine ⟨fd, attached_accepted raw fd peer name, does_after fun c hc => ?_⟩
      rw [htrace, List.nil_append, hlfd]
      refine (follows_rejections hc fails).append fun _ d hd => ?_
      subst hd
      exact .cons ⟨rfl, hc⟩ (.cons rfl (.cons rfl (.nil rfl)))
  · refine does_after fun c hc => follows_unaccepted hc ?_
    rw [← hl.socket]
    exact h.2

/-- A round of the loop serves a client, or none. -/
theorem serveRound_does (raws : ℕ → CSimpleSocket) (k : ℕ) (hl : Listening lfd (p.var .socket)) :
    wp (serveRound raws k)
      (Round.post (fun _ q => Listening lfd (q.var .socket) ∧ Does lfd Client.Gone Client.Gone p q)
        fun _ _ => False)
      (fun _ q => Does lfd Client.Gone (fun _ => True) p q) p := by
  have hvalid : (p.var .socket).isSocketValid = true := by
    rw [isSocketValid_iff, hl.socket]
    exact hl.valid
  rw [serveRound, wp_bind, wp_object, if_pos hvalid, wp_bind]
  refine wp_mono (fun r q h => ?_) (fun _ _ h => h) (does_accept (raws k) hl)
  obtain ⟨hl', hr⟩ := h
  cases r with
  | none => exact ⟨hl', hr⟩
  | some client =>
    obtain ⟨fd, hconn, hdoes⟩ := hr
    rw [wp_bind, wp_assignObject, wp_bind]
    refine wp_mono (fun _ u h => ?_) (fun _ u h => hdoes.trans h)
      (serves_client (p := q.set .pClient client) (by rwa [Process.set_var_self]))
    obtain ⟨hsame, hserved⟩ := h
    rw [Process.set_var_ne _ _ _ (by decide)] at hsame
    exact ⟨by rwa [hsame], hdoes.trans hserved⟩

/-- **The loop** is never left, and nobody is being served between its rounds. -/
theorem loop_does (raws : ℕ → CSimpleSocket) (rounds : ℕ) (hl : Listening lfd (p.var .socket)) :
    wp (iter (.inCall .waiting) (serveRound raws) rounds 0) (fun _ _ => False)
      (fun _ q => Does lfd Client.Gone (fun _ => True) p q) p := by
  refine wp_iter (fun _ _ q => Listening lfd (q.var .socket) ∧ Does lfd Client.Gone Client.Gone p q)
    ?round ?out rounds 0 p ⟨hl, .refl fun _ h => h⟩
  case out => exact fun _ q hq => hq.2.trans (.refl fun _ _ => trivial)
  case round =>
    rintro _ k q ⟨hlq, hdoes⟩
    refine wp_mono (fun r u h => ?_) (fun _ u h => hdoes.trans h) (serveRound_does raws k hlq)
    cases r with
    | again j => exact ⟨h.1, hdoes.trans h.2⟩
    | leave _ => exact h

end

/-! ### The whole program -/

/-- What the program calls before its first `Accept`. -/
def opening (fd : ℕ) (s_addr : UInt32) (res res' : Answer Unit) : Trace :=
  .socket AF_INET CSocketType.socketTypeTcp.code (.ok fd) ::
    listeningCalls fd ⟨AF_INET, htons 6789, s_addr⟩ 30000 res res'

/-- A trace that is no more than preparation, or goes on from there as the protocol has it. -/
inductive Conforms (inet_addr : String → UInt32) (t : Trace) : Prop where
  | preparing (calls : ∀ e ∈ t, e.isOpening)
  | serving (fd : ℕ) (res res' : Answer Unit) (calls : Trace)
    (trace_eq : t = opening fd (boundAddress inet_addr (some "127.0.0.1")) res res' ++ calls)
    (follows : (∀ e ∈ calls, e.Sane) → (echo fd).Accepts .nobody calls)

section

variable {α : Type} {p : Process Var String}

/-- Preparing, whether it gets through or not. -/
theorem prepares {x : M α} (hx : Keeps Opens x) (v : Var) (hp : ∀ e ∈ p.trace, e.isOpening) :
    wp (invoke v x) (fun _ q => ∀ e ∈ q.trace, e.isOpening) (fun _ q => ∀ e ∈ q.trace, e.isOpening)
      p := by
  have hadd : ∀ t, Opens ⟨p.var v, p.os, []⟩ t → ∀ e ∈ p.trace ++ t.trace, e.isOpening := by
    rintro t ⟨calls, ht, hall⟩
    rw [ht, List.nil_append]
    exact List.forall_mem_append.mpr ⟨hp, hall⟩
  rw [wp_invoke]
  exact wp_mono (fun _ t h => hadd t h) (fun _ t h => hadd t h) (hx ⟨p.var v, p.os, []⟩)

/-- And what is known of the method where it returns. -/
theorem prepares_to {x : M α} {Q : α → Process Var String → Prop} (hx : Keeps Opens x) (v : Var)
    (hp : ∀ e ∈ p.trace, e.isOpening)
    (h : wp x (fun a t => Q a (p.after v t)) (fun _ _ => True) ⟨p.var v, p.os, []⟩) :
    wp (invoke v x) (fun a q => (∀ e ∈ q.trace, e.isOpening) ∧ Q a q)
      (fun _ q => ∀ e ∈ q.trace, e.isOpening) p := by
  have hreturns : wp (invoke v x) Q (fun _ _ => True) p := (wp_invoke v x).mpr h
  exact wp_mono (fun _ _ h => h) (fun _ _ h => h.1) (wp_conj (prepares hx v hp) hreturns)

/-- With a socket that is not valid the loop is left at once. -/
theorem loop_leaves (raws : ℕ → CSimpleSocket) (rounds : ℕ) (hinvalid : (p.var .socket).m_socket = -1) :
    wp (iter (.inCall .waiting) (serveRound raws) rounds 0) (fun _ q => q = p) (fun _ q => q = p) p := by
  refine wp_iter (fun _ _ q => q = p) ?round (fun _ _ h => h) rounds 0 p rfl
  rintro _ k q rfl
  rw [serveRound, wp_bind, wp_object, if_neg (by simpa using hinvalid)]
  exact rfl

/-- After `Initialize`, which got this answer from `socket`. -/
structure Initialized (p q : Process Var String) (res : Answer ℕ) : Prop where
  trace_eq : q.trace = [.socket AF_INET CSocketType.socketTypeTcp.code res]
  type : (q.var .socket).m_nSocketType = .socketTypeTcp
  socket : (q.var .socket).m_socket = res.ret
  bind : q.os.script.bind = p.os.script.bind
  listen : q.os.script.listen = p.os.script.listen
  inet_addr : q.os.inet_addr = p.os.inet_addr

/-- After `Listen`, which returned `r`. -/
structure Listened (p : Process Var String) (res : Answer ℕ) (r : Bool) (u : Process Var String) :
    Prop where
  failed : r = false → headFails p.os.script.bind = true ∨ headFails p.os.script.listen = true
  socket : r = true → (u.var .socket).m_socket = res.ret
  type : r = true → (u.var .socket).m_nSocketType = .socketTypeTcp
  trace_eq : r = true → ∃ res' res'',
    u.trace = .socket AF_INET CSocketType.socketTypeTcp.code res :: listeningCalls res.ret
      ⟨AF_INET, htons 6789, boundAddress p.os.inet_addr (some "127.0.0.1")⟩ 30000 res' res''

/-- `socket.Initialize()`. -/
theorem main_initializeSocket (hp : p.trace = []) (htype : (p.var .socket).m_nSocketType = .socketTypeTcp)
    (hdomain : (p.var .socket).m_nSocketDomain = AF_INET) :
    wp (invoke .socket initializeSocket)
      (fun _ q => (∀ e ∈ q.trace, e.isOpening) ∧
        ∃ res rest, p.os.script.socket = res :: rest ∧ Initialized p q res)
      (fun _ q => ∀ e ∈ q.trace, e.isOpening) p := by
  refine prepares_to opens_initializeSocket .socket (by simp [hp]) ?_
  refine wp_mono (fun _ t h => ?_) (fun _ _ h => h) (wp_initializeSocket_call _)
  obtain ⟨htype', hbind, hlisten, hinet, res, rest, hhead, hsocket, htrace⟩ := h
  refine ⟨res, rest, hhead, ?_, ?_, ?_, hbind, hlisten, hinet⟩
  · rw [Process.after_trace, hp, htrace, htype, hdomain]
    rfl
  · rw [Process.after_var_self, htype', htype]
  · rw [Process.after_var_self, hsocket]

/-- `socket.Listen("127.0.0.1", 6789)`. -/
theorem main_listen {q : Process Var String} {res : Answer ℕ} (hq : Initialized p q res)
    (hprepared : ∀ e ∈ q.trace, e.isOpening) :
    wp (invoke .socket (listen (some "127.0.0.1") 6789 30000))
      (fun r u => (∀ e ∈ u.trace, e.isOpening) ∧ Listened p res r u)
      (fun _ u => ∀ e ∈ u.trace, e.isOpening) q := by
  refine prepares_to (opens_listen (some "127.0.0.1") 6789 30000) .socket hprepared ?_
  refine wp_mono (fun r t h => ?_) (fun _ _ _ => trivial)
    (wp_conj (wp_listen (some "127.0.0.1") 6789 30000 ⟨q.var .socket, q.os, []⟩)
      (wp_listen_listening (s := ⟨q.var .socket, q.os, []⟩) (some "127.0.0.1") 6789 30000 hq.type))
  obtain ⟨⟨hr, -⟩, hlistening⟩ := h
  refine ⟨fun hfalse => ?_, fun htrue => ?_, fun htrue => ?_, fun htrue => ?_⟩
  · rw [hfalse, eq_comm, Bool.not_eq_false'] at hr
    rw [← hq.bind, ← hq.listen]
    exact (Bool.or_eq_true_iff.mp hr).imp id fun h => (Bool.and_eq_true_iff.mp h).2
  · rw [Process.after_var_self, (hlistening htrue).1]
    exact hq.socket
  · rw [Process.after_var_self, (hlistening htrue).2.1]
  · obtain ⟨-, -, res', res'', htrace⟩ := hlistening htrue
    refine ⟨res', res'', ?_⟩
    rw [Process.after_trace, hq.trace_eq, htrace, ← hq.inet_addr, ← hq.socket]
    rfl

/-- **`main`.** -/
theorem main_conforms (raws : ℕ → CSimpleSocket) (rounds : ℕ) (hp : p.trace = []) :
    wp (main raws rounds)
      (fun r q => r = 1 ∧ (∀ e ∈ q.trace, e.isOpening) ∧ (headFails p.os.script.socket = true ∨
        headFails p.os.script.bind = true ∨ headFails p.os.script.listen = true))
      (fun _ q => Conforms p.os.inet_addr q.trace) p := by
  rw [main, wp_bind, wp_declare, wp_bind]
  refine wp_mono (fun _ q h => ?_) (fun _ q h => .preparing h)
    (main_initializeSocket (by simp [hp]) (by simp [CSimpleSocket.construct])
      (by simp [CSimpleSocket.construct]))
  obtain ⟨hcalls, res, rest, hhead, hq⟩ := h
  rw [wp_bind]
  refine wp_mono (fun r u h => ?_) (fun _ u h => .preparing h) (main_listen hq hcalls)
  obtain ⟨hprepared, hlistened⟩ := h
  cases r with
  | false =>
    simp only [if_true, wp_bind, wp_object, wp_print]
    refine wp_mono (fun _ v h => ?_) (fun _ v h => .preparing h)
      (prepares (opens_destroy .passive) .socket hprepared)
    exact ⟨rfl, h, Or.inr (hlistened.failed rfl)⟩
  | true =>
    have hsocket := hlistened.socket rfl
    obtain ⟨res', res'', htrace⟩ := hlistened.trace_eq rfl
    rw [if_neg (by decide), wp_bind]
    cases res with
    | ok fd =>
      have hl : Listening fd (u.var .socket) := ⟨hsocket, hlistened.type rfl, by omega⟩
      refine wp_mono (fun _ _ h => h.elim) (fun _ v h => ?_) (loop_does raws rounds hl)
      obtain ⟨calls, hv, hfollows⟩ := h
      exact .serving fd res' res'' calls (by rw [hv, htrace]; rfl) fun hsane =>
        (hfollows .nobody (Or.inl rfl) hsane).1
    -- `Listen` may succeed without a descriptor: the loop is left, and there is nothing to close
    | fail e =>
      refine wp_mono (fun _ v h => ?_) (fun _ v h => ?_) (loop_leaves raws rounds hsocket)
      · subst h
        rw [wp_bind]
        refine wp_mono (fun _ v h => ?_) (fun _ v h => .preparing h)
          (prepares opens_closeSocket .socket hprepared)
        rw [wp_bind]
        refine wp_mono (fun _ v h => ⟨rfl, h, Or.inl ?_⟩) (fun _ v h => .preparing h)
          (prepares (opens_destroy .passive) .socket h)
        rw [Process.set_os] at hhead
        rw [hhead]
        rfl
      · subst h
        exact .preparing hprepared

/-- One client comes, and sends two bytes. -/
def oneClient : Process Var String where
  var _ := .zeroed
  os := .idle {
    socket := [.ok 3], setsockopt := [.ok (), .ok ()], bind := [.ok ()], listen := [.ok ()]
    accept := [.ok (4, .zero)], getpeername := [.ok .zero], getsockname := [.ok .zero]
    recv := [.ok [7, 8]], send := [.ok 2], close := [.ok ()] }
  trace := []
  printed := []

/-- While the server waits for the next. -/
def served : Process Var String := (main (fun _ => .zeroed) 2 oneClient).state

set_option maxRecDepth 20000 in
theorem main_conforms_served :
    .send 4 [7, 8] (.ok 2) ∈ served.trace ∧ Conforms oneClient.os.inet_addr served.trace := by
  refine ⟨by decide +kernel, ?_⟩
  have hempty : oneClient.trace = [] := rfl
  have hanswered : ¬ (headFails oneClient.os.script.socket = true ∨
      headFails oneClient.os.script.bind = true ∨ headFails oneClient.os.script.listen = true) := by
    decide
  unfold served
  -- so that the run is not evaluated again
  generalize oneClient = p at hempty hanswered ⊢
  refine wp_state (P := fun q : Process Var String => Conforms p.os.inet_addr q.trace) ?_
  exact wp_mono (fun _ _ h => absurd h.2.2 hanswered) (fun _ _ h => h)
    (main_conforms (fun _ => .zeroed) 2 hempty)

end

end EchoServer

end ClSocket
