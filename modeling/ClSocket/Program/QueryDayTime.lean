import ClSocket.Memory.Owned
import ClSocket.Program.Talk

/-!
# The time client

`examples/QueryDayTime.cpp` connects to a time server, sends a request, receives once and copies the 49
bytes at the front of the buffer to an array of 50, the last of which is zero, to print them as a
string.

It does so whatever `Receive` has returned. A `Receive` that fails leaves no buffer to copy from, and
this is the one way for `main` itself to leave a block of memory (`main_prints`). Otherwise the buffer
has 49 bytes, as many as were asked for however few have come (`wp_receive_room`): what is printed
begins with what was received, and goes on with what the new block held unless there was a zero in it.

Where `Receive` has the system put the bytes is not looked at here. After an interruption it is not the
front of the buffer, so what is said of a run is about one in which no call is interrupted.
-/

namespace ClSocket.QueryDayTime

open Prog CSimpleSocket

/-! ### The program -/

/-- The object of `main`. -/
inductive Var where
  | socket
  deriving DecidableEq, Repr

/-- `time`, after the `memcpy`, as a string. -/
def timeText : Program Var Bytes Bytes := do
  let o ← object .socket
  let time ← memcpy (List.replicate 50 0) o.getData 49
  cString time

/-- What `main` does on the connection. -/
def query : Program Var Bytes Unit := do
  let n ← invoke .socket (virtualSend .active (some [10]) 1)
  when (n ≠ 0) (do
    let _ ← invoke .socket (receive 49 none)
    let text ← timeText
    print text
    let _ ← invoke .socket closeSocket)

/-- `main`. -/
def main : Program Var Bytes Int := do
  declare .socket .socketTypeTcp
  let _ ← invoke .socket initializeSocket
  let opened ← invoke .socket (CActiveSocket.openSocket (some "time-C.timefreq.bldrdoc.gov") 13)
  when (opened = true) query
  invoke .socket (destroy .active)
  return 1

/-! ### Room in the buffer -/

/-- There is a buffer, of this length at least. -/
def Roomy (n : Int) (o : CSimpleSocket) : Prop := ∃ b, o.m_pBuffer = some b ∧ n ≤ b.data.length

theorem roomy_of_shape {n : Int} {a b : CSimpleSocket} (h : a.shape = b.shape) (hb : Roomy n b) :
    Roomy n a := by
  obtain ⟨y, hy, hroom⟩ := hb
  simp only [shape, Prod.mk.injEq, hy, Option.map_some, Option.map_eq_some_iff] at h
  obtain ⟨⟨x, hx, -, hsame⟩, -⟩ := h
  exact ⟨x, hx, hsame ▸ hroom⟩

/-- The object after a `Receive` of up to `n` bytes that has returned `r`. -/
structure Supplied (n r : Int) (o : CSimpleSocket) : Prop where
  count : o.m_nBytesReceived = r
  freed : r = -1 → o.m_pBuffer = none
  roomy : r ≠ -1 → Roomy n o

/-- **`Receive` leaves a buffer of the length asked for**, or none if it fails, however few bytes have
come and whatever interrupts it. -/
theorem wp_receive_room {n : Int} {s : State} (hpos : 0 < n) (hvalid : s.self.m_socket ≠ -1)
    (hok : BufferOk s.self) :
    wp (receive n none) (fun r t => Supplied n r.1 t.self) (fun _ _ => True) s := by
  rw [wp_receive_iff]
  refine ⟨fun hinv => absurd hinv (by simpa using hvalid), fun _ => ⟨fun _ => ?_, fun h => absurd rfl h⟩⟩
  refine wp_mono (fun _ u hu => ?_) (fun _ _ _ => trivial)
    (wp_provideBuffer (t := s.upd fun o => { o with m_nBytesReceived := 0 }) hpos hok)
  simp only [receiveTimed, wp_bind, wp_setSocketError, wp_timerInitialize, wp_setStartTime,
    wp_setEndTime, wp_translateSocketError, wp_this, wp_when, wp_deleteBuffer, wp_pure]
  refine wp_mono (fun out v h => ?_) (fun _ _ _ => trivial)
    (frame_receiveLoop spared_shape_receive n none _)
  -- the loop writes into the block, and leaves its length
  have hroom : Roomy n v.self := roomy_of_shape h.1 hu.room
  exact ⟨fun hfail => ⟨rfl, fun _ => rfl, fun hne => absurd hfail hne⟩,
    fun hne => ⟨rfl, fun hfail => absurd hfail hne, fun _ => hroom⟩⟩

/-! ### What is printed -/

/-- The string begins with what was received, up to the first zero in that. -/
def Shown (got text : Bytes) : Prop :=
  got.takeWhile (· ≠ 0) <+: text ∧ (0 ∈ got → text = got.takeWhile (· ≠ 0))

theorem shown_takeWhile (got rest : Bytes) : Shown got ((got ++ rest).takeWhile (· ≠ 0)) := by
  rw [List.takeWhile_append]
  split
  · rename_i hlength
    have hall : got.takeWhile (· ≠ 0) = got := (List.takeWhile_prefix _).eq_of_length hlength
    refine ⟨(List.takeWhile_prefix _).trans (List.prefix_append _ _), fun hzero => ?_⟩
    have hne : (0 : UInt8) ≠ 0 := by simpa using List.takeWhile_eq_self_iff.mp hall 0 hzero
    exact absurd rfl hne
  · exact ⟨List.prefix_rfl, fun _ => rfl⟩

/-- Nothing has been printed, or after a `Receive` that did not fail a string that fits in the array. -/
def Printed (q : Process Var Bytes) : Prop :=
  q.printed = [] ∨ (q.var .socket).getBytesReceived ≠ -1 ∧
    ∃ text, q.printed = [text] ∧ text.length ≤ 49 ∧ (Calm q.trace → Shown q.got text)

/-- What is known of the program when it does not go on: a fault is due to a failed `Receive`. -/
structure Cut (e : Halt) (q : Process Var Bytes) : Prop where
  printed : Printed q
  fault : e = .fault → q.printed = [] ∧ (q.var .socket).getBytesReceived = -1 ∧
    (q.var .socket).getData = none

section

variable {α : Type} {p q : Process Var Bytes}

/-- A call that has moved nothing has left the count of the last `Receive`. -/
structure Parted (p q : Process Var Bytes) : Prop extends Idle .socket p q where
  count : (q.var .socket).m_nBytesReceived = (p.var .socket).m_nBytesReceived

/-- Closing parts. -/
theorem wp_part {x : M α} (hx : Keeps (Conduct (.mute (p.var .socket))) x)
    (hcount : Keeps (Frame CSimpleSocket.m_nBytesReceived fun _ => false) x)
    (ho : Proper (p.var .socket)) :
    wp (invoke .socket x) (fun _ q => Parted p q ∧ Proper (q.var .socket)) (fun _ q => Parted p q) p := by
  have hkept : wp (invoke .socket x)
      (fun _ q => (q.var .socket).m_nBytesReceived = (p.var .socket).m_nBytesReceived)
      (fun _ q => (q.var .socket).m_nBytesReceived = (p.var .socket).m_nBytesReceived) p :=
    wp_invoke_self (P := fun _ o => o.m_nBytesReceived = _) (R := fun o => o.m_nBytesReceived = _)
      (wp_mono (fun _ _ h => h.1) (fun _ _ h => h.1) (hcount ⟨p.var .socket, p.os, []⟩))
  exact wp_mono (fun _ _ h => ⟨⟨h.1.1, h.2⟩, h.1.2⟩) (fun _ _ h => ⟨h.1, h.2⟩)
    (wp_conj (wp_idle hx ho) hkept)

/-- The count is not what closing writes. -/
theorem spared_count : SparedByClose CSimpleSocket.m_nBytesReceived fun _ => false where
  code _ _ := rfl
  timer _ _ := rfl
  bytesSent _ _ := rfl
  linger _ _ := rfl
  connectTimeout _ _ := rfl
  recvTimeout _ _ := rfl
  sendTimeout _ _ := rfl
  fds _ _ _ _ := rfl
  shutdown _ _ _ := rfl
  setsockopt _ _ _ _ _ _ := rfl
  getsockopt _ _ _ _ _ := rfl
  select _ _ _ _ _ _ := rfl
  send _ _ _ := rfl
  sendto _ _ _ _ := rfl
  writev _ _ _ := rfl
  lseek _ _ _ := rfl
  read _ _ _ := rfl
  socket _ _ := rfl
  buffer _ _ := rfl
  server _ _ := rfl
  multicastGroup _ _ := rfl
  close _ _ := rfl
  free _ := rfl
  bind _ _ _ := rfl
  listen _ _ _ := rfl

theorem wp_part_closeSocket (ho : Proper (p.var .socket)) :
    wp (invoke .socket closeSocket) (fun _ q => Parted p q ∧ Proper (q.var .socket))
      (fun _ q => Parted p q) p :=
  wp_part conduct_closeSocket (frame_closeSocket spared_count) ho

theorem wp_part_destroy (ho : Proper (p.var .socket)) :
    wp (invoke .socket (destroy .active)) (fun _ q => Parted p q ∧ Proper (q.var .socket))
      (fun _ q => Parted p q) p :=
  wp_part (conduct_destroy .active) (keeps_bind (keeps_ite (keeps_bind (frame_closeSocket spared_count)
    fun _ => keeps_pure _) (keeps_pure _)) fun _ => frame_deleteBuffer spared_count) ho

theorem Printed.parted (h : Printed p) (hq : Parted p q) : Printed q := by
  unfold Printed
  rw [hq.printed, hq.got, getBytesReceived, hq.count]
  refine h.imp_right ?_
  rintro ⟨hcount, text, hprinted, hlength, hshown⟩
  exact ⟨hcount, text, hprinted, hlength, fun hcalm => hshown (hq.calm hcalm)⟩

theorem Printed.cut {e : Halt} (h : Printed p) (he : e ≠ .fault) : Cut e p :=
  ⟨h, fun hfault => absurd hfault he⟩

/-- The copy of the buffer, after `Receive` has returned `r`. -/
theorem timeText_shows {r : Int} (hgot : p.got = []) (hprinted : q.printed = [])
    (hheard : Calm q.trace → Heard 49 p q (q.var .socket) r)
    (hsupplied : Supplied 49 r (q.var .socket)) {Q : Bytes → Process Var Bytes → Prop}
    (hQ : ∀ text : Bytes, r ≠ -1 → text.length ≤ 49 → (Calm q.trace → Shown q.got text) → Q text q) :
    wp timeText Q Cut q := by
  rw [timeText, wp_bind, wp_object]
  by_cases hfail : r = -1
  · have hdata : (q.var .socket).getData = none := by
      rw [getData, hsupplied.freed hfail]
      rfl
    rw [hdata]
    exact ⟨Or.inl hprinted, fun _ => ⟨hprinted, hsupplied.count.trans hfail, hdata⟩⟩
  obtain ⟨b, hb, hlong⟩ := hsupplied.roomy hfail
  have hdata : (q.var .socket).getData = some b.data := by
    rw [getData, hb]
    rfl
  rw [hdata]
  simp only [wp_bind, wp_memcpy_some, wp_cString, List.drop_replicate, takeWhile_filled]
  have hfits : 49 ≤ b.data.length ∧ 49 ≤ (List.replicate 50 (0 : UInt8)).length := by
    rw [List.length_replicate]
    omega
  refine ⟨fun _ => ⟨fun _ => ?_, fun hfull => ?_⟩, fun hshort => absurd hfits hshort⟩
  · refine hQ _ hfail ((List.takeWhile_prefix _).length_le.trans (List.length_take_le ..)) fun hcalm => ?_
    cases hheard hcalm with
    | nothing _ hsame =>
      rw [hsame, hgot]
      exact ⟨List.nil_prefix, fun h => by cases h⟩
    | bytes bs block _ hle hsame hblock hfront =>
      obtain rfl : b.data = block := Option.some.inj (hdata.symm.trans hblock)
      -- the 49 bytes are what has come and what follows it in the block
      have hprefix : bs <+: b.data.take 49 := by
        rw [← hfront]
        exact List.take_prefix_take_left (by omega)
      obtain ⟨rest, hrest⟩ := hprefix
      rw [hsame, hgot, List.nil_append, ← hrest]
      exact shown_takeWhile bs rest
  · exact absurd (List.mem_append_right _ (List.mem_replicate.mpr ⟨by decide, rfl⟩)) hfull

/-- On a connection over which nothing has been moved. -/
structure Asking (q : Process Var Bytes) : Prop where
  talking : Talking (q.var .socket)
  settled : q.Settled
  got : q.got = []
  printed : q.printed = []

/-- The end of `query`. -/
structure Queried (q : Process Var Bytes) : Prop where
  printed : Printed q
  unprinted : q.printed = [] → q.got = []
  proper : Proper (q.var .socket)

/-- What is done on the connection. -/
theorem query_prints (hp : Asking p) (hvalid : (p.var .socket).m_socket ≠ -1) :
    wp query (fun _ q => Queried q) Cut p := by
  have hkept : wp (invoke .socket (virtualSend .active (some [10]) 1))
      (fun _ q => (q.var .socket).m_socket = (p.var .socket).m_socket) (fun _ _ => True) p :=
    wp_invoke_self (P := fun _ o => o.m_socket = _) (R := fun _ => True)
      (wp_mono (fun _ _ h => h.steady.socket) (fun _ _ _ => trivial) (quiet_virtualSend .active _ _ _))
  rw [query, wp_bind]
  -- `Send`: nothing is received or printed, and the descriptor stays
  refine wp_mono (fun n q h => ?_) (fun e q h => ?_) (wp_inCall (wp_conj
    (wp_talk_send .active (some [10]) 1 hp.talking hp.settled) hkept))
  swap
  · exact Printed.cut (Or.inl (h.2.1.printed.trans hp.printed)) h.1
  obtain ⟨⟨htalked, hspoke⟩, hsocket⟩ := h
  have hgot := hspoke.got.trans hp.got
  have hprinted := htalked.printed.trans hp.printed
  rw [wp_when]
  refine ⟨fun _ => ?_, fun _ => ⟨Or.inl hprinted, fun _ => hgot, htalked.talking.proper⟩⟩
  -- `Receive`: what it returned, and the room it has left in the buffer
  have hroom : wp (invoke .socket (receive 49 none)) (fun r u => Supplied 49 r.1 (u.var .socket))
      (fun _ _ => True) q :=
    wp_invoke_self (P := fun r o => Supplied 49 (Prod.fst r) o) (R := fun _ => True)
      (wp_receive_room (by decide) (hsocket ▸ hvalid) htalked.talking.buffer)
  rw [wp_bind]
  refine wp_mono (fun r u h => ?_) (fun e u h => ?_) (wp_inCall (wp_conj
    (wp_talk_receive (by decide) (by decide) htalked.talking htalked.settled) hroom))
  swap
  · exact Printed.cut (Or.inl (h.2.1.1.printed.trans hprinted)) h.1
  obtain ⟨⟨htalked', -, hheard⟩, hsupplied⟩ := h
  rw [wp_bind]
  -- `main` does not look at what was returned before it copies
  refine timeText_shows hgot (htalked'.printed.trans hprinted) hheard hsupplied
    fun text hsome hlength hshown => ?_
  rw [wp_bind, wp_print, wp_bind]
  have hshows : Printed { u with printed := u.printed ++ [text] } := by
    refine Or.inr ⟨fun hfail => hsome (hsupplied.count.symm.trans hfail), text, ?_, hlength, hshown⟩
    rw [htalked'.printed, hprinted, List.nil_append]
  -- closing changes nothing of what has been printed or received
  refine wp_mono (fun _ w hw => ⟨hshows.parted hw.1, fun hempty => ?_, hw.2⟩)
    (fun e w hw => (hshows.parted hw.2).cut hw.1)
    (wp_inCall (wp_part_closeSocket htalked'.talking.proper))
  rw [hw.1.printed] at hempty
  exact absurd hempty (by simp)

/-- `Open` returns `true` on a valid socket only. -/
theorem wp_openSocket_valid (pAddr : Option String) (nPort : UInt16) (s : State) :
    wp (CActiveSocket.openSocket pAddr nPort) (fun r t => r = true → t.self.m_socket ≠ -1)
      (fun _ _ => True) s := by
  have hvalid : wp (CActiveSocket.openSocket pAddr nPort) (fun r _ => r = true → s.self.m_socket ≠ -1)
      (fun _ _ => True) s := by
    unfold CActiveSocket.openSocket
    rw [wp_bind, wp_this, wp_ite]
    refine ⟨fun _ => ?_, fun hvalid => ?_⟩
    · rw [wp_bind, wp_setSocketError, wp_pure]
      intro h
      cases h
    · exact wp_mono (fun _ _ _ _ => by simpa using hvalid) (fun _ _ _ => trivial) (wp_trivial _ _)
  refine wp_mono (fun r t h htrue => ?_) (fun _ _ _ => trivial)
    (wp_conj (steady_openSocket pAddr nPort s) hvalid)
  rw [h.1.socket]
  exact h.2 htrue

/-- **The time client** prints one string at most, in whatever way the system answers, and the copies
`main` makes leave a block of memory after a failed `Receive` only. -/
theorem main_prints (hp : p.trace = []) (hprinted : p.printed = []) :
    wp main (fun r q => r = 1 ∧ Printed q ∧ (q.printed = [] → q.got = [])) Cut p := by
  rw [main, wp_bind, wp_declare, wp_bind]
  have hstart : Talking ((p.set .socket (.construct (p.var .socket) .socketTypeTcp)).var .socket) := by
    rw [Process.set_var_self]
    exact ⟨proper_construct _ _, rfl, fun _ h => by cases h⟩
  refine wp_mono (fun _ q₁ h => ?_) (fun e q h => ?_) (wp_inCall (wp_talk_initializeSocket hstart))
  swap
  · exact Printed.cut (Or.inl (h.2.printed.trans hprinted)) h.1
  -- until the connection is there nothing is sent, received or printed
  have h₁ : Asking q₁ := by
    refine ⟨h.1.talking, h.1.settled, h.2.got.trans ?_, h.2.printed.trans hprinted⟩
    simp [Process.got, hp]
  have hopen : wp (invoke .socket (CActiveSocket.openSocket (some "time-C.timefreq.bldrdoc.gov") 13))
      (fun r q => r = true → (q.var .socket).m_socket ≠ -1) (fun _ _ => True) q₁ :=
    wp_invoke_self (P := fun r o => r = true → o.m_socket ≠ -1) (R := fun _ => True)
      (wp_openSocket_valid _ _ _)
  rw [wp_bind]
  refine wp_mono (fun opened q₂ h => ?_) (fun e q h => ?_) (wp_inCall (wp_conj
    (wp_talk_mute .active (.openSocket _ _) rfl rfl rfl h₁.talking h₁.settled) hopen))
  swap
  · exact Printed.cut (Or.inl (h.2.1.printed.trans h₁.printed)) h.1
  obtain ⟨⟨htalked, hidle⟩, hvalid⟩ := h
  have h₂ : Asking q₂ := ⟨htalked.talking, htalked.settled, hidle.got.trans h₁.got,
    hidle.printed.trans h₁.printed⟩
  -- either way `main` ends with the destructor
  have hdelete : ∀ q, Queried q → wp (invoke .socket (destroy .active) >>= fun _ => pure (1 : Int))
      (fun r u => r = 1 ∧ Printed u ∧ (u.printed = [] → u.got = [])) Cut q := by
    intro q hq
    rw [wp_bind]
    refine wp_mono (fun _ u hu => ⟨rfl, hq.printed.parted hu.1, fun hempty => ?_⟩)
      (fun e u hu => (hq.printed.parted hu.2).cut hu.1)
      (wp_inCall (wp_part_destroy hq.proper))
    rw [hu.1.got]
    exact hq.unprinted (hu.1.printed.symm.trans hempty)
  rw [wp_bind, wp_when]
  refine ⟨fun htrue => ?_, fun _ => ?_⟩
  · exact wp_mono (fun _ q h => hdelete q h) (fun _ _ h => h) (query_prints h₂ (hvalid htrue))
  · exact hdelete q₂ ⟨Or.inl h₂.printed, fun _ => h₂.got, h₂.talking.proper⟩

end

/-! A `Receive` that the server resets. -/

/-- The program at the start. -/
def start : Process Var Bytes where
  var _ := .zeroed
  os := .idle {
    socket := [.ok 3], gethostbyname := [.found 0], connect := [.ok ()], getpeername := [.ok .zero]
    getsockname := [.ok .zero], send := [.ok 1], recv := [.fail ⟨ECONNRESET, by decide⟩] }
  trace := []
  printed := []

set_option maxRecDepth 20000 in
/-- It copies from a null pointer. -/
theorem main_prints_reset : halted (main start) = some .fault ∧ (main start).state.printed = [] ∧
    ((main start).state.var .socket).getData = none := by
  -- under another name, so that the run is not evaluated again
  obtain ⟨p, hp, htrace, hprinted, hhalted⟩ : ∃ p, start = p ∧ p.trace = [] ∧ p.printed = [] ∧
      halted (main p) = some .fault := ⟨start, rfl, rfl, rfl, by decide +kernel⟩
  rw [hp]
  have hfault := (wp_halted (main_prints htrace hprinted) hhalted).fault rfl
  exact ⟨hhalted, hfault.1, hfault.2.2⟩

end ClSocket.QueryDayTime
