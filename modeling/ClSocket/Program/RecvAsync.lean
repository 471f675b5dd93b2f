import ClSocket.Program.Talk

/-!
# The asynchronous receiver

`examples/RecvAsync.cpp` runs two threads. One (`createTCPEchoServer`) accepts a client and sends
back what it gets from it, a block at a time; the other (`main`) connects, sends `TEST_PACKET` and
receives without blocking until that many bytes have come back, printing each piece as a string.

Either thread keeps to its part whatever the other does: the server has sent back a part of what it
got (`server_echoes`), and the client has printed the front of what it got (`client_prints`). That is
not enough for the client, which copies a piece of up to `MAX_PACKET` bytes into a block of 1024: a
server that sent more would make it write past the end. It is the two together that are safe, in
every interleaving, as long as no call is interrupted (`recvAsync_prints`).
-/

namespace ClSocket.RecvAsync

open Prog CSimpleSocket

/-! ### The program -/

/-- `struct thread_data`. -/
structure ThreadData where
  pszServerAddr : String
  nPort : Int16
  nNumBytesToReceive : Int
  nTotalPayloadSize : Int

/-- The objects of the server's thread. -/
inductive ServerVar where
  | socket
  | pClient
  deriving DecidableEq, Repr

/-- The object of the client's. -/
inductive ClientVar where
  | client
  deriving DecidableEq, Repr

/-- What the client prints. -/
inductive Line where
  /-- `received %d bytes: '%s'`. -/
  | received (numBytes : Int) (result : Bytes)
  /-- `Received %d bytes`. -/
  | count (numBytes : Int)
  deriving DecidableEq, Repr

def MAX_PACKET : Int := 4096

def TEST_PACKET : Bytes := "Test Packet".toList.map fun c => c.toNat.toUInt8

/-- A round of the server's loop. -/
def echoRound (pData : ThreadData) (nBytesReceived : Int) :
    Program ServerVar Line (Round Int Unit) := do
  if nBytesReceived ≠ pData.nTotalPayloadSize then
    let (n, _) ← invoke .pClient (receive pData.nNumBytesToReceive none)
    let nBytesReceived := narrow (nBytesReceived + n)
    when (nBytesReceived ≠ 0) (do
      let o ← object .pClient
      let _ ← invoke .pClient (virtualSend .active o.getData (toSizeT o.getBytesReceived)))
    return .again nBytesReceived
  else return .leave ()

/-- What the server does with a client. -/
def echoClient (pData : ThreadData) (rounds : ℕ) : Option CSimpleSocket → Program ServerVar Line Unit
  | some client => do
    assignObject .pClient client
    iter (.inCall .waiting) (echoRound pData) rounds 0
    invoke .pClient (destroy .active)
  | none => return ()

/-- `CreateTCPEchoServer`; `raw` is what the storage of the new object holds. -/
def createTCPEchoServer (pData : ThreadData) (raw : CSimpleSocket) (rounds : ℕ) :
    Program ServerVar Line Unit := do
  declare .socket .socketTypeTcp
  let _ ← invoke .socket initializeSocket
  let _ ← invoke .socket
    (CPassiveSocket.listen (some pData.pszServerAddr) pData.nPort.toUInt16 30000)
  let pClient ← invoke .socket (CPassiveSocket.accept raw)
  echoClient pData rounds pClient
  let _ ← invoke .socket closeSocket
  invoke .socket (destroy .passive)

/-- The piece that has been received, copied to `result` after a `memset` and read as a string. -/
def resultText (numBytes : Int) : Program ClientVar Line Bytes := do
  let o ← object .client
  let result ← memcpy (List.replicate 1024 0) o.getData (toSizeT numBytes)
  cString result

/-- A round of the client's loop. -/
def receiveRound (bytesReceived : Int) : Program ClientVar Line (Round Int Unit) := do
  if toSizeT bytesReceived ≠ TEST_PACKET.length then
    let (numBytes, _) ← invoke .client (receive MAX_PACKET none)
    if 0 < numBytes then
      let text ← resultText numBytes
      print (.received numBytes text)
      return .again (narrow (bytesReceived + numBytes))
    else
      print (.count numBytes)
      return .again bytesReceived
  else return .leave ()

/-- What `main` hands to the thread. -/
def thData : ThreadData where
  pszServerAddr := "127.0.0.1"
  nPort := 6789
  nNumBytesToReceive := 1
  nTotalPayloadSize := TEST_PACKET.length

/-- What `main` does on the connection. -/
def sendAndReceive (rounds : ℕ) : Program ClientVar Line Unit := do
  let n ← invoke .client (virtualSend .active (some TEST_PACKET) TEST_PACKET.length)
  when (n ≠ 0) (do
    let _ ← invoke .client (select 0 0)
    iter (.inCall .waiting) receiveRound rounds 0)

/-- `main`, less the thread it creates. -/
def main (rounds : ℕ) : Program ClientVar Line Int := do
  declare .client .socketTypeTcp
  let _ ← invoke .client initializeSocket
  let _ ← invoke .client setNonblocking
  let opened ← invoke .client (CActiveSocket.openSocket (some "127.0.0.1") 6789)
  when (opened = true) (sendAndReceive rounds)
  invoke .client (destroy .active)
  return 0

/-! ### The server -/

/-- What has been sent back is a part of what was taken. -/
def Echoed (p : Process ServerVar Line) : Prop := Calm p.trace → p.sent.Sublist p.got

/-- Both objects can be talked over. -/
structure Serving (p : Process ServerVar Line) : Prop where
  talking : ∀ v, Talking (p.var v)
  settled : p.Settled
  echoed : Echoed p

section

variable {p q : Process ServerVar Line} {v : ServerVar}

theorem Echoed.idle (h : Echoed p) (hq : Idle v p q) : Echoed q := by
  intro hcalm
  rw [hq.sent, hq.got]
  exact h (hq.calm hcalm)

/-- After a call on either. -/
theorem Serving.talked (h : Serving p) (hq : Talked v p q) (hechoed : Echoed q) : Serving q := by
  refine ⟨fun w => ?_, hq.settled, hechoed⟩
  rcases eq_or_ne w v with rfl | hne
  · exact hq.talking
  · rw [hq.others w hne]
    exact h.talking w

/-- `nBytesReceived += pClient->Receive(pData->nNumBytesToReceive)` and what it leads to. -/
theorem echoRound_serves {pData : ThreadData} (hpos : 0 < pData.nNumBytesToReceive)
    (hmax : InInt32 pData.nNumBytesToReceive) (nBytesReceived : Int) (hp : Serving p) :
    wp (echoRound pData nBytesReceived) (Round.post (fun _ q => Serving q) fun _ q => Serving q)
      (fun _ q => Echoed q) p := by
  rw [echoRound, wp_ite]
  refine ⟨fun _ => ?_, fun _ => hp⟩
  rw [wp_bind]
  refine wp_mono (fun r q h => ?_) (fun _ q h hcalm => ?_)
    (wp_talk_receive hpos hmax (hp.talking .pClient) hp.settled)
  · obtain ⟨htalked, hsent, hheard⟩ := h
    -- what has been sent is a part of what there was before
    have hbefore : Calm q.trace → q.sent.Sublist p.got := fun hcalm => by
      rw [hsent]
      exact hp.echoed (htalked.calm hcalm)
    have hechoed : Echoed q := fun hcalm => by
      cases hheard hcalm with
      | nothing _ hgot => exact hgot ▸ hbefore hcalm
      | bytes bs _ _ _ hgot => exact hgot ▸ (hbefore hcalm).trans (List.sublist_append_left ..)
    have hserving := hp.talked htalked hechoed
    -- and what is sent now is in what has come
    have hreply : ∀ u, Spoke .pClient (q.var .pClient).getData
        (toSizeT (q.var .pClient).getBytesReceived) q u → Echoed u := by
      intro u hu hcalm
      obtain ⟨data, hdata, husent⟩ := hu.sent hcalm
      have hq := hu.calm hcalm
      rw [husent, hu.got]
      exact (hheard hq).reply (hbefore hq) hdata
    simp only [wp_bind, wp_when, wp_object, wp_pure]
    refine ⟨fun _ => ?_, fun _ => hserving⟩
    refine wp_mono (fun _ u h => ?_) (fun _ u h => hreply u h)
      (wp_talk_send .active _ _ (hserving.talking .pClient) hserving.settled)
    exact hserving.talked h.1 (hreply u h.2)
  · obtain ⟨hlater, hsent, hgot⟩ := h
    rw [hsent]
    exact (hp.echoed (hlater.calm hcalm)).trans hgot.sublist

/-- What the server does with a client, and how it goes on from there. -/
theorem echoClient_serves {pData : ThreadData} (hpos : 0 < pData.nNumBytesToReceive)
    (hmax : InInt32 pData.nNumBytesToReceive) (rounds : ℕ) {pClient : Option CSimpleSocket}
    (hclient : ∀ client, pClient = some client → Talking client) (hsocket : Talking (p.var .socket))
    (hsettled : p.Settled) (hp : Echoed p) :
    wp (echoClient pData rounds pClient) (fun _ q => Proper (q.var .socket) ∧ Echoed q)
      (fun _ q => Echoed q) p := by
  cases pClient with
  | none => exact ⟨hsocket.proper, hp⟩
  | some client =>
    -- the invariant of the loop: both objects can be talked over, and what is sent has been got
    have hserving : Serving (p.set .pClient client) := by
      refine ⟨fun v => ?_, hsettled, hp⟩
      cases v with
      | socket =>
        rw [Process.set_var_ne _ _ _ (by decide)]
        exact hsocket
      | pClient =>
        rw [Process.set_var_self]
        exact hclient client rfl
    rw [echoClient, wp_bind, wp_assignObject, wp_bind]
    refine wp_mono (fun _ q hq => ?_) (fun _ _ h => h)
      (wp_iter (fun _ _ q => Serving q) (fun _ n q hq => echoRound_serves hpos hmax n hq)
        (fun _ q hq => hq.echoed) rounds 0 _ hserving)
    refine wp_mono (fun _ u hu => ⟨?_, hq.echoed.idle hu.1⟩)
      (fun _ u hu => hq.echoed.idle hu)
      (wp_idle (conduct_destroy .active) (hq.talking .pClient).proper)
    rw [hu.1.others .socket (by decide)]
    exact (hq.talking .socket).proper

/-- `Accept` returns an object to talk over. -/
theorem accept_talking (raw : CSimpleSocket) (s : State) :
    wp (CPassiveSocket.accept raw) (fun r _ => ∀ client, r = some client → Talking client)
      (fun _ _ => True) s := by
  refine wp_mono (fun r t h => ?_) (fun _ _ h => h) (CPassiveSocket.wp_accept raw s)
  obtain ⟨-, fails, hr⟩ := h
  rintro client rfl
  obtain ⟨fd, peer, name', name, rfl, -⟩ := hr
  exact ⟨proper_accepted raw fd peer name, rfl, fun _ h => by cases h⟩

/-- **The server's part.** -/
theorem server_echoes {pData : ThreadData} (hpos : 0 < pData.nNumBytesToReceive)
    (hmax : InInt32 pData.nNumBytesToReceive) (raw : CSimpleSocket) (rounds : ℕ) (hp : p.trace = []) :
    wp (createTCPEchoServer pData raw rounds) (fun _ q => Echoed q) (fun _ q => Echoed q) p := by
  have hstart : Echoed (p.set .socket (.construct (p.var .socket) .socketTypeTcp)) := fun _ => by
    simp [Process.sent, hp]
  rw [createTCPEchoServer, wp_bind, wp_declare, wp_bind]
  -- nothing moves before there is a client, so nothing has been sent that was not got
  refine wp_mono (fun _ q₁ h₁ => ?_) (fun _ q h => hstart.idle h) (wp_talk_initializeSocket ?constructed)
  case constructed =>
    rw [Process.set_var_self]
    exact ⟨proper_construct _ _, rfl, fun _ h => by cases h⟩
  rw [wp_bind]
  refine wp_mono (fun _ q₂ h₂ => ?_) (fun _ q h => (hstart.idle h₁.2).idle h)
    (wp_talk_mute .passive (.listen _ _ _) rfl rfl rfl h₁.1.talking h₁.1.settled)
  have hlistening := (hstart.idle h₁.2).idle h₂.2
  -- the client `Accept` makes is an object to talk over, the listener stays one
  have hclient : wp (invoke .socket (CPassiveSocket.accept raw))
      (fun r _ => ∀ client, r = some client → Talking client) (fun _ _ => True) q₂ :=
    (wp_invoke _ _).mpr (accept_talking raw _)
  rw [wp_bind]
  refine wp_mono (fun r q₃ h => ?_) (fun _ q h => hlistening.idle h.1)
    (wp_conj (wp_talk_mute .passive (.accept raw) rfl rfl rfl h₂.1.talking h₂.1.settled)
      hclient)
  obtain ⟨⟨h₃, hidle₃⟩, hclient⟩ := h
  rw [wp_bind]
  refine wp_mono (fun _ q₄ h₄ => ?_) (fun _ _ h => h)
    (echoClient_serves hpos hmax rounds hclient h₃.talking h₃.settled (hlistening.idle hidle₃))
  obtain ⟨hproper₄, hechoed₄⟩ := h₄
  rw [wp_bind]
  -- closing and deleting moves nothing either
  refine wp_mono (fun _ q₅ h₅ => ?_) (fun _ _ h => hechoed₄.idle h)
    (wp_idle conduct_closeSocket hproper₄)
  have hechoed₅ := hechoed₄.idle h₅.1
  exact wp_mono (fun _ _ h => hechoed₅.idle h.1) (fun _ _ h => hechoed₅.idle h)
    (wp_idle (conduct_destroy .passive) h₅.2)

end

/-! ### The client -/

/-- The lines for these bytes, in pieces. -/
inductive Shows : List Line → Bytes → Prop where
  | nil : Shows [] []
  | received {lines : List Line} {got : Bytes} (bs : Bytes) (h : Shows lines got) :
      Shows (lines ++ [.received bs.length (bs.takeWhile (· ≠ 0))]) (got ++ bs)
  | count {lines : List Line} {got : Bytes} (n : Int) (hn : n ≤ 0) (h : Shows lines got) :
      Shows (lines ++ [.count n]) got

/-- The client has sent no more than the packet, and has printed what has come. -/
structure Along (q : Process ClientVar Line) : Prop where
  sent : Calm q.trace → q.sent <+: TEST_PACKET
  shows : Calm q.trace → Shows q.printed q.got

/-- It can go on. -/
structure Receiving (q : Process ClientVar Line) : Prop extends Along q where
  talking : Talking (q.var .client)
  settled : q.Settled

/-- What is known of it when it does not go on. -/
structure Cut (e : Halt) (q : Process ClientVar Line) : Prop where
  sent : Calm q.trace → q.sent <+: TEST_PACKET
  shows : Calm q.trace → ∃ got, got <+: q.got ∧ Shows q.printed got
  /-- It has run out of the block when that much had come. -/
  fault : e = .fault → Calm q.trace → 1024 ≤ q.got.length

section

variable {p q : Process ClientVar Line}

theorem narrow_add_narrow (a b : Int) : narrow (narrow a + b) = narrow (a + b) := by
  unfold narrow
  exact Int.bmod_add_bmod

/-- A fault is due to a piece that does not fit with its terminator. -/
theorem Receiving.faulted {r : Int} (hp : Receiving p) (htalked : Talked .client p q)
    (hsent : q.sent = p.sent) (hheard : Calm q.trace → Heard MAX_PACKET p q (q.var .client) r)
    (hr : 0 < r) (hlong : Calm q.trace → 1024 ≤ toSizeT r) : Cut .fault q := by
  refine ⟨fun hcalm => ?_, fun hcalm => ⟨p.got, ?_, ?_⟩, fun _ hcalm => ?_⟩
  · rw [hsent]
    exact hp.sent (htalked.calm hcalm)
  · obtain ⟨bs, -, -, -, hgot, -⟩ := (hheard hcalm).of_pos (by decide) hr
    exact hgot ▸ List.prefix_append _ _
  · rw [htalked.printed]
    exact hp.shows (htalked.calm hcalm)
  · obtain ⟨bs, -, -, hsize, hgot, -⟩ := (hheard hcalm).of_pos (by decide) hr
    have hle := hlong hcalm
    rw [hgot, List.length_append]
    omega

/-- The piece that has been received, as it is copied and printed. -/
theorem resultText_shows {r : Int} (htalked : Talked .client p q) (hp : Receiving p)
    (hsent : q.sent = p.sent) (hheard : Calm q.trace → Heard MAX_PACKET p q (q.var .client) r)
    (hr : 0 < r) {Q : Bytes → Process ClientVar Line → Prop}
    (hQ : ∀ text, (Calm q.trace → ∃ bs : Bytes, r = bs.length ∧ q.got = p.got ++ bs ∧
      text = bs.takeWhile (· ≠ 0)) → Q text q) :
    wp (resultText r) Q Cut q := by
  have hfault := hp.faulted htalked hsent hheard hr
  rw [resultText, wp_bind, wp_object]
  cases hdata : (q.var .client).getData with
  | none =>
    -- a `Receive` with a positive count has left a buffer
    refine hfault fun hcalm => ?_
    obtain ⟨bs, block, -, -, -, hblock, -⟩ := (hheard hcalm).of_pos (by decide) hr
    rw [hdata] at hblock
    cases hblock
  | some block =>
    have hfront : Calm q.trace → ∃ bs : Bytes, r = bs.length ∧ toSizeT r = bs.length ∧
        q.got = p.got ++ bs ∧ block.take (toSizeT r) = bs ∧ bs.length ≤ block.length := by
      intro hcalm
      obtain ⟨bs, block', hr, hsize, hgot, hblock, hfront⟩ := (hheard hcalm).of_pos (by decide) hr
      obtain rfl : block = block' := Option.some.inj (hdata.symm.trans hblock)
      refine ⟨bs, hr, hsize, hgot, by rw [hsize, hfront], ?_⟩
      rw [← hfront, List.length_take]
      omega
    simp only [wp_bind, wp_memcpy_some, wp_cString, List.drop_replicate]
    refine ⟨fun hfits => ⟨fun _ => hQ _ fun hcalm => ?_, fun hfull => hfault fun _ => ?_⟩, fun hlong =>
      hfault fun hcalm => ?_⟩
    -- the piece fits in front of the zeros of `result`
    · obtain ⟨bs, hr, -, hgot, htake, -⟩ := hfront hcalm
      exact ⟨bs, hr, hgot, by rw [htake, takeWhile_filled]⟩
    -- no zero is left behind it: then it fills all 1024
    · by_contra hshort
      refine hfull (List.mem_append_right _ (List.mem_replicate.mpr ⟨?_, rfl⟩))
      omega
    -- it is longer than `result`
    · obtain ⟨bs, -, hsize, -, -, hle⟩ := hfront hcalm
      rw [List.length_replicate] at hlong
      omega

/-- After a piece has come and is printed. -/
theorem Receiving.received {r : Int} {text : Bytes} (hp : Receiving p) (htalked : Talked .client p q)
    (hsent : q.sent = p.sent) (htext : Calm q.trace → ∃ bs : Bytes, r = bs.length ∧
      q.got = p.got ++ bs ∧ text = bs.takeWhile (· ≠ 0)) :
    Receiving { q with printed := q.printed ++ [.received r text] } := by
  refine ⟨⟨fun hcalm => ?_, fun hcalm => ?_⟩, htalked.talking, htalked.settled⟩
  · show q.sent <+: TEST_PACKET
    rw [hsent]
    exact hp.sent (htalked.calm hcalm)
  · obtain ⟨bs, hr, hgot, rfl⟩ := htext hcalm
    show Shows (q.printed ++ [_]) q.got
    rw [hr, hgot, htalked.printed]
    exact .received bs (hp.shows (htalked.calm hcalm))

/-- After nothing has come, and that is printed. -/
theorem Receiving.counted {r : Int} (hp : Receiving p) (htalked : Talked .client p q)
    (hsent : q.sent = p.sent) (hr : r ≤ 0) (hsame : Calm q.trace → q.got = p.got) :
    Receiving { q with printed := q.printed ++ [.count r] } := by
  refine ⟨⟨fun hcalm => ?_, fun hcalm => ?_⟩, htalked.talking, htalked.settled⟩
  · show q.sent <+: TEST_PACKET
    rw [hsent]
    exact hp.sent (htalked.calm hcalm)
  · show Shows (q.printed ++ [_]) q.got
    rw [hsame hcalm, htalked.printed]
    exact .count r hr (hp.shows (htalked.calm hcalm))

/-- A round of the loop. -/
theorem receiveRound_shows {bytesReceived : Int} (hp : Receiving p)
    (hcount : Calm p.trace → bytesReceived = narrow p.got.length) :
    wp (receiveRound bytesReceived)
      (Round.post (fun n q => Receiving q ∧ (Calm q.trace → n = narrow q.got.length))
        fun _ q => q = p ∧ toSizeT bytesReceived = TEST_PACKET.length)
      Cut p := by
  rw [receiveRound, wp_ite]
  refine ⟨fun _ => ?_, fun hall => ⟨rfl, not_not.mp hall⟩⟩
  rw [wp_bind]
  refine wp_mono (fun r q h => ?_) (fun e q h => ?_)
    (wp_inCall (wp_talk_receive (by decide) (by decide) hp.talking hp.settled))
  · obtain ⟨htalked, hsent, hheard⟩ := h
    rw [wp_ite]
    refine ⟨fun hsome => ?_, fun hnone => ?_⟩
    · rw [wp_bind]
      refine resultText_shows htalked hp hsent hheard hsome fun text htext => ?_
      rw [wp_bind, wp_print]
      refine ⟨hp.received htalked hsent htext, fun hcalm => ?_⟩
      -- the count goes up by the length of the piece, around the range of an `int`
      obtain ⟨bs, hr, hgot, -⟩ := htext hcalm
      show _ = narrow (q.got.length)
      rw [hcount (htalked.calm hcalm), hr, narrow_add_narrow, hgot, List.length_append, Nat.cast_add]
    · have hsame : Calm q.trace → q.got = p.got := fun hcalm =>
        (hheard hcalm).of_nonpos (not_lt.mp hnone)
      refine ⟨hp.counted htalked hsent (not_lt.mp hnone) hsame, fun hcalm => ?_⟩
      show _ = narrow (q.got.length)
      rw [hsame hcalm]
      exact hcount (htalked.calm hcalm)
  -- `Receive` waits: what has been printed is what had come before
  · obtain ⟨hne, hlater, hsent, hgot⟩ := h
    refine ⟨fun hcalm => ?_, fun hcalm => ⟨p.got, hgot, ?_⟩, fun h => absurd h hne⟩
    · rw [hsent]
      exact hp.sent (hlater.calm hcalm)
    · rw [hlater.printed]
      exact hp.shows (hlater.calm hcalm)

/-- The client when it is done: it has printed nothing, or all it was to receive. -/
structure Finished (q : Process ClientVar Line) : Prop extends Along q where
  complete : q.printed = [] ∨ (Calm q.trace → toSizeT (narrow q.got.length) = TEST_PACKET.length)

theorem Along.idle (h : Along p) (hq : Idle .client p q) : Along q := by
  refine ⟨fun hcalm => ?_, fun hcalm => ?_⟩
  · rw [hq.sent]
    exact h.sent (hq.calm hcalm)
  · rw [hq.printed, hq.got]
    exact h.shows (hq.calm hcalm)

theorem Along.cut {e : Halt} (h : Along p) (he : e ≠ .fault) : Cut e p :=
  ⟨h.sent, fun hcalm => ⟨p.got, List.prefix_rfl, h.shows hcalm⟩, fun hf => absurd hf he⟩

/-- The loop. -/
theorem receiveLoop_shows (rounds : ℕ) (hp : Receiving p) (hgot : p.got = []) :
    wp (iter (.inCall .waiting) receiveRound rounds 0)
      (fun _ q => Receiving q ∧ (Calm q.trace → toSizeT (narrow q.got.length) = TEST_PACKET.length))
      Cut p := by
  refine wp_iter (fun _ n q => Receiving q ∧ (Calm q.trace → n = narrow q.got.length)) ?round ?out
    rounds 0 p ⟨hp, fun _ => by rw [hgot]; rfl⟩
  case out => exact fun _ q hq => hq.1.cut nofun
  case round =>
    rintro _ n q ⟨hq, hcount⟩
    refine wp_mono (fun r u h => ?_) (fun _ _ h => h) (receiveRound_shows hq hcount)
    cases r with
    | again m => exact h
    | leave _ =>
      obtain ⟨rfl, hall⟩ := h
      exact ⟨hq, fun hcalm => hcount hcalm ▸ hall⟩

/-- The client before it has moved anything. -/
structure Fresh (q : Process ClientVar Line) : Prop where
  talking : Talking (q.var .client)
  settled : q.Settled
  sent : q.sent = []
  got : q.got = []
  printed : q.printed = []

theorem along_of_empty (hsent : q.sent = []) (hgot : q.got = []) (hprinted : q.printed = []) : Along q :=
  ⟨fun _ => hsent ▸ List.nil_prefix, fun _ => by rw [hprinted, hgot]; exact .nil⟩

theorem Fresh.along (h : Fresh q) : Along q := along_of_empty h.sent h.got h.printed

/-- A call that moves nothing. -/
theorem fresh_mute {α : Type} (op : Op) {x : M α} {f : α → Ret} (hop : op.run .active = f <$> x)
    (hown : op.isOwn = true) (hmute : op.moves = false) (h : Fresh p) :
    wp (invoke .client x) (fun _ q => Fresh q) Cut p := by
  refine wp_mono (fun _ q hq => ?_) (fun e q hq => (h.along.idle hq.2).cut hq.1)
    (wp_inCall (wp_talk_mute .active op hop hown hmute h.talking h.settled))
  obtain ⟨htalked, hidle⟩ := hq
  exact ⟨htalked.talking, htalked.settled, hidle.sent.trans h.sent, hidle.got.trans h.got,
    hidle.printed.trans h.printed⟩

/-- What is done on the connection. -/
theorem sendAndReceive_shows (rounds : ℕ) (hp : Fresh p) :
    wp (sendAndReceive rounds) (fun _ q => Finished q ∧ Proper (q.var .client)) Cut p := by
  -- whatever `Send` has sent is a front part of the packet
  have hsends : ∀ {q}, Spoke .client (some TEST_PACKET) TEST_PACKET.length p q →
      Along q ∧ q.got = [] ∧ q.printed = [] := by
    intro q hq
    have hgot := hq.got.trans hp.got
    have hprinted := hq.printed.trans hp.printed
    refine ⟨⟨fun hcalm => ?_, fun _ => by rw [hprinted, hgot]; exact .nil⟩, hgot, hprinted⟩
    obtain ⟨data, hdata, hsent⟩ := hq.sent hcalm
    rw [hsent, hp.sent, List.nil_append]
    simpa using hdata
  rw [sendAndReceive, wp_bind]
  refine wp_mono (fun n q h => ?_) (fun e q h => (hsends h.2).1.cut h.1)
    (wp_inCall (wp_talk_send .active (some TEST_PACKET) TEST_PACKET.length hp.talking hp.settled))
  obtain ⟨htalked, hspoke⟩ := h
  obtain ⟨halong, hgot, hprinted⟩ := hsends hspoke
  rw [wp_when]
  refine ⟨fun _ => ?_, fun _ => ⟨⟨halong, Or.inl hprinted⟩, htalked.talking.proper⟩⟩
  rw [wp_bind]
  refine wp_mono (fun _ u h => ?_) (fun e u h => (halong.idle h.2).cut h.1)
    (wp_inCall (wp_talk_mute .active (.select 0 0) rfl rfl rfl htalked.talking
      htalked.settled))
  obtain ⟨htalked', hidle⟩ := h
  exact wp_mono (fun _ w h => ⟨⟨h.1.toAlong, Or.inr h.2⟩, h.1.talking.proper⟩) (fun _ _ h => h)
    (receiveLoop_shows rounds ⟨halong.idle hidle, htalked'.talking, htalked'.settled⟩
      (hidle.got.trans hgot))

/-- **The client's part.** -/
theorem client_prints (rounds : ℕ) (htrace : p.trace = []) (hprinted : p.printed = []) :
    wp (main rounds) (fun _ q => Finished q) Cut p := by
  rw [main, wp_bind, wp_declare]
  have hstart : Talking ((p.set .client (.construct (p.var .client) .socketTypeTcp)).var .client) := by
    rw [Process.set_var_self]
    exact ⟨proper_construct _ _, rfl, fun _ h => by cases h⟩
  have hsent : (p.set .client (.construct (p.var .client) .socketTypeTcp)).sent = [] := by
    simp [Process.sent, htrace]
  have hgot : (p.set .client (.construct (p.var .client) .socketTypeTcp)).got = [] := by
    simp [Process.got, htrace]
  rw [wp_bind]
  refine wp_mono (fun _ q₁ h => ?_)
    (fun e q h => ((along_of_empty hsent hgot hprinted).idle h.2).cut h.1)
    (wp_inCall (wp_talk_initializeSocket hstart))
  -- up to the connection the client has moved and printed nothing
  have h₁ : Fresh q₁ := ⟨h.1.talking, h.1.settled, h.2.sent.trans hsent, h.2.got.trans hgot,
    h.2.printed.trans hprinted⟩
  rw [wp_bind]
  refine wp_mono (fun _ q₂ h₂ => ?_) (fun _ _ h => h) (fresh_mute .setNonblocking rfl rfl rfl h₁)
  rw [wp_bind]
  refine wp_mono (fun opened q₃ h₃ => ?_) (fun _ _ h => h)
    (fresh_mute (.openSocket _ _) rfl rfl rfl h₂)
  -- the destructor takes nothing from what has been printed
  have hdelete : ∀ q, Finished q → Proper (q.var .client) →
      wp (invoke .client (destroy .active)) (fun _ u => Finished u) Cut q := by
    intro q hq hproper
    refine wp_mono (fun _ u hu => ⟨hq.toAlong.idle hu.1, ?_⟩) (fun e u hu =>
      (hq.toAlong.idle hu.2).cut hu.1) (wp_inCall (wp_idle (conduct_destroy .active) hproper))
    rw [hu.1.printed, hu.1.got]
    exact hq.complete.imp id fun h hcalm => h (hu.1.calm hcalm)
  rw [wp_bind, wp_when]
  refine ⟨fun _ => ?_, fun _ => ?_⟩
  · refine wp_mono (fun _ q₄ h₄ => ?_) (fun _ _ h => h) (sendAndReceive_shows rounds h₃)
    rw [wp_bind]
    exact wp_mono (fun _ _ h => h) (fun _ _ h => h) (hdelete q₄ h₄.1 h₄.2)
  · rw [wp_bind]
    exact wp_mono (fun _ _ h => h) (fun _ _ h => h)
      (hdelete q₃ ⟨h₃.along, Or.inl h₃.printed⟩ h₃.talking.proper)

end

/-! ### The two together -/

/-- The string of a line. -/
def Line.text : Line → Bytes
  | .received _ result => result
  | .count _ => []

/-- The number in a line is that of the bytes it shows, and none is counted where none is shown. -/
structure Counted (lines : List Line) : Prop where
  received : ∀ n result, .received n result ∈ lines → n = result.length
  count : ∀ n, .count n ∈ lines → n ≤ 0

/-- The lines print a part of the packet, and say how much of it. -/
structure Printed (lines : List Line) : Prop extends Counted lines where
  text : (lines.flatMap Line.text).Sublist TEST_PACKET

/-- One more line. -/
theorem Counted.concat {lines : List Line} {line : Line} (h : Counted lines)
    (hline : Counted [line]) : Counted (lines ++ [line]) :=
  ⟨fun n result hmem => (List.mem_append.mp hmem).elim (h.received n result)
      (hline.received n result),
    fun n hmem => (List.mem_append.mp hmem).elim (h.count n) (hline.count n)⟩

/-- Without a zero in it what has come is printed as it is. -/
theorem Shows.text {lines : List Line} {got : Bytes} (h : Shows lines got) (hzero : 0 ∉ got) :
    lines.flatMap Line.text = got ∧ Counted lines := by
  induction h with
  | nil => exact ⟨rfl, ⟨fun _ _ h => (by cases h), fun _ h => (by cases h)⟩⟩
  | @received lines got bs _ ih =>
    rw [List.mem_append, not_or] at hzero
    obtain ⟨htext, hcounts⟩ := ih hzero.1
    -- the string ends where the piece does
    have hall : bs.takeWhile (· ≠ 0) = bs :=
      List.takeWhile_eq_self_iff.mpr fun b hb => by
        simpa using fun h0 : b = 0 => hzero.2 (h0 ▸ hb)
    rw [hall]
    refine ⟨by rw [List.flatMap_append, htext]; simp [Line.text], hcounts.concat ⟨fun n result h => ?_,
      fun n h => by cases List.mem_singleton.mp h⟩⟩
    obtain ⟨rfl, rfl⟩ := Line.received.inj (List.mem_singleton.mp h)
    rfl
  | count n hn _ ih =>
    obtain ⟨htext, hcounts⟩ := ih hzero
    refine ⟨by rw [List.flatMap_append, htext]; simp [Line.text], hcounts.concat
      ⟨fun n result h => (by cases List.mem_singleton.mp h), fun m h => ?_⟩⟩
    obtain rfl := Line.count.inj (List.mem_singleton.mp h)
    exact hn

section

variable {log : List (Bool × Event)}

theorem calm_doneBy (hcalm : Calm (log.map Prod.snd)) (i : Bool) : Calm (Channel.doneBy i log) := by
  intro e he
  obtain ⟨x, hx, rfl⟩ := Channel.exists_of_mem_doneBy he
  exact hcalm x.2 (List.mem_map_of_mem hx)

/-- What has come to the client is a part of what it has sent. -/
theorem got_sublist {qC : Process ClientVar Line} {qS : Process ServerVar Line}
    (hclient : Channel.doneBy true log = qC.trace) (hserver : Channel.doneBy false log = qS.trace)
    (hcalm : Calm (log.map Prod.snd))
    (hlink : (Channel.monitor Event.put Event.took).Accepts (fun _ => []) log)
    (hechoed : Echoed qS) (hsent : Calm qC.trace → qC.sent <+: TEST_PACKET) :
    Calm qC.trace ∧ qC.got.Sublist TEST_PACKET := by
  have hback := Channel.took_prefix hlink false
  have hthere := Channel.took_prefix hlink true
  rw [Bool.not_false, hclient, hserver] at hback
  rw [Bool.not_true, hclient, hserver] at hthere
  have hcalmC := calm_doneBy hcalm true
  have hcalmS := calm_doneBy hcalm false
  rw [hclient] at hcalmC
  rw [hserver] at hcalmS
  exact ⟨hcalmC, hback.sublist.trans <| (hechoed hcalmS).trans <| hthere.sublist.trans
    (hsent hcalmC).sublist⟩

end

/-- **The client and the server**, over a link that keeps the bytes in order. -/
theorem recvAsync_prints {pC : Process ClientVar Line} {pS : Process ServerVar Line}
    {log : List (Bool × Event)} (raw : CSimpleSocket) (rounds rounds' : ℕ) (hC : pC.trace = [])
    (hprinted : pC.printed = []) (hS : pS.trace = [])
    (hclient : Channel.doneBy true log = (main rounds pC).state.trace)
    (hserver : Channel.doneBy false log = (createTCPEchoServer thData raw rounds' pS).state.trace)
    (hcalm : Calm (log.map Prod.snd))
    (hlink : (Channel.monitor Event.put Event.took).Accepts (fun _ => []) log) :
    wp (main rounds)
      (fun _ q => Printed q.printed ∧ (q.printed = [] ∨ q.printed.flatMap Line.text = TEST_PACKET))
      (fun e q => e ≠ .fault ∧ Printed q.printed) pC := by
  -- what the server sends back is a part of what it got, and so of what the client sent
  have hechoed : Echoed (createTCPEchoServer thData raw rounds' pS).state :=
    wp_state (server_echoes (by decide) (by decide) raw rounds' hS)
  have hpart : ∀ q, (main rounds pC).state = q → (Calm q.trace → q.sent <+: TEST_PACKET) →
      Calm q.trace ∧ q.got.Sublist TEST_PACKET := fun q hq hsent =>
    got_sublist (hq ▸ hclient) hserver hcalm hlink hechoed hsent
  have hzero : 0 ∉ TEST_PACKET := by decide
  have hprints := client_prints rounds hC hprinted
  rw [wp_iff]
  refine ⟨fun r q hrun => ?_, fun e q hrun => ?_⟩
  · have hfinished := wp_done hprints hrun
    obtain ⟨hcalmq, hgot⟩ := hpart q (by rw [hrun]; rfl) hfinished.sent
    obtain ⟨htext, hcounts⟩ := (hfinished.shows hcalmq).text fun h => hzero (hgot.subset h)
    refine ⟨⟨hcounts, htext ▸ hgot⟩, hfinished.complete.imp id fun hcomplete => ?_⟩
    have hle : q.got.length ≤ 11 := hgot.length_le
    have hall := hcomplete hcalmq
    -- the packet is short, so that the 32-bit count the loop compares is the number of the bytes
    rw [narrow_eq_self.mpr ⟨by omega, by omega⟩, toSizeT_natCast ⟨by omega, by omega⟩] at hall
    rw [htext]
    exact hgot.eq_of_length hall
  · have hcut := wp_stopped hprints hrun
    obtain ⟨hcalmq, hgot⟩ := hpart q (by rw [hrun]; rfl) hcut.sent
    obtain ⟨got, hfront, hshows⟩ := hcut.shows hcalmq
    have hpiece := hfront.sublist.trans hgot
    obtain ⟨htext, hcounts⟩ := hshows.text fun h => hzero (hpiece.subset h)
    refine ⟨fun hfault => ?_, hcounts, htext ▸ hpiece⟩
    -- a fault takes a piece of 1024 bytes, and the packet has eleven
    have hlong := hcut.fault hfault hcalmq
    have hle : q.got.length ≤ 11 := hgot.length_le
    omega

/-! The client asks once while two bytes are on their way back. -/

/-- The client at the start. -/
def clientStart : Process ClientVar Line where
  var _ := .zeroed
  os := .idle {
    socket := [.ok 3], getfl := [.ok 0], setfl := [.ok ()], gethostbyname := [.found 0]
    connect := [.ok ()], getpeername := [.ok .zero], getsockname := [.ok .zero]
    send := [.ok 11], select := [.ok ⟨1, ∅, ∅, ∅⟩], recv := [.fail ⟨EWOULDBLOCK, by decide⟩] }
  trace := []
  printed := []

/-- And the server. -/
def serverStart : Process ServerVar Line where
  var _ := .zeroed
  os := .idle {
    socket := [.ok 3], setsockopt := [.ok (), .ok ()], bind := [.ok ()], listen := [.ok ()]
    accept := [.ok (4, .zero)], getpeername := [.ok .zero], getsockname := [.ok .zero]
    recv := [.ok [84], .ok [101]], send := [.ok 1, .ok 1] }
  trace := []
  printed := []

/-- What they call, the client first. -/
def startLog : List (Bool × Event) :=
  (main 3 clientStart).state.trace.map (true, ·) ++
    (createTCPEchoServer thData .zeroed 3 serverStart).state.trace.map (false, ·)

set_option maxRecDepth 20000 in
theorem recvAsync_prints_count : (main 3 clientStart).state.printed = [.count (-1)] ∧
    (Channel.monitor Event.put Event.took).after (fun _ => []) startLog false = [84, 101] ∧
      Printed (main 3 clientStart).state.printed := by
  refine ⟨by decide +kernel, by decide +kernel, ?_⟩
  -- under other names, so that the runs are not evaluated again
  obtain ⟨pC, pS, log, hpC, hC, hprinted, hS, hclient, hserver, hcalm, hlink⟩ :
      ∃ pC pS log, clientStart = pC ∧ pC.trace = [] ∧ pC.printed = [] ∧ pS.trace = [] ∧
        Channel.doneBy true log = (main 3 pC).state.trace ∧
          Channel.doneBy false log = (createTCPEchoServer thData .zeroed 3 pS).state.trace ∧
            Calm (log.map Prod.snd) ∧
              (Channel.monitor Event.put Event.took).Accepts (fun _ => []) log :=
    ⟨clientStart, serverStart, startLog, rfl, rfl, rfl, rfl, by decide +kernel, by decide +kernel,
      by decide +kernel, by decide +kernel⟩
  rw [hpC]
  refine wp_state (P := fun q : Process ClientVar Line => Printed q.printed) ?_
  exact wp_mono (fun _ _ h => h.1) (fun _ _ h => h.2)
    (recvAsync_prints .zeroed 3 3 hC hprinted hS hclient hserver hcalm hlink)

end ClSocket.RecvAsync
