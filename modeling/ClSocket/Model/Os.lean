import ClSocket.Framework.Prog
import ClSocket.Model.Types

/-!
# The operating system a socket object talks to

A method runs against a *script*: for every system call the queue of the answers the
operating system is going to give. Nothing is assumed of the answers, so a statement
about every script is a statement about every behaviour of the system; a call whose
queue is empty has not been answered yet and the method waits in it
(`Stop.waiting`).

A failing answer carries the non-zero number it stores in `errno`; a successful one
leaves `errno` alone (`Answer.errno`). This is the whole of the rule, and `issue`, through
which every call is made, applies it once for all of them.

Every call is recorded, with its arguments and its answer, in the trace of the state. What a run
did to the outside (the descriptors it opened, the bytes it put on the wire, the destination of
a datagram) is read off the trace; a model of the kernel is a predicate on traces.
-/

namespace ClSocket

/-- What a system call answers. -/
inductive Answer (α : Type) where
  /-- It succeeded with this result. -/
  | ok (a : α)
  /-- It returned `-1` and stored this number in `errno`. -/
  | fail (e : Errno)
  deriving DecidableEq, Repr

/-- `errno` after a call with this answer. -/
def Answer.errno {α : Type} (a : Answer α) (errno : Int) : Int :=
  match a with
  | .ok _ => errno
  | .fail e => e.1

@[simp] theorem Answer.errno_ok {α : Type} (a : α) (e : Int) :
    (Answer.ok a).errno e = e := rfl

@[simp] theorem Answer.errno_fail {α : Type} (f : Errno) (e : Int) :
    (Answer.fail f : Answer α).errno e = f.1 := rfl

/-- The value a call that counts or returns a descriptor has in C. -/
def Answer.ret : Answer ℕ → Int
  | .ok n => n
  | .fail _ => -1

@[simp] theorem Answer.ret_ok (n : ℕ) : (Answer.ok n).ret = n := rfl

@[simp] theorem Answer.ret_fail (e : Errno) : (Answer.fail e).ret = -1 := rfl

/-- The count of an answer that delivers bytes. -/
def Answer.count {α : Type} (len : α → ℕ) : Answer α → Answer ℕ
  | .ok a => .ok (len a)
  | .fail e => .fail e

@[simp] theorem Answer.count_ok {α : Type} (len : α → ℕ) (a : α) :
    (Answer.ok a).count len = .ok (len a) := rfl

@[simp] theorem Answer.count_fail {α : Type} (len : α → ℕ) (e : Errno) :
    (Answer.fail e : Answer α).count len = .fail e := rfl

/-- A failure with `EINTR`. -/
def Answer.interrupted {α : Type} : Answer α → Bool
  | .ok _ => false
  | .fail e => e.1 == EINTR

/-- A successful `select`: how many descriptors are ready, and which. -/
structure Selected where
  count : ℕ
  readFds : FdSet
  writeFds : FdSet
  errorFds : FdSet
  deriving DecidableEq

/-- What `gethostbyname` answers: the first address of the entry, or `NULL` with
`h_errno` set and `errno` left at some value. -/
inductive HostAnswer where
  | found (s_addr : UInt32)
  | failed (h_errno errno : Int)
  deriving DecidableEq, Repr

def HOST_NOT_FOUND : Int := 1

/-- The value a `setsockopt` hands over. -/
inductive OptVal where
  | int (n : Int)
  | byte (n : UInt8)
  | addr (s_addr : UInt32)
  | mreq (imr_multiaddr imr_interface : UInt32)
  | timeval (t : Timeval)
  | linger (l : Linger)
  deriving DecidableEq, Repr

/-! ### Levels and names of the socket options -/

def SOL_SOCKET : Int := 1
def IPPROTO_IP : Int := 0
def IPPROTO_TCP : Int := 6
def SO_REUSEADDR : Int := 2
def SO_ERROR : Int := 4
def SO_LINGER : Int := 13
def SO_RCVTIMEO : Int := 20
def SO_SNDTIMEO : Int := 21
def IP_TOS : Int := 1
def IP_MULTICAST_IF : Int := 32
def IP_MULTICAST_TTL : Int := 33
def IP_ADD_MEMBERSHIP : Int := 35
def TCP_NODELAY : Int := 1
def IPTOS_LOWDELAY : Int := 16
def O_NONBLOCK : UInt32 := 2048

/-! ### Scripts and traces -/

/-- The answers to come, call by call. -/
structure Script where
  socket : List (Answer ℕ) := []
  close : List (Answer Unit) := []
  bind : List (Answer Unit) := []
  listen : List (Answer Unit) := []
  accept : List (Answer (ℕ × SockaddrIn)) := []
  connect : List (Answer Unit) := []
  getpeername : List (Answer SockaddrIn) := []
  getsockname : List (Answer SockaddrIn) := []
  setsockopt : List (Answer Unit) := []
  getsockopt : List (Answer Int) := []
  send : List (Answer ℕ) := []
  sendto : List (Answer ℕ) := []
  writev : List (Answer ℕ) := []
  recv : List (Answer Bytes) := []
  recvfrom : List (Answer (Bytes × SockaddrIn)) := []
  select : List (Answer Selected) := []
  getfl : List (Answer UInt32) := []
  setfl : List (Answer Unit) := []
  shutdown : List (Answer Unit) := []
  lseek : List (Answer Unit) := []
  read : List (Answer Bytes) := []
  gethostbyname : List HostAnswer := []

/-- A call that was made and answered, or a heap operation. -/
inductive Event where
  | socket (domain type : Int) (res : Answer ℕ)
  | close (fd : Int) (res : Answer Unit)
  | bind (fd : Int) (addr : SockaddrIn) (res : Answer Unit)
  | listen (fd backlog : Int) (res : Answer Unit)
  | accept (fd : Int) (res : Answer (ℕ × SockaddrIn))
  | connect (fd : Int) (addr : SockaddrIn) (res : Answer Unit)
  | getpeername (fd : Int) (res : Answer SockaddrIn)
  | getsockname (fd : Int) (res : Answer SockaddrIn)
  | setsockopt (fd level name : Int) (value : OptVal) (res : Answer Unit)
  /-- `optlen` is the length the caller passes in, `none` when it passes no valid pointer. -/
  | getsockopt (fd level name : Int) (optlen : Option ℕ) (res : Answer Int)
  | send (fd : Int) (data : Bytes) (res : Answer ℕ)
  | sendto (fd : Int) (data : Bytes) (dest : SockaddrIn) (res : Answer ℕ)
  | writev (fd : Int) (items : List Bytes) (res : Answer ℕ)
  /-- `offset` is where in the work buffer the bytes are to be written. -/
  | recv (fd offset len flags : Int) (res : Answer Bytes)
  | recvfrom (fd len : Int) (res : Answer (Bytes × SockaddrIn))
  | select (nfds : Int) (readFds writeFds errorFds : FdSet) (timeout : Option Timeval)
    (res : Answer Selected)
  | getfl (fd : Int) (res : Answer UInt32)
  | setfl (fd : Int) (flags : UInt32) (res : Answer Unit)
  | shutdown (fd : Int) (how : CShutdownMode) (res : Answer Unit)
  | lseek (fd offset : Int) (res : Answer Unit)
  | read (fd len : Int) (res : Answer Bytes)
  | gethostbyname (name : String) (res : HostAnswer)
  | alloc (id : ℕ) (size : Int)
  | free (id : ℕ)
  deriving DecidableEq

/-- What calls have been made, oldest first. -/
abbrev Trace : Type := List Event

/-- The process around the object. -/
structure Os where
  errno : Int
  h_errno : Int
  script : Script
  /-- The readings of the clock, and how many have been taken. -/
  clock : ℕ → Timeval
  ticks : ℕ
  /-- The next allocation's identity, and what fresh memory holds. -/
  nextAlloc : ℕ
  garbage : ℕ → UInt8
  /-- The `static char szData[]` of `SendFile`. -/
  szData : Bytes
  /-- `inet_addr` of the C library. -/
  inet_addr : String → UInt32

/-- A running method: the object, the process, and the calls made so far. -/
structure State where
  self : CSimpleSocket
  os : Os
  trace : Trace

/-- Why a method does not return. -/
inductive Stop where
  /-- It waits for the answer to a system call. -/
  | waiting
  /-- An allocation threw. -/
  | threw
  /-- A signed operation overflowed. -/
  | overflow
  /-- A descriptor was put into an `fd_set` that has no room for it. -/
  | undefined
  deriving DecidableEq, Repr

/-- A method body with result `α`. -/
abbrev M (α : Type) : Type := Prog State Stop α

namespace State

/-- The state after a change of the object. -/
def upd (s : State) (f : CSimpleSocket → CSimpleSocket) : State := { s with self := f s.self }

/-- The state after a system call: the rest of the script, the new `errno`, the call recorded. -/
def answered (s : State) (script : Script) (errno : Int) (ev : Event) : State :=
  { s with os := { s.os with script := script, errno := errno }, trace := s.trace ++ [ev] }

/-- The state after an assignment to `errno`. -/
def withErrno (s : State) (errno : Int) : State := { s with os := { s.os with errno := errno } }

/-- The state after a reading of the clock. -/
def tick (s : State) : State := { s with os := { s.os with ticks := s.os.ticks + 1 } }

/-- The state after the library set `h_errno`. -/
def withHErrno (s : State) (h : Int) : State := { s with os := { s.os with h_errno := h } }

/-- The state after an allocation of `n` bytes. -/
def allocated (s : State) (n : Int) : State :=
  { s with
    os := { s.os with nextAlloc := s.os.nextAlloc + 1 }
    trace := s.trace ++ [.alloc s.os.nextAlloc n] }

variable (s : State) (f : CSimpleSocket → CSimpleSocket) (sc : Script) (e : Int) (ev : Event)

@[simp] theorem upd_self : (s.upd f).self = f s.self := rfl
@[simp] theorem upd_os : (s.upd f).os = s.os := rfl
@[simp] theorem upd_trace : (s.upd f).trace = s.trace := rfl
@[simp] theorem answered_self : (s.answered sc e ev).self = s.self := rfl
@[simp] theorem answered_errno : (s.answered sc e ev).os.errno = e := rfl
@[simp] theorem answered_script : (s.answered sc e ev).os.script = sc := rfl
@[simp] theorem answered_trace : (s.answered sc e ev).trace = s.trace ++ [ev] := rfl
@[simp] theorem answered_inet_addr :
    (s.answered sc e ev).os.inet_addr = s.os.inet_addr := rfl
@[simp] theorem withErrno_self : (s.withErrno e).self = s.self := rfl
@[simp] theorem withErrno_errno : (s.withErrno e).os.errno = e := rfl
@[simp] theorem withErrno_script : (s.withErrno e).os.script = s.os.script := rfl
@[simp] theorem withErrno_trace : (s.withErrno e).trace = s.trace := rfl
@[simp] theorem withErrno_inet_addr : (s.withErrno e).os.inet_addr = s.os.inet_addr := rfl
@[simp] theorem tick_self : s.tick.self = s.self := rfl
@[simp] theorem tick_errno : s.tick.os.errno = s.os.errno := rfl
@[simp] theorem tick_script : s.tick.os.script = s.os.script := rfl
@[simp] theorem tick_trace : s.tick.trace = s.trace := rfl
@[simp] theorem tick_inet_addr : s.tick.os.inet_addr = s.os.inet_addr := rfl
@[simp] theorem withHErrno_self : (s.withHErrno e).self = s.self := rfl
@[simp] theorem withHErrno_errno : (s.withHErrno e).os.errno = s.os.errno := rfl
@[simp] theorem withHErrno_script : (s.withHErrno e).os.script = s.os.script := rfl
@[simp] theorem withHErrno_trace : (s.withHErrno e).trace = s.trace := rfl
@[simp] theorem allocated_self : (s.allocated e).self = s.self := rfl
@[simp] theorem allocated_errno : (s.allocated e).os.errno = s.os.errno := rfl
@[simp] theorem allocated_script : (s.allocated e).os.script = s.os.script := rfl
@[simp] theorem allocated_trace :
    (s.allocated e).trace = s.trace ++ [.alloc s.os.nextAlloc e] := rfl

end State

/-! ### The steps methods are made of -/

open Prog

/-- The object. -/
def this : M CSimpleSocket := fun s => .done s.self s

/-- Assign to members of the object. -/
def assign (f : CSimpleSocket → CSimpleSocket) : M Unit := modify fun s => s.upd f

/-- Read `errno`. -/
def getErrno : M Int := fun s => .done s.os.errno s

/-- Assign to `errno`. -/
def setErrno (e : Int) : M Unit := modify fun s => s.withErrno e

/-- `inet_addr` of the C library. -/
def inetAddr (cp : String) : M UInt32 := fun s => .done (s.os.inet_addr cp) s

/-- Make a system call: take the next answer of its queue, let it act on `errno`,
record it. -/
def issue {α : Type} (queue : Script → List (Answer α))
    (put : List (Answer α) → Script → Script) (ev : Answer α → Event) : M (Answer α) := fun s =>
  match queue s.os.script with
  | [] => .stop .waiting s
  | a :: rest =>
    .done a (s.answered (put rest s.os.script) (a.errno s.os.errno) (ev a))

section

variable {α : Type} {Q : α → State → Prop} {B : Stop → State → Prop} {s : State}

@[simp] theorem wp_this {Q : CSimpleSocket → State → Prop} : wp this Q B s ↔ Q s.self s := Iff.rfl

@[simp] theorem wp_assign {Q : Unit → State → Prop} (f : CSimpleSocket → CSimpleSocket) :
    wp (assign f) Q B s ↔ Q () (s.upd f) := Iff.rfl

@[simp] theorem wp_getErrno {Q : Int → State → Prop} :
    wp getErrno Q B s ↔ Q s.os.errno s := Iff.rfl

@[simp] theorem wp_setErrno {Q : Unit → State → Prop} (e : Int) :
    wp (setErrno e) Q B s ↔ Q () (s.withErrno e) := Iff.rfl

@[simp] theorem wp_inetAddr {Q : UInt32 → State → Prop} (cp : String) :
    wp (inetAddr cp) Q B s ↔ Q (s.os.inet_addr cp) s := Iff.rfl

@[simp] theorem wp_issue {Q : Answer α → State → Prop} (queue : Script → List (Answer α))
    (put : List (Answer α) → Script → Script) (ev : Answer α → Event) :
    wp (issue queue put ev) Q B s ↔
      (queue s.os.script = [] → B .waiting s) ∧
      (∀ a rest, queue s.os.script = .ok a :: rest →
        Q (.ok a) (s.answered (put rest s.os.script) s.os.errno (ev (.ok a)))) ∧
      (∀ e rest, queue s.os.script = .fail e :: rest →
        Q (.fail e) (s.answered (put rest s.os.script) e.1 (ev (.fail e)))) := by
  unfold wp issue
  rcases queue s.os.script with _ | ⟨a | e, rest⟩ <;> simp

/-- The same without a case distinction on the answer. -/
theorem wp_issue_iff {Q : Answer α → State → Prop} {queue : Script → List (Answer α)}
    {put : List (Answer α) → Script → Script} {ev : Answer α → Event} :
    wp (issue queue put ev) Q B s ↔
      (queue s.os.script = [] → B .waiting s) ∧
      (∀ a rest, queue s.os.script = a :: rest →
        Q a (s.answered (put rest s.os.script) (a.errno s.os.errno) (ev a))) := by
  unfold wp issue
  rcases queue s.os.script with _ | ⟨a, rest⟩ <;> simp

/-- A call whose next answer is known. -/
theorem wp_issue_cons {Q : Answer α → State → Prop} {queue : Script → List (Answer α)}
    {put : List (Answer α) → Script → Script} {ev : Answer α → Event} {a : Answer α}
    {rest : List (Answer α)} (h : queue s.os.script = a :: rest) :
    wp (issue queue put ev) Q B s ↔
      Q a (s.answered (put rest s.os.script) (a.errno s.os.errno) (ev a)) := by
  unfold wp issue
  rw [h]

/-- A call that is not answered. -/
theorem wp_issue_nil {Q : Answer α → State → Prop} {queue : Script → List (Answer α)}
    {put : List (Answer α) → Script → Script} {ev : Answer α → Event}
    (h : queue s.os.script = []) : wp (issue queue put ev) Q B s ↔ B .waiting s := by
  unfold wp issue
  rw [h]

end

/-! ### System calls -/

def sysSocket (domain type : Int) : M (Answer ℕ) :=
  issue Script.socket (fun q sc => { sc with socket := q }) (.socket domain type)

def sysClose (fd : Int) : M (Answer Unit) :=
  issue Script.close (fun q sc => { sc with close := q }) (.close fd)

def sysBind (fd : Int) (addr : SockaddrIn) : M (Answer Unit) :=
  issue Script.bind (fun q sc => { sc with bind := q }) (.bind fd addr)

def sysListen (fd backlog : Int) : M (Answer Unit) :=
  issue Script.listen (fun q sc => { sc with listen := q }) (.listen fd backlog)

def sysAccept (fd : Int) : M (Answer (ℕ × SockaddrIn)) :=
  issue Script.accept (fun q sc => { sc with accept := q }) (.accept fd)

def sysConnect (fd : Int) (addr : SockaddrIn) : M (Answer Unit) :=
  issue Script.connect (fun q sc => { sc with connect := q }) (.connect fd addr)

def sysGetpeername (fd : Int) : M (Answer SockaddrIn) :=
  issue Script.getpeername (fun q sc => { sc with getpeername := q }) (.getpeername fd)

def sysGetsockname (fd : Int) : M (Answer SockaddrIn) :=
  issue Script.getsockname (fun q sc => { sc with getsockname := q }) (.getsockname fd)

def sysSetsockopt (fd level name : Int) (value : OptVal) : M (Answer Unit) :=
  issue Script.setsockopt (fun q sc => { sc with setsockopt := q })
    (.setsockopt fd level name value)

def sysGetsockopt (fd level name : Int) (optlen : Option ℕ) : M (Answer Int) :=
  issue Script.getsockopt (fun q sc => { sc with getsockopt := q })
    (.getsockopt fd level name optlen)

def sysSend (fd : Int) (data : Bytes) : M (Answer ℕ) :=
  issue Script.send (fun q sc => { sc with send := q }) (.send fd data)

def sysSendto (fd : Int) (data : Bytes) (dest : SockaddrIn) : M (Answer ℕ) :=
  issue Script.sendto (fun q sc => { sc with sendto := q }) (.sendto fd data dest)

def sysWritev (fd : Int) (items : List Bytes) : M (Answer ℕ) :=
  issue Script.writev (fun q sc => { sc with writev := q }) (.writev fd items)

def sysRecv (fd offset len flags : Int) : M (Answer Bytes) :=
  issue Script.recv (fun q sc => { sc with recv := q }) (.recv fd offset len flags)

def sysRecvfrom (fd len : Int) : M (Answer (Bytes × SockaddrIn)) :=
  issue Script.recvfrom (fun q sc => { sc with recvfrom := q }) (.recvfrom fd len)

def sysSelect (nfds : Int) (readFds writeFds errorFds : FdSet) (timeout : Option Timeval) :
    M (Answer Selected) :=
  issue Script.select (fun q sc => { sc with select := q })
    (.select nfds readFds writeFds errorFds timeout)

/-- `fcntl(fd, F_GETFL)`. -/
def sysGetfl (fd : Int) : M (Answer UInt32) :=
  issue Script.getfl (fun q sc => { sc with getfl := q }) (.getfl fd)

/-- `fcntl(fd, F_SETFL, flags)`. -/
def sysSetfl (fd : Int) (flags : UInt32) : M (Answer Unit) :=
  issue Script.setfl (fun q sc => { sc with setfl := q }) (.setfl fd flags)

def sysShutdown (fd : Int) (how : CShutdownMode) : M (Answer Unit) :=
  issue Script.shutdown (fun q sc => { sc with shutdown := q }) (.shutdown fd how)

def sysLseek (fd offset : Int) : M (Answer Unit) :=
  issue Script.lseek (fun q sc => { sc with lseek := q }) (.lseek fd offset)

def sysRead (fd len : Int) : M (Answer Bytes) :=
  issue Script.read (fun q sc => { sc with read := q }) (.read fd len)

/-- `gethostbyname`: a failure sets `h_errno` and may leave any `errno`. -/
def sysGethostbyname (name : String) : M HostAnswer := fun s =>
  match s.os.script.gethostbyname with
  | [] => .stop .waiting s
  | a :: rest =>
    let s' := s.answered { s.os.script with gethostbyname := rest }
      (match a with
        | .found _ => s.os.errno
        | .failed _ e => e) (.gethostbyname name a)
    .done a (match a with
      | .found _ => s'
      | .failed h _ => s'.withHErrno h)

/-- `new uint8[n]`: the block holds whatever the memory held; a negative size throws. -/
def newBytes (n : Int) : M Buffer := fun s =>
  if n < 0 then .stop .threw s
  else
    .done ⟨s.os.nextAlloc, (List.range n.toNat).map s.os.garbage⟩ (s.allocated n)

/-- `FD_SET` on a set that `FD_ZERO` has cleared. For a descriptor that is not below `FD_SETSIZE`
it writes outside of the set. -/
def fdSet (fd : Int) : M FdSet := fun s =>
  if 0 ≤ fd ∧ fd < FD_SETSIZE then .done {fd} s else .stop .undefined s

/-- `delete [] p`. -/
def deleteBytes (b : Buffer) : M Unit :=
  modify fun s => { s with trace := s.trace ++ [.free b.id] }

section

variable {B : Stop → State → Prop} {s : State}

@[simp] theorem wp_sysGethostbyname {Q : HostAnswer → State → Prop} (name : String) :
    wp (sysGethostbyname name) Q B s ↔
      (s.os.script.gethostbyname = [] → B .waiting s) ∧
      (∀ a rest, s.os.script.gethostbyname = .found a :: rest →
        Q (.found a) (s.answered { s.os.script with gethostbyname := rest } s.os.errno
          (.gethostbyname name (.found a)))) ∧
      (∀ h e rest, s.os.script.gethostbyname = .failed h e :: rest →
        Q (.failed h e) ((s.answered { s.os.script with gethostbyname := rest } e
          (.gethostbyname name (.failed h e))).withHErrno h)) := by
  unfold wp sysGethostbyname
  rcases s.os.script.gethostbyname with _ | ⟨a | ⟨h, e⟩, rest⟩ <;> simp

@[simp] theorem wp_newBytes {Q : Buffer → State → Prop} (n : Int) :
    wp (newBytes n) Q B s ↔
      (n < 0 → B .threw s) ∧
      (¬n < 0 → Q ⟨s.os.nextAlloc, (List.range n.toNat).map s.os.garbage⟩ (s.allocated n)) := by
  unfold wp newBytes
  by_cases h : n < 0
  · simp [h]
  · rw [if_neg h]
    simp [h]

@[simp] theorem wp_fdSet {Q : FdSet → State → Prop} (fd : Int) :
    wp (fdSet fd) Q B s ↔
      (0 ≤ fd ∧ fd < FD_SETSIZE → Q {fd} s) ∧ (¬ (0 ≤ fd ∧ fd < FD_SETSIZE) → B .undefined s) := by
  unfold wp fdSet
  by_cases h : 0 ≤ fd ∧ fd < FD_SETSIZE
  · rw [if_pos h]
    simp [h]
  · rw [if_neg h]
    simp [h]

@[simp] theorem wp_deleteBytes {Q : Unit → State → Prop} (b : Buffer) :
    wp (deleteBytes b) Q B s ↔ Q () { s with trace := s.trace ++ [.free b.id] } := Iff.rfl

end

end ClSocket
