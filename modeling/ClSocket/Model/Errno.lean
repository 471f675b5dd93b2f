import Mathlib.Tactic.Common

/-!
# Error numbers and the library's error codes

`errno` is an `int` the whole process shares; the library turns it into one of its
own codes with `TranslateSocketError`. The numbers are those of Linux.

The four facts the operations are about are the ones a caller branches on: the
translation is `SocketSuccess` exactly at `errno = 0`, and `SocketInterrupted`,
`SocketEwouldblock` and `SocketEinprogress` each have a single preimage.
-/

namespace ClSocket

/-! ### `errno` values -/

def EPERM : Int := 1
def EINTR : Int := 4
def EIO : Int := 5
def EBADF : Int := 9
def EAGAIN : Int := 11
def EWOULDBLOCK : Int := EAGAIN
def ENOMEM : Int := 12
def EACCES : Int := 13
def EFAULT : Int := 14
def EINVAL : Int := 22
def ENFILE : Int := 23
def EMFILE : Int := 24
def EPIPE : Int := 32
def EPROTO : Int := 71
def ENOTSOCK : Int := 88
def ENOPROTOOPT : Int := 92
def EPROTONOSUPPORT : Int := 93
def EOPNOTSUPP : Int := 95
def EAFNOSUPPORT : Int := 97
def EADDRINUSE : Int := 98
def ENETUNREACH : Int := 101
def ECONNABORTED : Int := 103
def ECONNRESET : Int := 104
def ENOBUFS : Int := 105
def ENOTCONN : Int := 107
def ETIMEDOUT : Int := 110
def ECONNREFUSED : Int := 111
def EINPROGRESS : Int := 115

/-- What a failing system call stores in `errno`: a non-zero number. -/
abbrev Errno : Type := { e : Int // e ≠ 0 }

/-- The number of an interruption by a signal. -/
def interruption : Errno := ⟨EINTR, by decide⟩

/-! ### Error codes of the library -/

/-- `CSimpleSocket::CSocketError`. -/
inductive CSocketError where
  | socketError
  | socketSuccess
  | socketInvalidSocket
  | socketInvalidAddress
  | socketInvalidPort
  | socketConnectionRefused
  | socketTimedout
  | socketEwouldblock
  | socketNotconnected
  | socketEinprogress
  | socketInterrupted
  | socketConnectionAborted
  | socketProtocolError
  | socketFirewallError
  | socketInvalidSocketBuffer
  | socketConnectionReset
  | socketAddressInUse
  | socketInvalidPointer
  | socketEunknown
  deriving DecidableEq, Repr

/-- The cases of the `switch (errno)` in `TranslateSocketError`. -/
def errnoTable : List (Int × CSocketError) :=
  [(0, .socketSuccess), (ENOTCONN, .socketNotconnected), (ENOTSOCK, .socketInvalidSocket),
    (EBADF, .socketInvalidSocket), (EACCES, .socketInvalidSocket),
    (EAFNOSUPPORT, .socketInvalidSocket), (EMFILE, .socketInvalidSocket),
    (ENFILE, .socketInvalidSocket), (ENOBUFS, .socketInvalidSocket),
    (ENOMEM, .socketInvalidSocket), (EPROTONOSUPPORT, .socketInvalidSocket),
    (EPIPE, .socketInvalidSocket), (EOPNOTSUPP, .socketInvalidSocket),
    (ECONNREFUSED, .socketConnectionRefused), (ETIMEDOUT, .socketTimedout),
    (EINPROGRESS, .socketEinprogress), (EWOULDBLOCK, .socketEwouldblock),
    (EINTR, .socketInterrupted), (ECONNABORTED, .socketConnectionAborted),
    (EINVAL, .socketProtocolError), (EPROTO, .socketProtocolError),
    (EPERM, .socketFirewallError), (EFAULT, .socketInvalidSocketBuffer),
    (ECONNRESET, .socketConnectionReset), (ENOPROTOOPT, .socketConnectionReset),
    (EADDRINUSE, .socketAddressInUse)]

/-- The code `TranslateSocketError` sets: the `default` case is `SocketEunknown`. -/
def translateErrno (errno : Int) : CSocketError :=
  (errnoTable.lookup errno).getD .socketEunknown

/-- A code other than the default that only the number `k` has in the table is set
by no other `errno`. -/
theorem translateErrno_eq_imp {c : CSocketError} {k e : Int} (hd : c ≠ .socketEunknown)
    (hk : ∀ p ∈ errnoTable, p.2 = c → p.1 = k) (h : translateErrno e = c) : e = k := by
  unfold translateErrno at h
  cases hl : errnoTable.lookup e with
  | none => rw [hl] at h; exact absurd h.symm hd
  | some c' =>
    rw [hl] at h
    obtain ⟨l₁, l₂, ht, -⟩ := List.lookup_eq_some_iff.mp hl
    exact hk (e, c') (by rw [ht]; simp) h

@[simp] theorem translateErrno_eq_success {e : Int} :
    translateErrno e = .socketSuccess ↔ e = 0 := by
  refine ⟨translateErrno_eq_imp (by decide) (by decide), ?_⟩
  rintro rfl
  rfl

/-- A failing call never translates to success. -/
theorem translateErrno_ne_success (e : Errno) : translateErrno e.1 ≠ .socketSuccess :=
  fun h => e.2 (translateErrno_eq_success.mp h)

@[simp] theorem translateErrno_eq_interrupted {e : Int} :
    translateErrno e = .socketInterrupted ↔ e = EINTR := by
  refine ⟨translateErrno_eq_imp (by decide) (by decide), ?_⟩
  rintro rfl
  rfl

@[simp] theorem translateErrno_eq_ewouldblock {e : Int} :
    translateErrno e = .socketEwouldblock ↔ e = EWOULDBLOCK := by
  refine ⟨translateErrno_eq_imp (by decide) (by decide), ?_⟩
  rintro rfl
  rfl

@[simp] theorem translateErrno_eq_einprogress {e : Int} :
    translateErrno e = .socketEinprogress ↔ e = EINPROGRESS := by
  refine ⟨translateErrno_eq_imp (by decide) (by decide), ?_⟩
  rintro rfl
  rfl

/-- `DescribeError`. -/
def describeError : CSocketError → String
  | .socketError => "Generic socket error translates to error below."
  | .socketSuccess => "No socket error."
  | .socketInvalidSocket => "Invalid socket handle."
  | .socketInvalidAddress => "Invalid destination address specified."
  | .socketInvalidPort => "Invalid destination port specified."
  | .socketConnectionRefused => "No server is listening at remote address."
  | .socketTimedout => "Timed out while attempting operation."
  | .socketEwouldblock => "Operation would block if socket were blocking."
  | .socketNotconnected => "Currently not connected."
  | .socketEinprogress =>
    "Socket is non-blocking and the connection cannot be completed immediately"
  | .socketInterrupted =>
    "Call was interrupted by a signal that was caught before a valid connection arrived."
  | .socketConnectionAborted => "The connection has been aborted."
  | .socketProtocolError => "Invalid protocol for operation."
  | .socketFirewallError => "Firewall rules forbid connection."
  | .socketInvalidSocketBuffer => "The receive buffer point outside the process's address space."
  | .socketConnectionReset => "Connection was forcibly closed by the remote host."
  | .socketAddressInUse => "Address already in use."
  | .socketInvalidPointer => "Pointer type supplied as argument is invalid."
  | .socketEunknown => "Unknown error"

/-- Different codes are described differently. -/
theorem describeError_inj {c d : CSocketError} : describeError c = describeError d ↔ c = d := by
  refine ⟨fun h => ?_, fun h => congrArg _ h⟩
  cases c <;> cases d <;> simp [describeError] at h ⊢

end ClSocket
