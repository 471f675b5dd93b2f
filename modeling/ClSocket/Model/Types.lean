import Mathlib.Data.Finset.Insert
import Mathlib.Data.Finset.Lattice.Basic
import Mathlib.Tactic.IntervalCases
import ClSocket.Model.Errno

/-!
# The data of a socket object

The records the library keeps: addresses, time values, the statistics timer, and the
object `CSimpleSocket` with every field its methods read or write. `CActiveSocket` and
`CPassiveSocket` add no field that outlives one call (`m_pHE` and
`m_stMulticastRequest` are written and used up inside `Open` and `BindMulticast`), so
one record serves the three classes and `SocketClass` names them.

Descriptors and counts are `Int`: the invalid descriptor and the error return are both
`-1`. What C++ does on storing a wider count in an `int32` is `narrow`; a signed
operation that may overflow is checked where it is made.
-/

namespace ClSocket

/-- A block of bytes. -/
abbrev Bytes : Type := List UInt8

/-! ### 32-bit arithmetic -/

/-- `n` is a value of the type `int32`. -/
def InInt32 (n : Int) : Prop := -2147483648 ≤ n ∧ n ≤ 2147483647

instance (n : Int) : Decidable (InInt32 n) := inferInstanceAs (Decidable (_ ∧ _))

/-- The conversion of a wider integer to `int32`: the value modulo `2 ^ 32`. -/
def narrow (n : Int) : Int := n.bmod 4294967296

theorem narrow_eq_self {n : Int} : narrow n = n ↔ InInt32 n := by
  dsimp only [narrow, InInt32, Int.bmod]
  split <;> omega

/-- The error return is an `int32`. -/
@[simp] theorem narrow_neg_one : narrow (-1) = -1 := by decide

/-! ### Byte order -/

/-- `htons` and `ntohs` on a little-endian host: the two bytes are swapped. -/
def htons (p : UInt16) : UInt16 := (p <<< 8) ||| (p >>> 8)

/-- Swapping twice changes nothing, so `htons` is `ntohs`. -/
@[simp] theorem htons_htons (p : UInt16) : htons (htons p) = p := by
  refine UInt16.toBitVec_inj.mp ?_
  simp only [htons, UInt16.toBitVec_or, UInt16.toBitVec_shiftLeft, UInt16.toBitVec_shiftRight,
    UInt16.toBitVec_ofNat]
  ext i hi
  interval_cases i <;> simp

@[simp] theorem htons_eq_zero {p : UInt16} : htons p = 0 ↔ p = 0 := by
  refine ⟨fun h => ?_, fun h => by rw [h]; decide⟩
  rw [← htons_htons p, h]
  decide

/-- `htonl` on a little-endian host: the four bytes are reversed. -/
def htonl (x : UInt32) : UInt32 :=
  (x <<< 24) ||| ((x <<< 8) &&& (0xff0000 : UInt32)) |||
    ((x >>> 8) &&& (0xff00 : UInt32)) ||| (x >>> 24)

/-- The bytes of an address in network order, the first in memory being the lowest. -/
def octets (s_addr : UInt32) : List ℕ :=
  [s_addr.toNat % 256, s_addr.toNat / 256 % 256, s_addr.toNat / 65536 % 256,
    s_addr.toNat / 16777216]

/-- `inet_ntoa`: numbers and dots. -/
def inet_ntoa (s_addr : UInt32) : String := ".".intercalate ((octets s_addr).map Nat.repr)

/-- Different addresses are written differently. -/
theorem inet_ntoa_inj {a b : UInt32} : inet_ntoa a = inet_ntoa b ↔ a = b := by
  refine ⟨fun h => ?_, fun h => congrArg _ h⟩
  -- no number has a dot in it, so the numbers can be read back
  have hsplit : ∀ x, (inet_ntoa x).toList.splitOn '.' = (octets x).map (Nat.toDigits 10) := by
    intro x
    rw [inet_ntoa, String.toList_intercalate, List.map_map]
    refine (List.splitOn_intercalate '.' (fun l hl => ?_) (by simp [octets])).trans
      (by simp [Function.comp_def])
    obtain ⟨n, -, rfl⟩ := List.mem_map.mp hl
    intro hdot
    have hmem : '.' ∈ Nat.toDigits 10 n := by simpa using hdot
    exact absurd (Nat.isDigit_of_mem_toDigits (by decide) (by decide) hmem) (by decide)
  have hdigits : Function.Injective (Nat.toDigits 10) :=
    Function.LeftInverse.injective fun _ => Nat.ofDigitChars_ten_toDigits
  have hoctets : octets a = octets b := by
    refine List.map_injective_iff.mpr hdigits ?_
    rw [← hsplit, ← hsplit, h]
  simp only [octets, List.cons.injEq, and_true] at hoctets
  refine UInt32.toNat_inj.mp ?_
  omega

def INADDR_ANY : UInt32 := 0
def INADDR_NONE : UInt32 := 0xffffffff

/-! ### Addresses, times, options -/

def AF_INET : Int := 2
def AF_INET6 : Int := 10
def AF_PACKET : Int := 17

/-- `struct sockaddr_in`; port and address stand in network byte order. -/
structure SockaddrIn where
  sin_family : Int
  sin_port : UInt16
  sin_addr : UInt32
  deriving DecidableEq, Repr

/-- What `memset` to zero makes of a `sockaddr_in`. -/
def SockaddrIn.zero : SockaddrIn := ⟨0, 0, 0⟩

/-- `struct timeval`. -/
structure Timeval where
  tv_sec : Int
  tv_usec : Int
  deriving DecidableEq, Repr

/-- `struct linger`. -/
structure Linger where
  l_onoff : Int
  l_linger : Int
  deriving DecidableEq, Repr

/-- `CStatTimer`. -/
structure CStatTimer where
  m_startTime : Timeval
  m_endTime : Timeval
  deriving DecidableEq, Repr

/-- `CStatTimer::Initialize`. -/
def CStatTimer.reset : CStatTimer := ⟨⟨0, 0⟩, ⟨0, 0⟩⟩

namespace CStatTimer

variable (t : CStatTimer)

/-- `CalcTotalUSec`: a difference of 64-bit numbers, narrowed to `uint32`. -/
def calcTotalUSec : UInt32 :=
  UInt32.ofInt ((t.m_endTime.tv_sec - t.m_startTime.tv_sec) * 1000000 +
    (t.m_endTime.tv_usec - t.m_startTime.tv_usec))

/-- `GetMicroSeconds`. -/
def getMicroSeconds : UInt32 := t.calcTotalUSec

/-- `GetMilliSeconds`. -/
def getMilliSeconds : UInt32 := t.calcTotalUSec / 1000

/-- `GetSeconds`. -/
def getSeconds : UInt32 := t.calcTotalUSec / 1000000

end CStatTimer

/-- The timer of an object, with the number of the clock's reading each of its times is. The source
keeps the times alone: the numbers are there to be reasoned about, and no method looks at them. -/
structure TrackedTimer extends CStatTimer where
  startedAt : Option ℕ
  endedAt : Option ℕ
  deriving DecidableEq, Repr

namespace TrackedTimer

/-- Zero is not a reading. -/
def reset : TrackedTimer := ⟨.reset, none, none⟩

/-- The timer with this reading for its start. -/
def started (tm : TrackedTimer) (t : Timeval) (reading : ℕ) : TrackedTimer :=
  { tm with m_startTime := t, startedAt := some reading }

/-- The timer with this reading for its end. -/
def ended (tm : TrackedTimer) (t : Timeval) (reading : ℕ) : TrackedTimer :=
  { tm with m_endTime := t, endedAt := some reading }

end TrackedTimer

/-- How many descriptors an `fd_set` has room for. -/
def FD_SETSIZE : Int := 1024

/-- `fd_set`: the descriptors in it. -/
abbrev FdSet : Type := Finset Int

/-- A live heap allocation: its identity and its contents. -/
structure Buffer where
  id : ℕ
  data : Bytes
  deriving DecidableEq, Repr

/-- The bytes of `bs` stored from position `off` of a block on; what falls outside the
block is not part of it. -/
def writeAt (block : Bytes) (off : Int) (bs : Bytes) : Bytes :=
  block.mapIdx fun i b =>
    if off ≤ i ∧ (i : Int) < off + bs.length then bs.getD (i - off).toNat b else b

/-! ### The object -/

/-- `CSimpleSocket::CSocketType`. -/
inductive CSocketType where
  | socketTypeInvalid
  | socketTypeTcp
  | socketTypeUdp
  | socketTypeTcp6
  | socketTypeUdp6
  | socketTypeRaw
  deriving DecidableEq, Repr

/-- The number the enumeration gives a type; `Initialize` passes it to `socket`. -/
def CSocketType.code : CSocketType → Int
  | .socketTypeInvalid => 0
  | .socketTypeTcp => 1
  | .socketTypeUdp => 2
  | .socketTypeTcp6 => 3
  | .socketTypeUdp6 => 4
  | .socketTypeRaw => 5

/-- `CSimpleSocket::CShutdownMode`. -/
inductive CShutdownMode where
  | receives
  | sends
  | both
  deriving DecidableEq, Repr

/-- The classes of the library. -/
inductive SocketClass where
  | simple
  | active
  | passive
  deriving DecidableEq, Repr

def INVALID_SOCKET : Int := -1

/-- The data members of `CSimpleSocket`. -/
structure CSimpleSocket where
  m_socket : Int
  m_socketErrno : CSocketError
  m_pBuffer : Option Buffer
  m_nBufferSize : Int
  m_nSocketDomain : Int
  m_nSocketType : CSocketType
  m_nBytesReceived : Int
  m_nBytesSent : Int
  m_nFlags : Int
  m_bIsBlocking : Bool
  m_bIsMulticast : Bool
  m_stConnectTimeout : Timeval
  m_stRecvTimeout : Timeval
  m_stSendTimeout : Timeval
  m_stServerSockaddr : SockaddrIn
  m_stClientSockaddr : SockaddrIn
  m_stMulticastGroup : SockaddrIn
  m_stLinger : Linger
  m_timer : TrackedTimer
  m_writeFds : FdSet
  m_readFds : FdSet
  m_errorFds : FdSet

/-- `IsSocketValid`. -/
def CSimpleSocket.isSocketValid (o : CSimpleSocket) : Bool := o.m_socket != -1

@[simp] theorem CSimpleSocket.isSocketValid_iff {o : CSimpleSocket} :
    o.isSocketValid = true ↔ o.m_socket ≠ -1 := by
  simp [CSimpleSocket.isSocketValid]

/-- `IsNonblocking`. -/
def CSimpleSocket.isNonblocking (o : CSimpleSocket) : Bool := !o.m_bIsBlocking

/-- `GetData`: what the pointer to the internal buffer points at, `none` for a null pointer. -/
def CSimpleSocket.getData (o : CSimpleSocket) : Option Bytes := o.m_pBuffer.map Buffer.data

/-- `GetBytesReceived`. -/
def CSimpleSocket.getBytesReceived (o : CSimpleSocket) : Int := o.m_nBytesReceived

/-- `GetClientAddr`. -/
def CSimpleSocket.getClientAddr (o : CSimpleSocket) : String :=
  inet_ntoa o.m_stClientSockaddr.sin_addr

/-- `GetClientPort`; it returns the port as it is stored. -/
def CSimpleSocket.getClientPort (o : CSimpleSocket) : UInt16 := o.m_stClientSockaddr.sin_port

/-- `GetServerAddr`. -/
def CSimpleSocket.getServerAddr (o : CSimpleSocket) : String :=
  inet_ntoa o.m_stServerSockaddr.sin_addr

/-- `GetServerPort`, with `ntohs`. -/
def CSimpleSocket.getServerPort (o : CSimpleSocket) : UInt16 := htons o.m_stServerSockaddr.sin_port

/-- The constructor `CSimpleSocket(CSocketType)`. The members it does not mention keep
what the storage `raw` held. -/
def CSimpleSocket.construct (raw : CSimpleSocket) (nType : CSocketType) : CSimpleSocket :=
  { raw with
    m_socket := INVALID_SOCKET
    m_socketErrno := .socketInvalidSocket
    m_pBuffer := none
    m_nBufferSize := 0
    m_nSocketDomain := match nType with
      | .socketTypeTcp6 | .socketTypeUdp6 => AF_INET6
      | .socketTypeRaw => AF_PACKET
      | _ => AF_INET
    m_nSocketType := nType
    m_nBytesReceived := -1
    m_nBytesSent := -1
    m_nFlags := 0
    m_bIsBlocking := true
    m_bIsMulticast := false
    m_stConnectTimeout := ⟨1, 0⟩
    m_stRecvTimeout := ⟨0, 0⟩
    m_stSendTimeout := ⟨0, 0⟩
    m_stLinger := ⟨0, 0⟩ }

end ClSocket
