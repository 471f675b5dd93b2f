import ClSocket.Framework.Digits
import ClSocket.Model.Types

/-!
# The bytes of a number in reverse

`htonl` puts the four bytes of its argument in reverse (`htonl_toNat`). A 64-bit number is reversed by
halves: each half with its bytes in reverse, and the two in each other's place (`swapped_halves`).
-/

namespace ClSocket.Host

/-- The number with its eight bytes in reverse. -/
def byteReversed (v : UInt64) : UInt64 := UInt64.ofNat (Digits.reversed 256 8 v.toNat)

def lower (v : UInt64) : UInt32 := v.toUInt32

def upper (v : UInt64) : UInt32 := (v >>> 32).toUInt32

/-- Two halves, each with its bytes in reverse, in each other's place. -/
def swapped (lo hi : UInt32) : UInt64 := (htonl lo).toUInt64 <<< 32 + (htonl hi).toUInt64

theorem and_mask (m k i : ℕ) : m &&& ((2 ^ k - 1) <<< i) = (m >>> i % 2 ^ k) <<< i := by
  rw [← Nat.and_two_pow_sub_one_eq_mod, Nat.shiftLeft_and_distrib]
  refine Nat.eq_of_testBit_eq fun j => ?_
  by_cases h : i ≤ j <;> simp [h]

/-- **`htonl`** reverses the four bytes. -/
theorem htonl_toNat (x : UInt32) : (htonl x).toNat = Digits.reversed 256 4 x.toNat := by
  have hlt := x.toNat_lt
  have h₀ : (x <<< 24).toNat = (x.toNat % 256) <<< 24 := by
    rw [UInt32.toNat_shiftLeft, Nat.shiftLeft_eq, Nat.shiftLeft_eq]
    change x.toNat * 2 ^ 24 % 2 ^ 32 = _
    omega
  have h₁ : (x <<< 8 &&& (0xff0000 : UInt32)).toNat = (x.toNat / 256 % 256) <<< 16 := by
    rw [UInt32.toNat_and, UInt32.toNat_shiftLeft]
    refine (and_mask _ 8 16).trans ?_
    rw [Nat.shiftLeft_eq, Nat.shiftLeft_eq, Nat.shiftLeft_eq, Nat.shiftRight_eq_div_pow]
    change x.toNat * 2 ^ 8 % 2 ^ 32 / 2 ^ 16 % 2 ^ 8 * 2 ^ 16 = _
    omega
  have h₂ : (x >>> 8 &&& (0xff00 : UInt32)).toNat = (x.toNat / 65536 % 256) <<< 8 := by
    rw [UInt32.toNat_and, UInt32.toNat_shiftRight]
    refine (and_mask _ 8 8).trans ?_
    rw [Nat.shiftLeft_eq, Nat.shiftLeft_eq, Nat.shiftRight_eq_div_pow, Nat.shiftRight_eq_div_pow]
    change x.toNat / 2 ^ 8 / 2 ^ 8 % 2 ^ 8 * 2 ^ 8 = _
    omega
  have h₃ : (x >>> 24).toNat = x.toNat / 16777216 := by
    rw [UInt32.toNat_shiftRight, Nat.shiftRight_eq_div_pow]
    rfl
  -- the four bytes do not overlap, so that they add up
  have hlow : (x.toNat / 65536 % 256) <<< 8 ||| x.toNat / 16777216 =
      x.toNat / 65536 % 256 * 256 + x.toNat / 16777216 := by
    rw [← Nat.shiftLeft_add_eq_or_of_lt (by omega), Nat.shiftLeft_eq]
  have hmid : (x.toNat / 256 % 256) <<< 16 ||| (x.toNat / 65536 % 256 * 256 + x.toNat / 16777216) =
      x.toNat / 256 % 256 * 65536 + (x.toNat / 65536 % 256 * 256 + x.toNat / 16777216) := by
    rw [← Nat.shiftLeft_add_eq_or_of_lt (by omega), Nat.shiftLeft_eq]
  rw [htonl, UInt32.toNat_or, UInt32.toNat_or, UInt32.toNat_or, h₀, h₁, h₂, h₃, Nat.or_assoc,
    Nat.or_assoc, hlow, hmid, ← Nat.shiftLeft_add_eq_or_of_lt (by omega), Nat.shiftLeft_eq]
  simp only [Digits.reversed, Digits.low, List.reverse_cons, List.reverse_nil, List.nil_append,
    List.cons_append, Nat.ofDigits_cons, Nat.ofDigits_nil, Nat.div_div_eq_div_mul, Nat.reduceMul]
  omega

theorem htonl_htonl (x : UInt32) : htonl (htonl x) = x := by
  refine UInt32.toNat_inj.mp ?_
  have hlt : x.toNat < 256 ^ 4 := x.toNat_lt
  rw [htonl_toNat, htonl_toNat, Digits.reversed_reversed (by decide) hlt]

theorem swapped_toNat (lo hi : UInt32) :
    (swapped lo hi).toNat = (htonl lo).toNat * 4294967296 + (htonl hi).toNat := by
  have hlo := (htonl lo).toNat_lt
  have hhi := (htonl hi).toNat_lt
  have hshift : ((htonl lo).toUInt64 <<< 32).toNat = (htonl lo).toNat * 4294967296 := by
    rw [UInt64.toNat_shiftLeft, Nat.shiftLeft_eq, UInt32.toNat_toUInt64]
    change (htonl lo).toNat * 2 ^ 32 % 2 ^ 64 = _
    omega
  rw [swapped, UInt64.toNat_add, hshift, UInt32.toNat_toUInt64]
  omega

theorem swapped_inj {lo hi hi' : UInt32} : swapped lo hi = swapped lo hi' ↔ hi = hi' := by
  refine ⟨fun h => ?_, fun h => by rw [h]⟩
  have hnat := congrArg UInt64.toNat h
  rw [swapped_toNat, swapped_toNat] at hnat
  have hswap : htonl hi = htonl hi' := UInt32.toNat_inj.mp (Nat.add_left_cancel hnat)
  rw [← htonl_htonl hi, hswap, htonl_htonl]

theorem byteReversed_toNat (v : UInt64) :
    (byteReversed v).toNat = Digits.reversed 256 8 v.toNat :=
  UInt64.toNat_ofNat_of_lt' (Digits.reversed_lt (by decide) 8 v.toNat)

/-- **A number is reversed by halves.** -/
theorem swapped_halves (v : UInt64) : swapped (lower v) (upper v) = byteReversed v := by
  have hlow : (lower v).toNat = v.toNat % 256 ^ 4 := UInt64.toNat_toUInt32 v
  have hup : (upper v).toNat = v.toNat / 256 ^ 4 := by
    have hv := v.toNat_lt
    rw [upper, UInt64.toNat_toUInt32, UInt64.toNat_shiftRight, Nat.shiftRight_eq_div_pow]
    change v.toNat / 2 ^ 32 % 2 ^ 32 = _
    omega
  have hrev : Digits.reversed 256 4 (v.toNat % 256 ^ 4) = Digits.reversed 256 4 v.toNat := by
    rw [Digits.reversed, Digits.low_mod, ← Digits.reversed]
  refine UInt64.toNat_inj.mp ?_
  rw [swapped_toNat, byteReversed_toNat, htonl_toNat, htonl_toNat, hlow, hup, hrev,
    Digits.reversed_add 4 4 v.toNat]
  omega

theorem byteReversed_byteReversed (v : UInt64) : byteReversed (byteReversed v) = v := by
  refine UInt64.toNat_inj.mp ?_
  have hlt : v.toNat < 256 ^ 8 := v.toNat_lt
  rw [byteReversed_toNat, byteReversed_toNat, Digits.reversed_reversed (by decide) hlt]

end ClSocket.Host
