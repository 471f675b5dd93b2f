import Mathlib.Data.Nat.Digits.Lemmas

/-!
# Numbers with their digits in reverse

The last `k` digits of a number (`Digits.low`) are taken with their zeros, so that they can be put in
reverse (`Digits.reversed`). Reversing twice gives what was there, and a number in two parts is
reversed part by part, with the parts changing places (`Digits.reversed_add`).
-/

namespace Digits

variable {b : ℕ}

/-- The last `k` digits, the lowest first. -/
def low (b : ℕ) : ℕ → ℕ → List ℕ
  | 0, _ => []
  | k + 1, n => n % b :: low b k (n / b)

/-- The number with these digits in reverse. -/
def reversed (b k n : ℕ) : ℕ := Nat.ofDigits b (low b k n).reverse

@[simp] theorem length_low (k n : ℕ) : (low b k n).length = k := by
  induction k generalizing n with
  | zero => rfl
  | succ k ih => rw [low, List.length_cons, ih]

theorem lt_of_mem_low (hb : 0 < b) {k n d : ℕ} (h : d ∈ low b k n) : d < b := by
  induction k generalizing n with
  | zero => cases h
  | succ k ih =>
    rcases List.mem_cons.mp h with rfl | h
    · exact Nat.mod_lt n hb
    · exact ih h

theorem low_add (j k n : ℕ) : low b (j + k) n = low b j n ++ low b k (n / b ^ j) := by
  induction j generalizing n with
  | zero => rw [Nat.zero_add, pow_zero, Nat.div_one, low, List.nil_append]
  | succ j ih =>
    rw [Nat.succ_add, low, low, ih, List.cons_append, Nat.div_div_eq_div_mul, ← pow_succ']

theorem ofDigits_low (k n : ℕ) : Nat.ofDigits b (low b k n) = n % b ^ k := by
  induction k generalizing n with
  | zero => rw [low, Nat.ofDigits_nil, pow_zero, Nat.mod_one]
  | succ k ih => rw [low, Nat.ofDigits_cons, ih, pow_succ', Nat.mod_mul]

/-- The lower digits are those of the lower part. -/
theorem low_mod (k n : ℕ) : low b k (n % b ^ k) = low b k n := by
  induction k generalizing n with
  | zero => rfl
  | succ k ih =>
    have hdiv : n % b ^ (k + 1) / b = n / b % b ^ k := by
      rw [pow_succ', Nat.mod_mul_right_div_self]
    have hmod : n % b ^ (k + 1) % b = n % b := by
      rw [pow_succ', Nat.mod_mul_right_mod]
    rw [low, low, hdiv, hmod, ih]

/-- The digits of a number are those it is made of. -/
theorem low_ofDigits (hb : 1 < b) {L : List ℕ} (hL : ∀ d ∈ L, d < b) :
    low b L.length (Nat.ofDigits b L) = L := by
  refine Nat.injOn_ofDigits hb L.length ⟨length_low _ _, fun d hd => ?_⟩ ⟨rfl, hL⟩ ?_
  · exact lt_of_mem_low (by omega) hd
  · rw [ofDigits_low, Nat.mod_eq_of_lt (Nat.ofDigits_lt_base_pow_length hb hL)]

/-- **Reversing by parts.** -/
theorem reversed_add (j k n : ℕ) :
    reversed b (j + k) n = reversed b k (n / b ^ j) + b ^ k * reversed b j n := by
  rw [reversed, low_add, List.reverse_append, Nat.ofDigits_append, List.length_reverse, length_low,
    reversed, reversed]

theorem reversed_lt (hb : 1 < b) (k n : ℕ) : reversed b k n < b ^ k := by
  have hlt := Nat.ofDigits_lt_base_pow_length hb (l := (low b k n).reverse) fun d hd =>
    lt_of_mem_low (by omega) (List.mem_reverse.mp hd)
  rwa [List.length_reverse, length_low] at hlt

/-- **Reversing twice.** -/
theorem reversed_reversed (hb : 1 < b) {k n : ℕ} (hn : n < b ^ k) :
    reversed b k (reversed b k n) = n := by
  have hdigits : low b k (reversed b k n) = (low b k n).reverse := by
    have hlow := low_ofDigits hb (L := (low b k n).reverse) fun d hd =>
      lt_of_mem_low (by omega) (List.mem_reverse.mp hd)
    rwa [List.length_reverse, length_low] at hlow
  rw [reversed, hdigits, List.reverse_reverse, ofDigits_low, Nat.mod_eq_of_lt hn]

end Digits
