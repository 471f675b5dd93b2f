import Mathlib.Order.Monotone.Defs
import ClSocket.Model.Types

/-!
# The elapsed time in its units

The timer keeps two readings of the clock, and `GetMicroSeconds`, `GetMilliSeconds` and
`GetSeconds` tell how far they are apart. `CalcTotalUSec` narrows the microseconds to 32 bits, and the
other two divide what is left of them. So a duration of `2 ^ 32` microseconds or more, which is about
71 minutes, is told wrongly in milliseconds and seconds too, although these would fit
(`elapsed_told_iff`).
-/

namespace ClSocket

/-- Times in their order: seconds first. -/
instance : PartialOrder Timeval where
  le a b := a.tv_sec < b.tv_sec ∨ a.tv_sec = b.tv_sec ∧ a.tv_usec ≤ b.tv_usec
  le_refl a := Or.inr ⟨rfl, le_rfl⟩
  le_trans a b c hab hbc := by omega
  le_antisymm a b hab hba := by
    cases a
    cases b
    simp only [Timeval.mk.injEq] at *
    omega

namespace Timeval

/-- The microseconds are less than a second. -/
def Normal (t : Timeval) : Prop := 0 ≤ t.tv_usec ∧ t.tv_usec < 1000000

instance (t : Timeval) : Decidable t.Normal := inferInstanceAs (Decidable (_ ∧ _))

/-- The time in microseconds. -/
def usecs (t : Timeval) : Int := t.tv_sec * 1000000 + t.tv_usec

theorem le_def {a b : Timeval} : a ≤ b ↔
    a.tv_sec < b.tv_sec ∨ a.tv_sec = b.tv_sec ∧ a.tv_usec ≤ b.tv_usec := Iff.rfl

instance (a b : Timeval) : Decidable (a ≤ b) := inferInstanceAs (Decidable (_ ∨ _))

/-- The order is that of the microseconds. -/
theorem le_iff_usecs {a b : Timeval} (ha : a.Normal) (hb : b.Normal) : a ≤ b ↔ a.usecs ≤ b.usecs := by
  obtain ⟨ha₀, ha₁⟩ := ha
  obtain ⟨hb₀, hb₁⟩ := hb
  rw [le_def, usecs, usecs]
  omega

end Timeval

namespace CStatTimer

variable {t : CStatTimer}

/-- The time from the start to the end, in microseconds. -/
def duration (t : CStatTimer) : Int := t.m_endTime.usecs - t.m_startTime.usecs

/-- **Each unit is told as it is** whenever it fits 32 bits. -/
structure ElapsedTold (t : CStatTimer) : Prop where
  micro : t.duration < 4294967296 → (t.getMicroSeconds.toNat : Int) = t.duration
  milli : t.duration / 1000 < 4294967296 → (t.getMilliSeconds.toNat : Int) = t.duration / 1000
  sec : t.duration / 1000000 < 4294967296 → (t.getSeconds.toNat : Int) = t.duration / 1000000

/-- A 64-bit signed number. -/
def InInt64 (n : Int) : Prop := -9223372036854775808 ≤ n ∧ n ≤ 9223372036854775807

/-- As long as the seconds fit 32 bits, no step of the computation overflows 64 bits. -/
theorem calcTotalUSec_inInt64 (hle : t.m_startTime ≤ t.m_endTime) (hs : t.m_startTime.Normal)
    (he : t.m_endTime.Normal) (hfit : t.duration / 1000000 < 4294967296) :
    InInt64 (t.m_endTime.tv_sec - t.m_startTime.tv_sec) ∧
      InInt64 ((t.m_endTime.tv_sec - t.m_startTime.tv_sec) * 1000000) ∧
      InInt64 (t.m_endTime.tv_usec - t.m_startTime.tv_usec) ∧ InInt64 t.duration := by
  obtain ⟨hs₀, hs₁⟩ := hs
  obtain ⟨he₀, he₁⟩ := he
  rw [Timeval.le_def] at hle
  simp only [InInt64, duration, Timeval.usecs] at hfit ⊢
  omega

/-- The narrowed microseconds. -/
theorem calcTotalUSec_toNat : (t.calcTotalUSec.toNat : Int) = t.duration % 4294967296 := by
  have harg : (t.m_endTime.tv_sec - t.m_startTime.tv_sec) * 1000000 +
      (t.m_endTime.tv_usec - t.m_startTime.tv_usec) = t.duration := by
    rw [duration, Timeval.usecs, Timeval.usecs]
    omega
  rw [calcTotalUSec, harg, UInt32.ofInt, UInt32.toNat_ofNat']
  omega

/-- **When the units are told as they are.** -/
theorem elapsed_told_iff (hle : t.m_startTime ≤ t.m_endTime) (hs : t.m_startTime.Normal)
    (he : t.m_endTime.Normal) :
    t.ElapsedTold ↔ t.duration < 4294967296 ∨ 4294967296 * 1000000 ≤ t.duration := by
  have hpos : 0 ≤ t.duration := Int.sub_nonneg.mpr ((Timeval.le_iff_usecs hs he).mp hle)
  -- all three are taken from the total, which is 32 bits wide
  have htotal := t.calcTotalUSec_toNat
  have hmilli : (t.getMilliSeconds.toNat : Int) = t.duration % 4294967296 / 1000 := by
    rw [← htotal, getMilliSeconds, UInt32.toNat_div]
    rfl
  have hsec : (t.getSeconds.toNat : Int) = t.duration % 4294967296 / 1000000 := by
    rw [← htotal, getSeconds, UInt32.toNat_div]
    rfl
  constructor
  · intro h
    -- the seconds fit while the microseconds do not
    by_contra hnot
    obtain ⟨hbig, hsmall⟩ := not_or.mp hnot
    have htold := h.sec (by omega)
    rw [hsec] at htold
    omega
  · intro h
    refine ⟨fun hfit => ?_, fun hfit => ?_, fun hfit => ?_⟩
    · rw [getMicroSeconds, htotal]
      omega
    · rw [hmilli]
      omega
    · rw [hsec]
      omega

/-- Two seconds and a half. -/
theorem elapsed_told_short : ElapsedTold ⟨⟨10, 900000⟩, ⟨13, 400000⟩⟩ :=
  (elapsed_told_iff (by decide) (by decide) (by decide)).mpr (Or.inl (by decide))

/-- After 71 minutes and 35 seconds, that is `2 ^ 32` microseconds, no time has passed. -/
theorem elapsed_untold_long :
    getMilliSeconds ⟨⟨0, 0⟩, ⟨4294, 967296⟩⟩ = 0 ∧ ¬ ElapsedTold ⟨⟨0, 0⟩, ⟨4294, 967296⟩⟩ :=
  ⟨by decide, fun h => absurd (h.milli (by decide)) (by decide)⟩

end CStatTimer

end ClSocket
