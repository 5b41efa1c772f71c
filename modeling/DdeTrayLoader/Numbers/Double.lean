import Mathlib.Data.Int.Log
import Mathlib.Data.Rat.Floor
import Mathlib.Tactic.Linarith

/-!
# Doubles

A double has 53 binary digits. The result of an operation is rounded to the nearest number with as
many digits, and halfway between two of them to the even one. Only positive results are rounded
here, and results that no exponent is too large or too small for.
-/

namespace DdeTrayLoader.Numbers

/-- The nearest integer, or of two the even one. -/
def roundHalfEven (x : ℚ) : ℤ :=
  if x - ⌊x⌋ < 1 / 2 ∨ x - ⌊x⌋ = 1 / 2 ∧ ⌊x⌋ % 2 = 0 then ⌊x⌋ else ⌊x⌋ + 1

/-- The value of the last of 53 digits. -/
def lastPlace (x : ℚ) : ℚ := 2 ^ (Int.log 2 x - 52)

/-- A positive result, rounded to 53 digits. -/
def roundDouble (x : ℚ) : ℚ := roundHalfEven (x / lastPlace x) * lastPlace x

/-- The number is that of a finite double that is not negative. -/
def IsDouble (x : ℚ) : Prop :=
  ∃ (digits : ℕ) (exponent : ℤ), digits < 2 ^ 53 ∧ -1074 ≤ exponent ∧ exponent ≤ 971 ∧
    x = digits * 2 ^ exponent

/-- Rounding to an integer does not go below another one. -/
theorem le_roundHalfEven {x : ℚ} {m : ℤ} (hm : m ≤ x) : m ≤ roundHalfEven x := by
  have hfloor : m ≤ ⌊x⌋ := Int.le_floor.mpr hm
  unfold roundHalfEven
  split_ifs <;> omega

/-- Nor does it go above. -/
theorem roundHalfEven_le {x : ℚ} {m : ℤ} (hm : x ≤ m) : roundHalfEven x ≤ m := by
  have hfloor : ⌊x⌋ ≤ m := Int.cast_le.mp ((Int.floor_le x).trans hm)
  unfold roundHalfEven
  split_ifs with hdown
  · exact hfloor
  · refine Int.add_one_le_of_lt (lt_of_le_of_ne hfloor fun heq => hdown (.inl ?_))
    -- A number at the bound is an integer already.
    have hx : x = ⌊x⌋ := le_antisymm (by rw [heq]; exact hm) (Int.floor_le x)
    rw [← hx, sub_self]
    norm_num

theorem lastPlace_pos (x : ℚ) : 0 < lastPlace x := zpow_pos (by norm_num) _

/-- Below `2 ^ 53` an integer has no digits after the last place. -/
theorem exists_mul_lastPlace {x : ℚ} (hpos : 0 < x) (hlt : x < 2 ^ 53) (m : ℤ) :
    ∃ n : ℤ, (n : ℚ) * lastPlace x = m := by
  have hlog : Int.log 2 x < 53 := by
    rw [← Int.lt_zpow_iff_log_lt (by norm_num) hpos]
    exact_mod_cast hlt
  obtain ⟨k, hk⟩ : ∃ k : ℕ, Int.log 2 x - 52 = -(k : ℤ) := ⟨(52 - Int.log 2 x).toNat, by omega⟩
  refine ⟨m * 2 ^ k, ?_⟩
  have hpow : (2 : ℚ) ^ k ≠ 0 := by positivity
  rw [lastPlace, hk, zpow_neg, zpow_natCast]
  push_cast
  exact mul_inv_cancel_right₀ hpow _

/-- Rounding does not go below an integer. -/
theorem le_roundDouble {x : ℚ} (hpos : 0 < x) (hlt : x < 2 ^ 53) {m : ℤ} (hm : m ≤ x) :
    m ≤ roundDouble x := by
  obtain ⟨n, hn⟩ := exists_mul_lastPlace hpos hlt m
  have hplace := lastPlace_pos x
  have hle : (n : ℚ) ≤ x / lastPlace x := by
    rw [le_div_iff₀ hplace, hn]
    exact hm
  have hround : (n : ℚ) ≤ roundHalfEven (x / lastPlace x) :=
    Int.cast_le.mpr (le_roundHalfEven hle)
  rw [← hn]
  exact mul_le_mul_of_nonneg_right hround hplace.le

theorem roundDouble_le {x : ℚ} (hpos : 0 < x) (hlt : x < 2 ^ 53) {m : ℤ} (hm : x ≤ m) :
    roundDouble x ≤ m := by
  obtain ⟨n, hn⟩ := exists_mul_lastPlace hpos hlt m
  have hplace := lastPlace_pos x
  have hle : x / lastPlace x ≤ n := by
    rw [div_le_iff₀ hplace, hn]
    exact hm
  have hround : (roundHalfEven (x / lastPlace x) : ℚ) ≤ n :=
    Int.cast_le.mpr (roundHalfEven_le hle)
  rw [← hn]
  exact mul_le_mul_of_nonneg_right hround hplace.le

theorem roundDouble_nonneg {x : ℚ} (hpos : 0 < x) : 0 ≤ roundDouble x := by
  have hplace := lastPlace_pos x
  have hle : ((0 : ℤ) : ℚ) ≤ x / lastPlace x := by
    rw [Int.cast_zero]
    exact div_nonneg hpos.le hplace.le
  exact mul_nonneg (Int.cast_nonneg (le_roundHalfEven hle)) hplace.le

/-- Cut to an integer, the rounded number is the exact one, or the next integer that it is rounded
to. -/
theorem floor_roundDouble {x : ℚ} (hpos : 0 < x) (hlt : x < 2 ^ 53) :
    ⌊roundDouble x⌋ = ⌊x⌋ ∨ roundDouble x = ⌊x⌋ + 1 := by
  have hbelow : (⌊x⌋ : ℚ) ≤ roundDouble x := le_roundDouble hpos hlt (Int.floor_le x)
  have habove : roundDouble x ≤ ⌊x⌋ + 1 := by
    have hnext : x ≤ (⌊x⌋ + 1 : ℤ) := by
      rw [Int.cast_add, Int.cast_one]
      exact (Int.lt_floor_add_one x).le
    have hround := roundDouble_le hpos hlt hnext
    rw [Int.cast_add, Int.cast_one] at hround
    exact hround
  rcases habove.lt_or_eq with hinside | hnext
  · exact .inl (Int.floor_eq_iff.mpr ⟨hbelow, hinside⟩)
  · exact .inr hnext

/-- The double nearest to 2.2 is a little more, and 121 divided by it is less than 55. -/
example : ⌊roundDouble (121 / (4953959590107546 / 2 ^ 51))⌋ = 54 := by decide +kernel

/-- An integer is not rounded. -/
theorem roundDouble_intCast {m : ℤ} (hpos : 0 < m) (hlt : m < 2 ^ 53) :
    roundDouble (m : ℚ) = m := by
  have hpos' : (0 : ℚ) < m := Int.cast_pos.mpr hpos
  have hlt' : (m : ℚ) < 2 ^ 53 := by exact_mod_cast hlt
  exact le_antisymm (roundDouble_le hpos' hlt' le_rfl) (le_roundDouble hpos' hlt' le_rfl)

end DdeTrayLoader.Numbers
