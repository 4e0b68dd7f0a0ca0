import Mathlib.Data.Int.Log
import Mathlib.Data.Rat.Floor
import Mathlib.Tactic.Linarith
import Mathlib.Tactic.FieldSimp
import Mathlib.Tactic.Positivity
import Mathlib.Tactic.NormNum

/-!
# Double arithmetic on rational values

A finite double denotes a rational number, and each arithmetic operation is the
exact rational operation followed by rounding to the nearest double, ties to
even. This module defines that rounding with its 53-bit significand and its
smallest exponent, and bounds its error. Values beyond the largest double are
outside its scope, and the sign of zero is not observable here.
-/
namespace Vasi.Binary64

/-- The nearest integer, ties to the even one. -/
def roundHalfEven (value : ℚ) : ℤ :=
  let low := ⌊value⌋
  if value - low < 1 / 2 then low
  else if 1 / 2 < value - low then low + 1
  else if low % 2 = 0 then low else low + 1

/-- The exponent of the last significand bit of the nearest doubles. -/
def lastBit (value : ℚ) : ℤ := max (Int.log 2 |value| - 52) (-1074)

/-- The nearest double. -/
def round (value : ℚ) : ℚ :=
  roundHalfEven (value / 2 ^ lastBit value) * 2 ^ lastBit value

/-- Double division. -/
def divide (dividend divisor : ℚ) : ℚ := round (dividend / divisor)

/-- Double multiplication. -/
def multiply (left right : ℚ) : ℚ := round (left * right)

/-- Math.round: the nearest integer, ties toward positive infinity. -/
def mathRound (value : ℚ) : ℤ := ⌊value + 1 / 2⌋

/-- Rounding to an integer moves a value by at most one half. -/
theorem roundHalfEven_distance (value : ℚ) : |(roundHalfEven value : ℚ) - value| ≤ 1 / 2 := by
  have below := Int.floor_le value
  have above := Int.lt_floor_add_one value
  unfold roundHalfEven
  dsimp only
  rw [abs_le]
  split_ifs with small large even <;> push_cast <;> constructor <;> linarith

/-- An integer rounds to itself. -/
theorem roundHalfEven_intCast (value : ℤ) : roundHalfEven value = value := by
  simp [roundHalfEven]

/-- Rounding to a double moves a value by at most half a unit in the last place. -/
theorem round_distance (value : ℚ) : |round value - value| ≤ 2 ^ lastBit value / 2 := by
  have unit : (0 : ℚ) < 2 ^ lastBit value := zpow_pos (by norm_num) _
  have near := roundHalfEven_distance (value / 2 ^ lastBit value)
  have scaled : round value - value =
      ((roundHalfEven (value / 2 ^ lastBit value) : ℚ) - value / 2 ^ lastBit value) *
        2 ^ lastBit value := by
    rw [round, sub_mul, div_mul_cancel₀ _ unit.ne']
  rw [scaled, abs_mul, abs_of_pos unit]
  calc |(roundHalfEven (value / 2 ^ lastBit value) : ℚ) - value / 2 ^ lastBit value| *
        2 ^ lastBit value ≤ 1 / 2 * 2 ^ lastBit value := by gcongr
    _ = 2 ^ lastBit value / 2 := by ring

/-- Values below 2^53 move by less than any fixed grid of that size can see. -/
theorem round_distance_lt {value : ℚ} {bits : ℕ} (bound : |value| < 2 ^ bits)
    (normal : bits ≤ 53) : |round value - value| ≤ 2 ^ (bits : ℤ) / 2 ^ 54 := by
  rcases eq_or_ne value 0 with rfl | nonzero
  · have zero : round 0 = 0 := by simp [round, roundHalfEven]
    rw [zero, sub_zero, abs_zero]
    positivity
  refine (round_distance value).trans ?_
  have exponent : lastBit value ≤ bits - 53 := by
    have low : Int.log 2 |value| < bits := by
      refine (Int.lt_zpow_iff_log_lt (by norm_num) (abs_pos.mpr nonzero)).mp ?_
      simpa using bound
    unfold lastBit
    omega
  calc (2 : ℚ) ^ lastBit value / 2 ≤ 2 ^ ((bits : ℤ) - 53) / 2 := by gcongr; norm_num
    _ = 2 ^ (bits : ℤ) / 2 ^ 54 := by
      rw [zpow_sub₀ (by norm_num)]
      norm_num
      ring

/-- Integers up to 2^53 are doubles. -/
theorem round_intCast (value : ℤ) (bound : |value| < 2 ^ 53) : round value = value := by
  have exponent : lastBit (value : ℚ) ≤ 0 := by
    rcases eq_or_ne value 0 with rfl | nonzero
    · simp [lastBit]
    · have low : Int.log 2 |(value : ℚ)| < 53 := by
        refine (Int.lt_zpow_iff_log_lt (by norm_num) (by positivity)).mp ?_
        exact_mod_cast bound
      unfold lastBit
      omega
  obtain ⟨shift, same⟩ := Int.exists_eq_neg_ofNat exponent
  have whole : (value : ℚ) / 2 ^ lastBit (value : ℚ) = ((value * 2 ^ shift : ℤ) : ℚ) := by
    rw [same, zpow_neg, div_inv_eq_mul]
    push_cast
    simp
  rw [round, whole, roundHalfEven_intCast, ← whole]
  exact div_mul_cancel₀ _ (zpow_pos (by norm_num) _).ne'

/-- Integers from 2^53 on stay large. -/
theorem round_large {value : ℕ} (large : 2 ^ 53 ≤ value) : (2 : ℚ) ^ 52 ≤ round value := by
  have least : (2 : ℚ) ^ 53 ≤ value := by exact_mod_cast large
  have positive : (0 : ℚ) < value := lt_of_lt_of_le (by norm_num) least
  have exponent : lastBit (value : ℚ) = Int.log 2 (value : ℚ) - 52 := by
    have log : (53 : ℤ) ≤ Int.log 2 (value : ℚ) := by
      refine (Int.zpow_le_iff_le_log (by norm_num) positive).mp ?_
      exact_mod_cast large
    rw [lastBit, abs_of_pos positive]
    omega
  have unit : (2 : ℚ) ^ lastBit (value : ℚ) ≤ value / 2 ^ 52 := by
    have below : (2 : ℚ) ^ Int.log 2 (value : ℚ) ≤ value := by
      exact_mod_cast Int.zpow_log_le_self (b := 2) (by norm_num) positive
    rw [exponent, zpow_sub₀ (by norm_num)]
    gcongr
    norm_num
  have lower := (abs_le.mp (round_distance (value : ℚ))).1
  have half : (value : ℚ) / 2 ^ 52 / 2 ≤ value / 2 := by
    rw [div_div]
    gcongr
    norm_num
  linarith

/-- Rounding to an integer stays below an integer bound. -/
theorem mathRound_le {value : ℚ} {bound : ℤ} (below : value ≤ bound) :
    mathRound value ≤ bound := by
  unfold mathRound
  have floor : ⌊value + 1 / 2⌋ < bound + 1 := by
    rw [Int.floor_lt]
    push_cast
    linarith
  omega

/-- Rounding to an integer stays above an integer bound. -/
theorem le_mathRound {value : ℚ} {bound : ℤ} (above : bound ≤ value) :
    bound ≤ mathRound value := by
  unfold mathRound
  rw [Int.le_floor]
  linarith

/-- A quotient of small integers by a small constant is an integer exactly when
it is one before rounding. -/
theorem divide_isInteger {dividend divisor : ℤ} (positive : 0 < divisor)
    (small : divisor ≤ 2 ^ 20) (nonnegative : 0 ≤ dividend) (bound : dividend < divisor * 2 ^ 10) :
    (divide dividend divisor).den = 1 ↔ divisor ∣ dividend := by
  have scale : (0 : ℚ) < divisor := by exact_mod_cast positive
  have size : |(dividend : ℚ) / divisor| < 2 ^ 10 := by
    rw [abs_of_nonneg (by positivity), div_lt_iff₀ scale]
    have cast : (dividend : ℚ) < divisor * 2 ^ 10 := by exact_mod_cast bound
    linarith
  constructor
  · intro whole
    have near := round_distance_lt size (by norm_num)
    obtain ⟨quotient, same⟩ : ∃ quotient : ℤ, round ((dividend : ℚ) / divisor) = quotient :=
      ⟨_, (Rat.coe_int_num_of_den_eq_one whole).symm⟩
    rw [same] at near
    have far : |((quotient * divisor - dividend : ℤ) : ℚ)| < 1 := by
      have exact : ((quotient * divisor - dividend : ℤ) : ℚ) =
          ((quotient : ℚ) - dividend / divisor) * divisor := by
        push_cast
        field_simp
      have smallScale : (divisor : ℚ) ≤ 2 ^ 20 := by exact_mod_cast small
      rw [exact, abs_mul, abs_of_pos scale]
      calc _ ≤ (2 ^ ((10 : ℕ) : ℤ) / 2 ^ 54 : ℚ) * 2 ^ 20 := by gcongr
        _ < 1 := by norm_num
    have zero : quotient * divisor - dividend = 0 := by
      have integral : |quotient * divisor - dividend| < 1 := by exact_mod_cast far
      exact Int.abs_lt_one_iff.mp integral
    exact ⟨quotient, by linarith⟩
  · rintro ⟨quotient, rfl⟩
    have exact : ((divisor * quotient : ℤ) : ℚ) / divisor = quotient := by
      push_cast
      field_simp
    have inside : |quotient| < 2 ^ 53 := by
      rw [exact] at size
      have cast : |quotient| < 2 ^ 10 := by exact_mod_cast size
      omega
    rw [divide, exact, round_intCast quotient inside]
    exact Rat.den_intCast quotient

end Vasi.Binary64
