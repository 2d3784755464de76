import StackCall.Proofs.Number.Rounding

set_option autoImplicit false

namespace StackCall

open Float.Model (Format UnpackedFloat totalExponent)
open Float.Model.UnpackedFloat (roundWithAccuracy divCore accuracyOfFraction)

theorem sign_of_mul (a b : Bool) : signOf a * signOf b = signOf (a ^^ b) := by
  cases a <;> cases b <;> rfl

theorem sign_of_div (a b : Bool) : signOf a / signOf b = signOf (a ^^ b) := by
  cases a <;> cases b <;> rfl

namespace Binary

def magnitude (number : Binary) : ℚ := number.mantissa * 2 ^ number.exponent

def value (number : Binary) : ℚ :=
  if number.negative then -number.magnitude else number.magnitude

theorem magnitude_pos {number : Binary} (positive : 0 < number.mantissa) :
    0 < number.magnitude := by
  rw [magnitude]
  positivity

theorem magnitude_zero {number : Binary} (none : number.mantissa = 0) : number.magnitude = 0 := by
  rw [magnitude, none, Nat.cast_zero, zero_mul]

theorem abs_value (number : Binary) : |number.value| = number.magnitude := by
  have nonnegative : 0 ≤ number.magnitude := by
    rw [magnitude]
    positivity
  rw [value]
  split
  · rw [abs_neg, abs_of_nonneg nonnegative]
  · exact abs_of_nonneg nonnegative

theorem magnitude_eq_quarters (number : Binary) :
    number.magnitude = 4 * number.mantissa * number.quarter := by
  rw [magnitude, quarter, zpow_sub₀ two_ne_zero]
  norm_num
  ring

theorem reaches_magnitude (number : Binary) : number.Reaches number.magnitude := by
  have centre := (number.holds_iff _).mp number.holds_centre
  rw [number.magnitude_eq_quarters, quarter_eq, ← mul_assoc]
  exact_mod_cast centre

section

variable {left right : Binary} (normalLeft : left.Normal) (normalRight : right.Normal)
include normalLeft normalRight

theorem Reaches.magnitude_eq {x : ℚ} (reachesLeft : left.Reaches x)
    (reachesRight : right.Reaches x) : left.magnitude = right.magnitude := by
  obtain ⟨mantissas, exponents⟩ :=
    reaches_unique normalLeft normalRight reachesLeft reachesRight
  rw [magnitude, magnitude, mantissas, exponents]

theorem Reaches.magnitude_le {x y : ℚ} (reachesLeft : left.Reaches x)
    (reachesRight : right.Reaches y) (order : x ≤ y) : left.magnitude ≤ right.magnitude := by
  by_cases below : x ≤ right.magnitude
  · by_contra more
    have both := reachesLeft.between left.reaches_magnitude below (not_le.mp more).le
    exact more (both.magnitude_eq normalLeft normalRight right.reaches_magnitude).le
  · have both := right.reaches_magnitude.between reachesRight (not_le.mp below).le order
    exact (reachesLeft.magnitude_eq normalLeft normalRight both).le

end

section

variable {left right : Binary} (fullLeft : left.Full) (fullRight : right.Full)
include fullLeft fullRight

theorem Full.eq_of_reaches (signs : left.negative = right.negative) {x : ℚ}
    (reachesLeft : left.Reaches x) (reachesRight : right.Reaches x) : left = right := by
  obtain ⟨mantissas, exponents⟩ :=
    reaches_unique fullLeft.normal fullRight.normal reachesLeft reachesRight
  exact Binary.ext signs mantissas exponents

theorem mul_wide (least : -1126 ≤ left.exponent + right.exponent) :
    ∃ product : Binary, product.Wide ∧ product.negative = (left.negative ^^ right.negative) ∧
      product.exponent ≤ left.exponent + right.exponent + 54 ∧
      product.Reaches (left.magnitude * right.magnitude) ∧
      left.toFloat * right.toFloat = product.toFloat := by
  have multiplied :
      UnpackedFloat.mul Format.binary64 left.toFloat.toModel.unpack right.toFloat.toModel.unpack =
        roundWithAccuracy Format.binary64 (signOf (left.negative ^^ right.negative))
          (left.mantissa * right.mantissa) (left.exponent + right.exponent) .exact := by
    rw [unpack_to_float fullLeft, unpack_to_float fullRight, fullLeft.unpacked_eq,
      fullRight.unpacked_eq, ← sign_of_mul]
    rfl
  have lower : 2 ^ (52 + 52) ≤ left.mantissa * right.mantissa := by
    rw [pow_add]
    exact Nat.mul_le_mul fullLeft.full fullRight.full
  have upper : left.mantissa * right.mantissa < 2 ^ (53 + 53) := by
    rw [pow_add]
    exact Nat.mul_lt_mul'' fullLeft.small fullRight.small
  obtain ⟨places, size, low, high⟩ : ∃ places,
      (left.mantissa * right.mantissa).log2 = 52 + places ∧ 52 ≤ places ∧ places < 54 := by
    have nonzero := (Nat.mul_pos fullLeft.positive fullRight.positive).ne'
    have atLeast := (Nat.le_log2 nonzero).mpr lower
    have below := (Nat.log2_lt nonzero).mpr upper
    exact ⟨(left.mantissa * right.mantissa).log2 - 52, by omega, by omega, by omega⟩
  obtain ⟨product, wide, sign, most, reaches, rounded⟩ :=
    round_wide (left.negative ^^ right.negative) (holds_exact _) size
      (by omega : -1074 ≤ left.exponent + right.exponent + places)
  refine ⟨product, wide, sign, by omega, ?_, ?_⟩
  · rw [magnitude, magnitude, mul_mul_mul_comm, ← zpow_add₀ two_ne_zero]
    exact_mod_cast reaches
  · exact congrArg (fun result => Float.ofModel (.pack result)) (multiplied.trans rounded)

theorem mul_to_float (least : -1126 ≤ left.exponent + right.exponent)
    (greatest : left.exponent + right.exponent < 918) :
    ∃ product : Binary, product.Full ∧ product.negative = (left.negative ^^ right.negative) ∧
      product.Reaches (left.magnitude * right.magnitude) ∧
      left.toFloat * right.toFloat = product.toFloat := by
  obtain ⟨product, wide, sign, most, reaches, multiplied⟩ := mul_wide fullLeft fullRight least
  exact ⟨product, wide.bounded (by omega), sign, reaches, multiplied⟩

theorem div_core_full (least : -1021 ≤ left.exponent - right.exponent) :
    divCore Format.binary64 left.mantissa left.exponent right.mantissa right.exponent =
      (left.mantissa * 2 ^ 53 / right.mantissa, left.exponent - right.exponent - 53,
        accuracyOfFraction (left.mantissa * 2 ^ 53 % right.mantissa) right.mantissa) := by
  have target : Format.binary64.targetExponent (totalExponent left.mantissa left.exponent -
      totalExponent right.mantissa right.exponent) = left.exponent - right.exponent - 53 := by
    simp only [Format.targetExponent, totalExponent, fullLeft.log2, fullRight.log2,
      Format.mantissaBits, Format.minExponent]
    omega
  have lower : left.exponent - right.exponent - 53 ≤ left.exponent - right.exponent := by omega
  have shift : (left.exponent - right.exponent - (left.exponent - right.exponent - 53)).toNat =
      53 := by omega
  simp only [divCore, target, min_eq_right lower, shift, Nat.shiftLeft_eq]

theorem div_to_float (least : -1021 ≤ left.exponent - right.exponent)
    (greatest : left.exponent - right.exponent < 1023) :
    ∃ quotient : Binary, quotient.Full ∧ quotient.negative = (left.negative ^^ right.negative) ∧
      quotient.Reaches (left.magnitude / right.magnitude) ∧
      left.toFloat / right.toFloat = quotient.toFloat := by
  have divided :
      UnpackedFloat.div Format.binary64 left.toFloat.toModel.unpack right.toFloat.toModel.unpack =
        roundWithAccuracy Format.binary64 (signOf (left.negative ^^ right.negative))
          (left.mantissa * 2 ^ 53 / right.mantissa) (left.exponent - right.exponent - 53)
          (accuracyOfFraction (left.mantissa * 2 ^ 53 % right.mantissa) right.mantissa) := by
    rw [unpack_to_float fullLeft, unpack_to_float fullRight, fullLeft.unpacked_eq,
      fullRight.unpacked_eq, ← sign_of_div, UnpackedFloat.div,
      div_core_full fullLeft fullRight least]
  have bounds : 2 ^ 52 ≤ left.mantissa * 2 ^ 53 / right.mantissa ∧
      left.mantissa * 2 ^ 53 / right.mantissa < 2 ^ 54 := by
    have lower := fullLeft.full
    have upper := fullLeft.small
    have rightLower := fullRight.full
    have rightUpper := fullRight.small
    rw [leading] at lower upper rightLower rightUpper
    rw [Nat.le_div_iff_mul_le fullRight.positive, Nat.div_lt_iff_lt_mul fullRight.positive]
    omega
  obtain ⟨places, size, high⟩ : ∃ places,
      (left.mantissa * 2 ^ 53 / right.mantissa).log2 = 52 + places ∧ places < 2 := by
    have nonzero : left.mantissa * 2 ^ 53 / right.mantissa ≠ 0 := by omega
    have atLeast := (Nat.le_log2 nonzero).mpr bounds.1
    have below := (Nat.log2_lt nonzero).mpr bounds.2
    exact ⟨(left.mantissa * 2 ^ 53 / right.mantissa).log2 - 52, by omega, by omega⟩
  obtain ⟨quotient, full, sign, reaches, rounded⟩ :=
    round_reaches (left.negative ^^ right.negative) (holds_fraction _ fullRight.positive) size
      (by omega : -1074 ≤ left.exponent - right.exponent - 53 + places) (by omega)
  refine ⟨quotient, full, sign, ?_, ?_⟩
  · have scale : (left.mantissa * 2 ^ 53 : ℕ) / (right.mantissa : ℚ) *
        2 ^ (left.exponent - right.exponent - 53) = left.magnitude / right.magnitude := by
      rw [magnitude, magnitude, zpow_sub₀ two_ne_zero, zpow_sub₀ two_ne_zero]
      push_cast
      field_simp
    rwa [scale] at reaches
  · exact congrArg (fun result => Float.ofModel (.pack result)) (divided.trans rounded)

end

section

variable {number : Binary} (full : number.Full) {x : ℚ}
include full

-- A double is within one part in 2 ^ 53 of the numbers that are rounded to it, and all the numbers
-- within half of that are rounded to it.
theorem Full.near (reaches : number.Reaches x) :
    |x - number.magnitude| ≤ number.magnitude / 2 ^ 53 := by
  obtain ⟨low, high⟩ := reaches.bounds
  have gap : (number.gapBelow : ℚ) ≤ 2 := by exact_mod_cast number.gap_below_le
  have many : (leading : ℚ) ≤ number.mantissa := by exact_mod_cast full.full
  have positive := number.quarter_pos
  have inQuarters := number.magnitude_eq_quarters
  have reach : 2 * number.quarter ≤ number.magnitude / 2 ^ 53 := by
    have many := mul_le_mul_of_nonneg_right many positive.le
    rw [leading] at many
    rw [inQuarters, le_div_iff₀ (by positivity)]
    push_cast at many
    linarith
  have below : number.gapBelow * number.quarter ≤ 2 * number.quarter :=
    mul_le_mul_of_nonneg_right gap positive.le
  rw [Binary.low] at low
  rw [Binary.high] at high
  rw [inQuarters] at reach ⊢
  rw [abs_le]
  constructor <;> linarith

theorem Full.reaches_of_near (near : |x - number.magnitude| ≤ number.magnitude / 2 ^ 54) :
    number.Reaches x := by
  have scale : (0 : ℚ) < 2 ^ number.exponent := by positivity
  have scaled : x = x / 2 ^ number.exponent * 2 ^ number.exponent :=
    (div_mul_cancel₀ _ scale.ne').symm
  have close : |x / 2 ^ number.exponent - number.mantissa| ≤ number.mantissa / 2 ^ 54 := by
    rw [magnitude] at near
    rw [← mul_le_mul_iff_left₀ scale, ← abs_of_pos scale, ← abs_mul, abs_of_pos scale, sub_mul,
      ← scaled]
    linarith
  have few : (number.mantissa : ℚ) < 2 * leading := by exact_mod_cast full.small
  rw [scaled, reaches_scaled_iff]
  rw [abs_le] at close
  generalize x / 2 ^ number.exponent = y at close
  rw [leading] at few
  by_cases last : number.mantissa = leading
  · have gap : (1 : ℚ) ≤ number.gapBelow := by
      rw [gapBelow]
      split <;> norm_num
    have value : (number.mantissa : ℚ) = 4503599627370496 := by
      rw [last, leading, Nat.cast_ofNat]
    rw [value] at close
    rw [if_pos (by rw [last]; rfl), value]
    constructor <;> linarith
  · rw [gap_below_of_ne last]
    split <;> push_cast at * <;> constructor <;> linarith

end

end Binary

end StackCall
