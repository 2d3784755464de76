import StackCall.Proofs.Number.Arithmetic
import StackCall.Proofs.Number.Exact

set_option autoImplicit false

namespace StackCall.Binary

open Float.Model (Format UnpackedFloat totalExponent)
open Float.Model.UnpackedFloat (Sign decreaseExponent roundWithAccuracy)

def integer (n : ℕ) : Binary := ⟨false, n * 2 ^ (52 - n.log2), n.log2 - 52⟩

section

variable {n : ℕ} (positive : 0 < n) (bounded : n < 2 * leading)
include positive bounded

theorem log2_le : n.log2 ≤ 52 := by
  have below := (Nat.log2_lt positive.ne').mpr (show n < 2 ^ 53 from bounded)
  omega

theorem integer_full : (integer n).Full := by
  have few := log2_le positive bounded
  obtain ⟨lower, upper⟩ := (Nat.log2_eq_iff positive.ne').mp (rfl : n.log2 = n.log2)
  have sum : 2 ^ n.log2 * 2 ^ (52 - n.log2) = leading := by
    rw [← pow_add, Nat.add_sub_cancel' few]
    rfl
  refine ⟨?_, ?_, (by omega : -1074 ≤ (n.log2 : ℤ) - 52), (by omega : (n.log2 : ℤ) - 52 ≤ 971)⟩
  · rw [← sum]
    exact Nat.mul_le_mul_right _ lower
  · rw [← sum, ← mul_assoc, ← pow_succ']
    exact Nat.mul_lt_mul_of_pos_right upper (by positivity)

theorem integer_magnitude : (integer n).magnitude = n := by
  have few := log2_le positive bounded
  have powers : ((52 - n.log2 : ℕ) : ℤ) + ((n.log2 : ℤ) - 52) = 0 := by omega
  rw [magnitude, integer, Nat.cast_mul, Nat.cast_pow, Nat.cast_ofNat, mul_assoc, ← zpow_natCast,
    ← zpow_add₀ two_ne_zero, powers, zpow_zero, mul_one]

theorem round_integer :
    UnpackedFloat.ofNat Format.binary64 n = (integer n).unpacked := by
  have few := log2_le positive bounded
  have full := integer_full positive bounded
  have target : Format.binary64.targetExponent (totalExponent n 0) = (n.log2 : ℤ) - 52 := by
    simp only [Format.targetExponent, totalExponent, Format.mantissaBits, Format.minExponent]
    omega
  have shift : (0 - ((n.log2 : ℤ) - 52)).toNat = 52 - n.log2 := by omega
  have exponent : (0 : ℤ) - ((52 - n.log2 : ℕ) : ℤ) = (integer n).exponent - (0 : ℕ) := by
    change _ = (n.log2 : ℤ) - 52 - (0 : ℕ)
    omega
  have rounded := round_scaled full.held full.positive (signOf false) 0
  rw [pow_zero, mul_one] at rounded
  rw [UnpackedFloat.ofNat, UnpackedFloat.ofInt, UnpackedFloat.normalize,
    Int.compare_eq_gt.mpr (by omega)]
  simp only [UnpackedFloat.round, target, decreaseExponent, shift, exponent, Int.toNat_natCast,
    Nat.shiftLeft_eq]
  rw [full.unpacked_eq]
  exact rounded

theorem to_uint64_to_float : n.toUInt64.toFloat = (integer n).toFloat := by
  have kept : n.toUInt64.toNat = n := Nat.mod_eq_of_lt (bounded.trans (by decide))
  have rounded := round_integer positive bounded
  rw [← kept] at rounded
  conv at rounded => rhs; rw [kept]
  exact congrArg (fun result => Float.ofModel (.pack result)) rounded

theorem of_nat_positive : Float.ofNat n = (integer n).toFloat := by
  have converted : Float.ofNat n = n.toUInt64.toFloat * Float.ofBits 0x3FF0000000000000 := by
    change Float.ofScientific n false 0 = _
    rw [Float.ofScientific, dif_pos ⟨bounded, Nat.zero_le 22⟩]
    rfl
  have unit : Float.ofBits 0x3FF0000000000000 = one.toFloat := by
    apply of_float_injective
    rw [of_float_to_float one_full]
    decide +kernel
  rw [converted, to_uint64_to_float positive bounded, unit,
    mul_one_to_float (is_finite_to_float (integer_full positive bounded))]

end

theorem of_nat_eq {n : ℕ} (bounded : n < 2 * leading) : Float.ofNat n = (integer n).toFloat := by
  rcases Nat.eq_zero_or_pos n with rfl | positive
  · rfl
  · exact of_nat_positive positive bounded

-- Beyond the fast path a decimal is multiplied out and rounded once.
theorem of_scientific_product {n power : ℕ} (positive : 0 < n) (slow : ¬ (n < 2 ^ 53 ∧ power ≤ 22))
    (bounded : power ≤ 2 ^ 11) :
    Float.ofScientific n false power = .ofModel (.pack (roundWithAccuracy Format.binary64
      (signOf false) (n * 2 ^ 53 * 10 ^ power) (-53) .exact)) := by
  have few : ¬ 2 ^ Format.binary64.exponentBits < (power : ℤ) := by
    change ¬ 2 ^ 11 < (power : ℤ)
    omega
  have some : ¬ (power : ℤ) < -(2 ^ Format.binary64.exponentBits + n.log2) := by
    change ¬ (power : ℤ) < -(2 ^ 11 + n.log2)
    omega
  have multiplied : UnpackedFloat.ofScientific Format.binary64 n power =
      roundWithAccuracy Format.binary64 (signOf false) (n * 2 ^ 53 * 10 ^ power) (-53) .exact := by
    rw [UnpackedFloat.ofScientific, dif_neg positive.ne', if_neg few, if_neg some,
      if_pos (Int.natCast_nonneg power), UnpackedFloat.mul]
    have bits : Format.binary64.mantissaBits = 53 := rfl
    have sign : Sign.positive * Sign.positive = signOf false := rfl
    simp only [Nat.shiftLeft_eq, bits, sign, Int.toNat_natCast]
    rfl
  rw [Float.ofScientific, dif_neg slow]
  exact congrArg (fun result => Float.ofModel (.pack result)) multiplied

theorem of_nat_scaled {number : Binary} (full : number.Full) (unsigned : number.negative = false)
    {power : ℕ} (exponent : number.exponent = power)
    (wide : 2 * leading ≤ number.mantissa * 2 ^ power) :
    Float.ofNat (number.mantissa * 2 ^ power) = number.toFloat := by
  have slow : ¬ (number.mantissa * 2 ^ power < 2 ^ 53 ∧ 0 ≤ 22) := fun fast =>
    absurd fast.1 (Nat.not_lt.mpr wide)
  have rounded := round_scaled full.held full.positive (signOf false) (power + 53)
  have place : number.exponent - (power + 53 : ℕ) = -53 := by omega
  rw [place, pow_add, ← Nat.mul_assoc, ← unsigned, ← full.unpacked_eq, unsigned] at rounded
  change Float.ofScientific _ false 0 = _
  rw [of_scientific_product (Nat.mul_pos full.positive (by positivity)) slow (by decide), pow_zero,
    mul_one, rounded, toFloat]

theorem nearest_eq {number : Binary} {k : ℕ} (low : (k : ℚ) - 1 / 2 ≤ number.magnitude)
    (high : number.magnitude < k + 1 / 2) : number.nearest = k := by
  rw [magnitude] at low high
  rw [nearest]
  by_cases sign : 0 ≤ number.exponent
  · obtain ⟨power, same⟩ := Int.eq_ofNat_of_zero_le sign
    rw [same, zpow_natCast] at low high
    have low : (2 * k : ℚ) ≤ 2 * (number.mantissa * 2 ^ power) + 1 := by linarith
    have high : (2 * (number.mantissa * 2 ^ power) : ℚ) < 2 * k + 1 := by linarith
    norm_cast at low high
    rw [if_pos sign, same, Int.toNat_natCast, Nat.pow_eq]
    omega
  · obtain ⟨power, same⟩ := Int.eq_ofNat_of_zero_le (neg_nonneg.mpr (not_le.mp sign).le)
    have scale : (0 : ℚ) < 2 ^ power := by positivity
    rw [← neg_neg number.exponent, same, zpow_neg, zpow_natCast, ← div_eq_mul_inv] at low high
    rw [le_div_iff₀ scale] at low
    rw [div_lt_iff₀ scale] at high
    have low : (2 * k * 2 ^ power : ℚ) ≤ 2 * number.mantissa + 2 ^ power := by linarith
    have high : (2 * number.mantissa + 2 ^ power : ℚ) < 2 * k * 2 ^ power + 2 * 2 ^ power := by
      linarith
    norm_cast at low high
    rw [if_neg sign, same, Int.toNat_natCast, Nat.pow_eq]
    apply Nat.div_eq_of_lt_le <;> linarith

theorem whole_eq {number : Binary} {k : ℕ} (same : number.magnitude = k) : number.whole = k := by
  rw [magnitude] at same
  rw [whole]
  by_cases sign : 0 ≤ number.exponent
  · obtain ⟨power, exponent⟩ := Int.eq_ofNat_of_zero_le sign
    rw [exponent, zpow_natCast] at same
    rw [if_pos sign, exponent, Int.toNat_natCast, Nat.pow_eq]
    exact_mod_cast same
  · obtain ⟨power, exponent⟩ := Int.eq_ofNat_of_zero_le (neg_nonneg.mpr (not_le.mp sign).le)
    have scale : (0 : ℚ) < 2 ^ power := by positivity
    rw [← neg_neg number.exponent, exponent, zpow_neg, zpow_natCast, ← div_eq_mul_inv,
      div_eq_iff scale.ne'] at same
    have multiple : number.mantissa = k * 2 ^ power := by exact_mod_cast same
    rw [if_neg sign, exponent, Int.toNat_natCast, Nat.pow_eq, multiple]
    exact Nat.mul_div_cancel k (by positivity)

theorem truncate_eq {number : Binary} {k : ℤ} (same : number.value = k) :
    number.truncate = k := by
  have size : number.magnitude = k.natAbs := by
    rw [← abs_value, same, Nat.cast_natAbs, Int.cast_abs]
  rw [value, size, ← Int.cast_natCast] at same
  rw [truncate, signed, whole_eq size]
  split at same
  case isTrue sign =>
    rw [if_pos sign]
    rw [← Int.cast_neg] at same
    exact Int.cast_injective same
  case isFalse sign =>
    rw [if_neg sign]
    exact Int.cast_injective same

theorem unpack_zero (negative : Bool) :
    ((integer 0).withSign negative).toFloat.toModel.unpack = .zero (signOf negative) := by
  cases negative <;> rfl

theorem zero_mul_to_float {number : Binary} (full : number.Full) (negative : Bool) :
    ((integer 0).withSign negative).toFloat * number.toFloat =
      ((integer 0).withSign (negative ^^ number.negative)).toFloat := by
  have multiplied : Float.Model.UnpackedFloat.mul .binary64
      ((integer 0).withSign negative).toFloat.toModel.unpack number.toFloat.toModel.unpack =
        ((integer 0).withSign (negative ^^ number.negative)).unpacked := by
    rw [unpack_zero, unpack_to_float full, full.unpacked_eq]
    cases negative <;> cases number.negative <;> rfl
  exact congrArg (fun result => Float.ofModel (.pack result)) multiplied

theorem zero_div_to_float {number : Binary} (full : number.Full) (negative : Bool) :
    ((integer 0).withSign negative).toFloat / number.toFloat =
      ((integer 0).withSign (negative ^^ number.negative)).toFloat := by
  have divided : Float.Model.UnpackedFloat.div .binary64
      ((integer 0).withSign negative).toFloat.toModel.unpack number.toFloat.toModel.unpack =
        ((integer 0).withSign (negative ^^ number.negative)).unpacked := by
    rw [unpack_zero, unpack_to_float full, full.unpacked_eq]
    cases negative <;> cases number.negative <;> rfl
  exact congrArg (fun result => Float.ofModel (.pack result)) divided

theorem neg_integer {n : ℕ} (bounded : n < 2 * leading) :
    -(integer n).toFloat = ((integer n).withSign true).toFloat := by
  rcases Nat.eq_zero_or_pos n with rfl | positive
  · rfl
  · exact neg_to_float (integer_full positive bounded)

theorem of_int_eq {n : ℤ} (bounded : n.natAbs < 2 * leading) :
    Float.ofInt n = ((integer n.natAbs).withSign (decide (n < 0))).toFloat := by
  cases n with
  | ofNat a => exact of_nat_eq bounded
  | negSucc a =>
      change -Float.ofNat (Int.negSucc a).natAbs = _
      rw [of_nat_eq bounded, decide_eq_true (Int.negSucc_lt_zero a)]
      exact neg_integer bounded

theorem integer_to_float {n : ℕ} (bounded : n < 2 * leading) (negative : Bool) :
    ((integer n).withSign negative).toFloat.isFinite = true ∧
      (ofFloat ((integer n).withSign negative).toFloat).value =
        (if negative then -(n : ℤ) else n : ℤ) := by
  rcases Nat.eq_zero_or_pos n with rfl | positive
  · have read : ofFloat ((integer 0).withSign negative).toFloat = ⟨negative, 0, -1074⟩ := by
      cases negative <;> rfl
    rw [read, value, magnitude]
    cases negative <;> exact ⟨rfl, by simp⟩
  · have full := (integer_full positive bounded).with_sign negative
    have size : ((integer n).withSign negative).magnitude = n :=
      integer_magnitude positive bounded
    rw [of_float_to_float full, value, size]
    refine ⟨is_finite_to_float full, ?_⟩
    cases negative <;> simp [withSign]

end StackCall.Binary
