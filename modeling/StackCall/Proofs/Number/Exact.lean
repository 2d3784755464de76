import StackCall.Proofs.Number.Packing

set_option autoImplicit false

namespace StackCall.Binary

open Float.Model (Format UnpackedFloat totalExponent)
open Float.Model.UnpackedFloat (Sign ExtendedMantissa roundWithAccuracy shiftToTargetExponent
  shiftToExponent divCore)

theorem log2_scaled {n : ℕ} (positive : 0 < n) (places : ℕ) :
    (n * 2 ^ places).log2 = n.log2 + places := by
  induction places with
  | zero => rw [pow_zero, mul_one, add_zero]
  | succ places ih =>
      have nonzero : n * 2 ^ places ≠ 0 := (Nat.mul_pos positive (by positivity)).ne'
      rw [pow_succ, ← mul_assoc, mul_comm, Nat.log2_two_mul nonzero, ih, add_assoc]

theorem shift_right_scaled (n places : ℕ) :
    (⟨n * 2 ^ places, false, false⟩ : ExtendedMantissa) >>> places = ⟨n, false, false⟩ := by
  change places.repeat ExtendedMantissa.shiftRightOne _ = _
  induction places generalizing n with
  | zero => rw [pow_zero, mul_one, Nat.repeat]
  | succ places ih =>
      rw [Nat.repeat, pow_succ', ← mul_assoc, ih, ExtendedMantissa.shiftRightOne]
      simp

section

variable {number : Binary} (held : number.Held) (positive : 0 < number.mantissa)
include held positive

theorem Held.log2_range : number.mantissa.log2 ≤ 52 ∧
    (-1074 < number.exponent → number.mantissa.log2 = 52) := by
  have small : number.mantissa.log2 < 53 := (Nat.log2_lt positive.ne').mpr held.small
  refine ⟨by omega, fun above => ?_⟩
  have full : 52 ≤ number.mantissa.log2 := (Nat.le_log2 positive.ne').mpr (held.full above)
  omega

-- A number that a double holds is its own rounding, also when it is given with a longer mantissa.
theorem shift_scaled (places : ℕ) :
    shiftToTargetExponent Format.binary64 (number.mantissa * 2 ^ places)
        (number.exponent - places) .exact =
      (⟨number.mantissa, false, false⟩, number.exponent) := by
  have least := held.least
  have range := held.log2_range positive
  have target : Format.binary64.targetExponent
      (totalExponent (number.mantissa * 2 ^ places) (number.exponent - places)) =
        number.exponent := by
    simp only [Format.targetExponent, totalExponent, log2_scaled positive, Format.mantissaBits,
      Format.minExponent]
    omega
  have shift : (number.exponent - (number.exponent - places)).toNat = places := by omega
  rw [shiftToTargetExponent, target, shiftToExponent]
  simp only [shift, ExtendedMantissa.ofMantissaAndAccuracy, shift_right_scaled, sub_add_cancel]

theorem round_scaled (sign : Sign) (places : ℕ) :
    roundWithAccuracy Format.binary64 sign (number.mantissa * 2 ^ places)
        (number.exponent - places) .exact =
      .finite sign number.mantissa number.exponent positive := by
  have again := shift_scaled held positive 0
  rw [pow_zero, mul_one, Nat.cast_zero, sub_zero] at again
  rw [roundWithAccuracy, shift_scaled held positive]
  have kept : (⟨number.mantissa, false, false⟩ : ExtendedMantissa).roundedMantissa =
      number.mantissa := rfl
  simp only [kept, again, dif_neg positive.ne']

end

theorem of_model_unpack (x : Float) : Float.ofModel (.pack x.toModel.unpack) = x :=
  Float.ofBits_toBits x

def one : Binary := ⟨false, leading, -52⟩

theorem one_full : one.Full := ⟨by decide, by decide, by decide, by decide⟩

theorem unpack_one : one.toFloat.toModel.unpack =
    .finite .positive (2 ^ 52) (-52) (by decide) := by
  rw [unpack_to_float one_full, one_full.unpacked_eq]
  rfl

theorem mul_one_to_float {x : Float} (finite : x.isFinite = true) :
    x * one.toFloat = x := by
  obtain ⟨held, read⟩ := unpack_finite finite
  have multiplied : UnpackedFloat.mul Format.binary64 x.toModel.unpack
      one.toFloat.toModel.unpack = x.toModel.unpack := by
    have sign : signOf (ofFloat x).negative * .positive = signOf (ofFloat x).negative := by
      cases (ofFloat x).negative <;> rfl
    rw [read, unpack_one, unpacked]
    split
    case isTrue positive =>
      rw [UnpackedFloat.mul, sign]
      exact round_scaled held positive _ 52
    case isFalse => exact congrArg UnpackedFloat.zero sign
  exact (congrArg (fun result => Float.ofModel (.pack result)) multiplied).trans (of_model_unpack x)

theorem div_core_one {number : Binary} (held : number.Held) (positive : 0 < number.mantissa) :
    ∃ places : ℕ, divCore Format.binary64 number.mantissa number.exponent (2 ^ 52) (-52) =
      (number.mantissa * 2 ^ places, number.exponent - places, .exact) := by
  have least := held.least
  have range := held.log2_range positive
  obtain ⟨places, target⟩ : ∃ places : ℕ, Format.binary64.targetExponent
      (totalExponent number.mantissa number.exponent - totalExponent (2 ^ 52) (-52)) =
        number.exponent - places := by
    refine ⟨if number.exponent = -1074 then 0 else 1, ?_⟩
    simp only [Format.targetExponent, totalExponent, Nat.log2_two_pow, Format.mantissaBits,
      Format.minExponent]
    split <;> omega
  have lower : number.exponent - places ≤ number.exponent - -52 := by omega
  have shift : (number.exponent - -52 - (number.exponent - places)).toNat = places + 52 := by omega
  refine ⟨places, ?_⟩
  simp only [divCore, target, min_eq_right lower, shift, Nat.shiftLeft_eq, pow_add, ← mul_assoc]
  rw [Nat.mul_div_cancel _ (by positivity), Nat.mul_mod_left]
  rfl

theorem div_one_to_float {x : Float} (finite : x.isFinite = true) :
    x / one.toFloat = x := by
  obtain ⟨held, read⟩ := unpack_finite finite
  have divided : UnpackedFloat.div Format.binary64 x.toModel.unpack
      one.toFloat.toModel.unpack = x.toModel.unpack := by
    have sign : signOf (ofFloat x).negative / .positive = signOf (ofFloat x).negative := by
      cases (ofFloat x).negative <;> rfl
    rw [read, unpack_one, unpacked]
    split
    case isTrue positive =>
      obtain ⟨places, core⟩ := div_core_one held positive
      rw [UnpackedFloat.div, core, sign]
      exact round_scaled held positive _ places
    case isFalse => exact congrArg UnpackedFloat.zero sign
  exact (congrArg (fun result => Float.ofModel (.pack result)) divided).trans (of_model_unpack x)

end StackCall.Binary
