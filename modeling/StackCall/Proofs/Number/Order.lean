import StackCall.Proofs.Number.Arithmetic

set_option autoImplicit false

namespace StackCall.Binary

open Float.Model (UnpackedFloat)

section

variable {left right : Binary} (heldLeft : left.Held) (heldRight : right.Held)
include heldLeft heldRight

theorem magnitude_lt_of_exponent (less : left.exponent < right.exponent) :
    left.magnitude < right.magnitude := by
  have least := heldLeft.least
  have few : (left.mantissa : ℚ) < 2 * leading := by exact_mod_cast heldLeft.small
  have many : (leading : ℚ) ≤ right.mantissa := by exact_mod_cast heldRight.full (by omega)
  have scale : (0 : ℚ) < 2 ^ left.exponent := by positivity
  calc left.magnitude < 2 * leading * 2 ^ left.exponent := mul_lt_mul_of_pos_right few scale
    _ = leading * 2 ^ (left.exponent + 1) := by
      rw [zpow_add_one₀ two_ne_zero]
      ring
    _ ≤ right.mantissa * 2 ^ right.exponent := by
      have powers : (2 : ℚ) ^ (left.exponent + 1) ≤ 2 ^ right.exponent :=
        zpow_le_zpow_right₀ one_le_two less
      exact mul_le_mul many powers (by positivity) (by positivity)

theorem compare_magnitude :
    (compare left.exponent right.exponent).then (compare left.mantissa right.mantissa) =
      compare left.magnitude right.magnitude := by
  rcases lt_trichotomy left.exponent right.exponent with less | same | more
  · rw [Int.compare_eq_lt.mpr less,
      compare_lt_iff_lt.mpr (magnitude_lt_of_exponent heldLeft heldRight less)]
    rfl
  · have scale : (0 : ℚ) < 2 ^ right.exponent := by positivity
    rw [Int.compare_eq_eq.mpr same, magnitude, magnitude, same]
    change compare left.mantissa right.mantissa = _
    rcases lt_trichotomy left.mantissa right.mantissa with less | equal | more
    · have scaled : (left.mantissa : ℚ) < right.mantissa := by exact_mod_cast less
      rw [Nat.compare_eq_lt.mpr less,
        compare_lt_iff_lt.mpr (mul_lt_mul_of_pos_right scaled scale)]
    · rw [equal, Nat.compare_eq_eq.mpr rfl, compare_eq_iff_eq.mpr rfl]
    · have scaled : (right.mantissa : ℚ) < left.mantissa := by exact_mod_cast more
      rw [Nat.compare_eq_gt.mpr more,
        compare_gt_iff_gt.mpr (mul_lt_mul_of_pos_right scaled scale)]
  · rw [Int.compare_eq_gt.mpr more,
      compare_gt_iff_gt.mpr (magnitude_lt_of_exponent heldRight heldLeft more)]
    rfl

end

theorem compare_neg (x y : ℚ) : (compare x y).swap = compare (-x) (-y) := by
  rcases lt_trichotomy x y with less | rfl | more
  · rw [compare_lt_iff_lt.mpr less, compare_gt_iff_gt.mpr (neg_lt_neg less)]
    rfl
  · rw [compare_eq_iff_eq.mpr rfl, compare_eq_iff_eq.mpr rfl]
    rfl
  · rw [compare_gt_iff_gt.mpr more, compare_lt_iff_lt.mpr (neg_lt_neg more)]
    rfl

theorem compare_unpacked {left right : Binary} (heldLeft : left.Held) (heldRight : right.Held) :
    left.unpacked.compare right.unpacked = some (compare left.value right.value) := by
  have order := compare_magnitude heldLeft heldRight
  rw [unpacked, unpacked, value, value]
  rcases Nat.eq_zero_or_pos left.mantissa with leftNone | leftSome <;>
    rcases Nat.eq_zero_or_pos right.mantissa with rightNone | rightSome
  · rw [dif_neg leftNone.not_gt, dif_neg rightNone.not_gt, magnitude_zero leftNone,
      magnitude_zero rightNone, neg_zero, ite_self, ite_self, compare_eq_iff_eq.mpr rfl]
    rfl
  · have above := magnitude_pos rightSome
    have below := neg_lt_zero.mpr above
    rw [dif_neg leftNone.not_gt, dif_pos rightSome, magnitude_zero leftNone, neg_zero, ite_self]
    cases right.negative
    · exact congrArg some (compare_lt_iff_lt.mpr above).symm
    · exact congrArg some (compare_gt_iff_gt.mpr below).symm
  · have above := magnitude_pos leftSome
    have below := neg_lt_zero.mpr above
    rw [dif_pos leftSome, dif_neg rightNone.not_gt, magnitude_zero rightNone, neg_zero, ite_self]
    cases left.negative
    · exact congrArg some (compare_gt_iff_gt.mpr above).symm
    · exact congrArg some (compare_lt_iff_lt.mpr below).symm
  · have above := magnitude_pos leftSome
    have below := neg_lt_zero.mpr above
    have rightAbove := magnitude_pos rightSome
    have rightBelow := neg_lt_zero.mpr rightAbove
    rw [dif_pos leftSome, dif_pos rightSome]
    cases left.negative <;> cases right.negative
    · exact congrArg some order
    · exact congrArg some (compare_gt_iff_gt.mpr (rightBelow.trans above)).symm
    · exact congrArg some (compare_lt_iff_lt.mpr (below.trans rightAbove)).symm
    · exact congrArg some ((congrArg Ordering.swap order).trans (compare_neg _ _))

theorem lt_iff_value {x y : Float} (left : x.isFinite = true) (right : y.isFinite = true) :
    x < y ↔ (ofFloat x).value < (ofFloat y).value := by
  obtain ⟨heldLeft, readLeft⟩ := unpack_finite left
  obtain ⟨heldRight, readRight⟩ := unpack_finite right
  have less : x < y ↔ x.toModel.unpack.lt y.toModel.unpack = true := decide_eq_true_iff
  rw [less, readLeft, readRight, UnpackedFloat.lt, compare_unpacked heldLeft heldRight, beq_iff_eq,
    Option.some.injEq, compare_lt_iff_lt]

theorem le_iff_value {x y : Float} (left : x.isFinite = true) (right : y.isFinite = true) :
    x ≤ y ↔ (ofFloat x).value ≤ (ofFloat y).value := by
  obtain ⟨heldLeft, readLeft⟩ := unpack_finite left
  obtain ⟨heldRight, readRight⟩ := unpack_finite right
  have upTo : x ≤ y ↔ x.toModel.unpack.le y.toModel.unpack = true := decide_eq_true_iff
  rw [upTo, readLeft, readRight, UnpackedFloat.le, compare_unpacked heldLeft heldRight,
    Option.any_some, Ordering.isLE_iff_ne_gt, compare_gt_iff_gt, not_lt]

end StackCall.Binary
