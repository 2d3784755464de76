import Mathlib.Algebra.Order.Field.Power
import Mathlib.Data.Rat.Cast.Order
import Mathlib.Tactic.Linarith
import Mathlib.Tactic.Positivity
import Mathlib.Tactic.Ring
import StackCall.Number.Shortest
import StackCall.Proofs.Number.Binary

set_option autoImplicit false

namespace StackCall

def Decimal.value (decimal : Decimal) : ℚ := decimal.coefficient * 10 ^ decimal.exponent

namespace Binary

def quarter (number : Binary) : ℚ := 2 ^ (number.exponent - 2)

def gapBelow (number : Binary) : ℕ :=
  if number.mantissa = leading ∧ -1074 < number.exponent then 1 else 2

def low (number : Binary) : ℚ := (4 * number.mantissa - number.gapBelow) * number.quarter

def high (number : Binary) : ℚ := (4 * number.mantissa + 2) * number.quarter

-- The numbers half way to a neighbour are read as the even mantissa.
def Reaches (number : Binary) (x : ℚ) : Prop :=
  if number.mantissa % 2 = 0 then number.low ≤ x ∧ x ≤ number.high
  else number.low < x ∧ x < number.high

theorem quarter_pos (number : Binary) : 0 < number.quarter := by
  rw [quarter]
  positivity

theorem gap_below_le (number : Binary) : number.gapBelow ≤ 2 := by
  rw [gapBelow]
  split <;> omega

theorem Reaches.bounds {number : Binary} {x : ℚ} (reached : number.Reaches x) :
    number.low ≤ x ∧ x ≤ number.high := by
  rw [Reaches] at reached
  split at reached
  · exact reached
  · exact ⟨reached.1.le, reached.2.le⟩

theorem Reaches.between {number : Binary} {x y z : ℚ} (first : number.Reaches x)
    (last : number.Reaches z) (low : x ≤ y) (high : y ≤ z) : number.Reaches y := by
  rw [Reaches] at first last ⊢
  split at first
  case isTrue even =>
    rw [if_pos even] at last ⊢
    exact ⟨first.1.trans low, high.trans last.2⟩
  case isFalse odd =>
    rw [if_neg odd] at last ⊢
    exact ⟨first.1.trans_le low, high.trans_lt last.2⟩

theorem Reaches.even_of_low {number : Binary} {x : ℚ} (reached : number.Reaches x)
    (atLow : x = number.low) : number.mantissa % 2 = 0 := by
  by_contra odd
  rw [Reaches, if_neg odd] at reached
  exact reached.1.ne atLow.symm

theorem Reaches.even_of_high {number : Binary} {x : ℚ} (reached : number.Reaches x)
    (atHigh : x = number.high) : number.mantissa % 2 = 0 := by
  by_contra odd
  rw [Reaches, if_neg odd] at reached
  exact reached.2.ne atHigh

section

variable {left right : Binary}

theorem high_le_low_of_mantissa (sameExponent : left.exponent = right.exponent)
    (less : left.mantissa < right.mantissa) :
    left.high ≤ right.low ∧
      (left.high = right.low → left.mantissa % 2 = 1 ∨ right.mantissa % 2 = 1) := by
  have sameQuarter : left.quarter = right.quarter := by rw [quarter, quarter, sameExponent]
  have gap := right.gap_below_le
  rw [high, low, sameQuarter]
  constructor
  · refine mul_le_mul_of_nonneg_right ?_ right.quarter_pos.le
    have : 4 * left.mantissa + 2 + right.gapBelow ≤ 4 * right.mantissa := by omega
    have cast : (4 * left.mantissa + 2 + right.gapBelow : ℚ) ≤ 4 * right.mantissa := by
      exact_mod_cast this
    linarith
  · intro touching
    have same := mul_right_cancel₀ right.quarter_pos.ne' touching
    have cast : (4 * left.mantissa + 2 + right.gapBelow : ℚ) = 4 * right.mantissa := by linarith
    have : 4 * left.mantissa + 2 + right.gapBelow = 4 * right.mantissa := by exact_mod_cast cast
    omega

theorem two_quarter_le (less : left.exponent < right.exponent) :
    2 * left.quarter ≤ right.quarter := by
  rw [quarter, quarter, mul_comm, ← zpow_add_one₀ two_ne_zero]
  exact zpow_le_zpow_right₀ one_le_two (by omega)

theorem Normal.high_le (normal : left.Normal) :
    left.high ≤ (8 * leading - 2) * left.quarter := by
  refine mul_le_mul_of_nonneg_right ?_ left.quarter_pos.le
  have small : 4 * left.mantissa + 4 ≤ 8 * leading := by have := normal.small; omega
  have cast : (4 * left.mantissa + 4 : ℚ) ≤ 8 * leading := by exact_mod_cast small
  linarith

theorem Normal.le_low (normal : right.Normal) (aboveLeast : -1074 < right.exponent) :
    (4 * leading - 1) * right.quarter ≤ right.low := by
  refine mul_le_mul_of_nonneg_right ?_ right.quarter_pos.le
  have reach : 4 * leading + right.gapBelow ≤ 4 * right.mantissa + 1 := by
    have full := normal.full aboveLeast
    rw [gapBelow]
    split <;> omega
  have cast : (4 * leading + right.gapBelow : ℚ) ≤ 4 * right.mantissa + 1 := by
    exact_mod_cast reach
  linarith

-- The numbers of the next exponent begin where the last mantissa of this one ends.
theorem high_le_low_of_exponent (normalLeft : left.Normal) (normalRight : right.Normal)
    (less : left.exponent < right.exponent) :
    left.high ≤ right.low ∧ (left.high = right.low → left.mantissa % 2 = 1) := by
  have upper := normalLeft.high_le
  have lower := normalRight.le_low (normalLeft.least.trans_lt less)
  have positive : (0 : ℚ) ≤ 4 * leading - 1 := by
    rw [leading]
    norm_num
  have middle : (8 * leading - 2) * left.quarter ≤ (4 * leading - 1) * right.quarter :=
    calc (8 * leading - 2) * left.quarter = (4 * leading - 1) * (2 * left.quarter) := by ring
      _ ≤ _ := mul_le_mul_of_nonneg_left (two_quarter_le less) positive
  refine ⟨upper.trans (middle.trans lower), fun touching => ?_⟩
  have tight : left.high = (8 * leading - 2) * left.quarter :=
    le_antisymm upper (middle.trans (lower.trans touching.ge))
  have cast : (4 * left.mantissa + 2 : ℚ) = 8 * leading - 2 :=
    mul_right_cancel₀ left.quarter_pos.ne' tight
  have last : 4 * left.mantissa + 4 = 8 * leading := by
    have : (4 * left.mantissa + 4 : ℚ) = 8 * leading := by linarith
    exact_mod_cast this
  omega

theorem not_reaches_both {x : ℚ} (apart : left.high ≤ right.low)
    (odd : left.high = right.low → left.mantissa % 2 = 1 ∨ right.mantissa % 2 = 1)
    (reachesLeft : left.Reaches x) : ¬ right.Reaches x := by
  intro reachesRight
  have atHigh : x = left.high :=
    le_antisymm reachesLeft.bounds.2 (apart.trans reachesRight.bounds.1)
  have atLow : x = right.low :=
    le_antisymm (reachesLeft.bounds.2.trans apart) reachesRight.bounds.1
  have evenLeft := reachesLeft.even_of_high atHigh
  have evenRight := reachesRight.even_of_low atLow
  have := odd (atHigh.symm.trans atLow)
  omega

theorem Reaches.le_of_reaches {x : ℚ} (normalLeft : left.Normal) (normalRight : right.Normal)
    (reachesLeft : left.Reaches x) (reachesRight : right.Reaches x) :
    left.exponent ≤ right.exponent ∧
      (left.exponent = right.exponent → left.mantissa ≤ right.mantissa) := by
  constructor
  · by_contra less
    obtain ⟨apart, odd⟩ := high_le_low_of_exponent normalRight normalLeft (not_le.mp less)
    exact not_reaches_both apart (fun touching => .inl (odd touching)) reachesRight reachesLeft
  · intro sameExponent
    by_contra less
    obtain ⟨apart, odd⟩ := high_le_low_of_mantissa sameExponent.symm (not_le.mp less)
    exact not_reaches_both apart odd reachesRight reachesLeft

theorem reaches_unique {x : ℚ} (normalLeft : left.Normal) (normalRight : right.Normal)
    (reachesLeft : left.Reaches x) (reachesRight : right.Reaches x) :
    left.mantissa = right.mantissa ∧ left.exponent = right.exponent := by
  have there := reachesLeft.le_of_reaches normalLeft normalRight reachesRight
  have back := reachesRight.le_of_reaches normalRight normalLeft reachesLeft
  have sameExponent := le_antisymm there.1 back.1
  exact ⟨le_antisymm (there.2 sameExponent) (back.2 sameExponent.symm), sameExponent⟩

end

theorem reaches_zero {number : Binary} (zero : number.mantissa = 0) : number.Reaches 0 := by
  have positive := number.quarter_pos
  rw [Reaches, if_pos (by rw [zero]), low, high, zero]
  refine ⟨mul_nonpos_of_nonpos_of_nonneg ?_ positive.le, mul_nonneg ?_ positive.le⟩ <;> simp

end Binary

namespace Neighbourhood

variable {around : Neighbourhood} {tie : Tie}

theorem on_grid?_holds {step coefficient : ℕ}
    (found : around.onGrid? tie step = some coefficient) :
    around.holds (coefficient * Nat.pow 10 step) = true := by
  simp only [onGrid?] at found
  split at found
  case h_1 => cases found
  case h_2 lowHolds _ =>
    cases found
    exact lowHolds
  case h_3 highHolds =>
    cases found
    exact highHolds
  case h_4 lowHolds highHolds =>
    split at found
    · cases found
      exact lowHolds
    split at found
    · cases found
      exact highHolds
    split at found
    · cases found
      exact lowHolds
    · cases found
      exact highHolds

theorem coarsest_holds (tie : Tie) (centred : around.holds around.centre = true) (step : ℕ) :
    around.holds ((around.coarsest tie step).1 * Nat.pow 10 (around.coarsest tie step).2) =
      true := by
  induction step with
  | zero =>
      rw [coarsest, Nat.pow_eq, pow_zero, Nat.mul_one]
      exact centred
  | succ step ih =>
      rw [coarsest]
      split
      case h_1 found => exact on_grid?_holds found
      case h_2 => exact ih

end Neighbourhood

namespace Binary

variable (number : Binary)

def unit : ℕ :=
  if 0 ≤ number.exponent - 2 then Nat.pow 2 (number.exponent - 2).toNat
  else Nat.pow 5 (-(number.exponent - 2)).toNat

theorem neighbourhood_eq :
    number.neighbourhood =
      ⟨4 * number.mantissa * number.unit, number.gapBelow * number.unit, 2 * number.unit,
        number.mantissa % 2 == 0, min (number.exponent - 2) 0⟩ :=
  rfl

theorem quarter_eq : number.quarter = number.unit * 10 ^ number.neighbourhood.exponent := by
  rw [neighbourhood_eq, quarter, unit]
  by_cases sign : 0 ≤ number.exponent - 2
  · obtain ⟨power, equal⟩ := Int.eq_ofNat_of_zero_le sign
    rw [if_pos sign, min_eq_right sign, equal, zpow_zero, mul_one, Int.toNat_natCast,
      zpow_natCast]
    exact_mod_cast rfl
  · have negative := (not_le.mp sign).le
    obtain ⟨power, equal⟩ := Int.eq_ofNat_of_zero_le (neg_nonneg.mpr negative)
    have ten : (10 : ℚ) ^ power = 5 ^ power * 2 ^ power := by
      rw [← mul_pow]
      norm_num
    rw [if_neg sign, min_eq_left negative, equal, Int.toNat_natCast, Nat.pow_eq, Nat.cast_pow,
      ← neg_neg (number.exponent - 2), equal, zpow_neg, zpow_neg, zpow_natCast, zpow_natCast, ten,
      mul_inv, Nat.cast_ofNat, mul_inv_cancel_left₀ (by positivity)]

theorem unit_pos : 0 < number.unit := by
  rw [unit]
  split <;> exact Nat.pow_pos (by decide)

theorem low_eq :
    number.low =
      ((number.neighbourhood.centre : ℚ) - number.neighbourhood.below) *
        10 ^ number.neighbourhood.exponent := by
  rw [low, quarter_eq, neighbourhood_eq]
  push_cast
  ring

theorem high_eq :
    number.high =
      ((number.neighbourhood.centre : ℚ) + number.neighbourhood.above) *
        10 ^ number.neighbourhood.exponent := by
  rw [high, quarter_eq, neighbourhood_eq]
  push_cast
  ring

theorem holds_iff (candidate : ℕ) :
    number.neighbourhood.holds candidate = true ↔
      number.Reaches (candidate * 10 ^ number.neighbourhood.exponent) := by
  have scale : (0 : ℚ) < 10 ^ number.neighbourhood.exponent := by positivity
  have closed : number.neighbourhood.closed = (number.mantissa % 2 == 0) := rfl
  rw [Neighbourhood.holds, Reaches, low_eq, high_eq, closed]
  by_cases even : number.mantissa % 2 = 0
  · rw [if_pos (by simpa using even), if_pos even, mul_le_mul_iff_left₀ scale,
      mul_le_mul_iff_left₀ scale, sub_le_iff_le_add, Bool.and_eq_true, decide_eq_true_iff,
      decide_eq_true_iff]
    exact_mod_cast Iff.rfl
  · rw [if_neg (by simpa using even), if_neg even, mul_lt_mul_iff_left₀ scale,
      mul_lt_mul_iff_left₀ scale, sub_lt_iff_lt_add, Bool.and_eq_true, decide_eq_true_iff,
      decide_eq_true_iff]
    exact_mod_cast Iff.rfl

theorem holds_centre : number.neighbourhood.holds number.neighbourhood.centre = true := by
  have below : 0 < number.gapBelow := by
    rw [gapBelow]
    split <;> decide
  have := number.unit_pos
  rw [neighbourhood_eq, Neighbourhood.holds]
  split <;> simp [below, this]

theorem shortest_reaches (tie : Tie) : number.Reaches (number.shortest tie).value := by
  have found :=
    Neighbourhood.coarsest_holds tie number.holds_centre
      ((Nat.toDigits 10 number.neighbourhood.centre).length - 1)
  rw [holds_iff] at found
  rw [shortest, Decimal.value, zpow_add₀ (by norm_num), mul_left_comm, mul_comm, zpow_natCast]
  exact_mod_cast found

end Binary

end StackCall
