import StackCall.Proofs.Number.Arithmetic
import StackCall.Proofs.Number.Reading

set_option autoImplicit false

namespace StackCall

theorem to_digits_bounds {n : ℕ} (positive : 0 < n) :
    10 ^ ((Nat.toDigits 10 n).length - 1) ≤ n ∧ n < 10 ^ (Nat.toDigits 10 n).length := by
  have some : 0 < (Nat.toDigits 10 n).length := Nat.length_toDigits_pos
  constructor
  · by_cases one : (Nat.toDigits 10 n).length - 1 = 0
    · rwa [one, pow_zero]
    · by_contra less
      have short := (Nat.length_toDigits_le_iff (b := 10) (by decide) (Nat.pos_of_ne_zero one)).mpr
        (not_le.mp less)
      omega
  · exact (Nat.length_toDigits_le_iff (by decide) some).mp le_rfl

namespace Decimal

variable {decimal : Decimal} (positive : 0 < decimal.coefficient)
include positive

theorem power_le_value_iff (power : ℤ) :
    10 ^ power ≤ decimal.value ↔ power ≤ decimal.leading := by
  obtain ⟨low, high⟩ := to_digits_bounds positive
  have some : 0 < decimal.digits.length := Nat.length_toDigits_pos
  have low : (10 : ℚ) ^ ((decimal.digits.length - 1 : ℕ) : ℤ) ≤ decimal.coefficient := by
    rw [zpow_natCast]
    exact_mod_cast low
  have high : (decimal.coefficient : ℚ) < 10 ^ ((decimal.digits.length : ℕ) : ℤ) := by
    rw [zpow_natCast]
    exact_mod_cast high
  have scale : (0 : ℚ) < 10 ^ decimal.exponent := by positivity
  have low := mul_le_mul_of_nonneg_right low scale.le
  have high := mul_lt_mul_of_pos_right high scale
  rw [← zpow_add₀ (by norm_num)] at low high
  rw [value]
  constructor
  · intro upTo
    have less := (zpow_lt_zpow_iff_right₀ (by norm_num : (1 : ℚ) < 10)).mp (upTo.trans_lt high)
    rw [leading]
    omega
  · intro upTo
    rw [leading] at upTo
    exact le_trans (zpow_le_zpow_right₀ (by norm_num) (by omega)) low

end Decimal

namespace Neighbourhood

variable {around : Neighbourhood} (tie : Tie) {step : ℕ}

theorem on_grid?_next
    (hit : around.holds (around.centre / 10 ^ step * 10 ^ step) = true ∨
      around.holds ((around.centre / 10 ^ step + 1) * 10 ^ step) = true) :
    ∃ coefficient, around.onGrid? tie step = some coefficient ∧
      (coefficient = around.centre / 10 ^ step ∨ coefficient = around.centre / 10 ^ step + 1) := by
  simp only [onGrid?, Nat.pow_eq]
  split
  case h_1 lowMissed highMissed =>
    rw [lowMissed, highMissed] at hit
    simp at hit
  case h_2 => exact ⟨_, rfl, .inl rfl⟩
  case h_3 => exact ⟨_, rfl, .inr rfl⟩
  case h_4 =>
    split
    · exact ⟨_, rfl, .inl rfl⟩
    split
    · exact ⟨_, rfl, .inr rfl⟩
    split
    · exact ⟨_, rfl, .inl rfl⟩
    · exact ⟨_, rfl, .inr rfl⟩

-- The finest grid holds the centre, so a hit on the first grid is what the search comes to.
theorem coarsest_next
    (hit : around.holds (around.centre / 10 ^ step * 10 ^ step) = true ∨
      around.holds ((around.centre / 10 ^ step + 1) * 10 ^ step) = true) :
    ∃ coefficient, around.coarsest tie step = (coefficient, step) ∧
      (coefficient = around.centre / 10 ^ step ∨ coefficient = around.centre / 10 ^ step + 1) := by
  cases step with
  | zero => exact ⟨_, rfl, .inl (by rw [pow_zero, Nat.div_one])⟩
  | succ step =>
      obtain ⟨coefficient, found, next⟩ := on_grid?_next tie hit
      refine ⟨coefficient, ?_, next⟩
      rw [coarsest, found]

end Neighbourhood

namespace Binary

def OneDigit (number : Binary) : Prop :=
  ∃ (digit : ℕ) (power : ℤ), 1 ≤ digit ∧ digit ≤ 9 ∧ number.Reaches (digit * 10 ^ power)

variable {number : Binary}

theorem magnitude_eq_centre (number : Binary) :
    number.magnitude =
      number.neighbourhood.centre * 10 ^ number.neighbourhood.exponent := by
  rw [magnitude_eq_quarters, quarter_eq, neighbourhood_eq]
  push_cast
  ring

theorem next_le_digit {digit low : ℕ} {power place : ℤ} (single : digit ≤ 9) (some : 1 ≤ low)
    (beyond : (low * 10 ^ place : ℚ) < digit * 10 ^ power) :
    ((low + 1 : ℕ) * 10 ^ place : ℚ) ≤ digit * 10 ^ power := by
  have unit : (0 : ℚ) < 10 ^ place := by positivity
  have coarser : place ≤ power := by
    by_contra finer
    have below : (10 : ℚ) ^ power * 10 ≤ 10 ^ place := by
      rw [← zpow_add_one₀ (by norm_num)]
      exact zpow_le_zpow_right₀ (by norm_num) (by omega)
    have few : (digit : ℚ) ≤ 10 := by exact_mod_cast single.trans (by decide)
    have small : (digit : ℚ) * 10 ^ power ≤ 10 * 10 ^ power :=
      mul_le_mul_of_nonneg_right few (by positivity)
    have many : (1 : ℚ) * 10 ^ place ≤ low * 10 ^ place :=
      mul_le_mul_of_nonneg_right (by exact_mod_cast some) unit.le
    linarith
  obtain ⟨k, same⟩ := Int.eq_ofNat_of_zero_le (sub_nonneg.mpr coarser)
  have multiple : (digit * 10 ^ power : ℚ) = (digit * 10 ^ k : ℕ) * 10 ^ place := by
    rw [← sub_add_cancel power place, same, zpow_add₀ (by norm_num), zpow_natCast]
    push_cast
    ring
  rw [multiple] at beyond ⊢
  have more := lt_of_mul_lt_mul_right beyond unit.le
  exact mul_le_mul_of_nonneg_right (by exact_mod_cast more) unit.le

theorem holds_next_of_digit {digit step : ℕ} {power : ℤ} (single : digit ≤ 9)
    (reaches : number.Reaches (digit * 10 ^ power))
    (coarse : 10 ^ step ≤ number.neighbourhood.centre) :
    number.neighbourhood.holds (number.neighbourhood.centre / 10 ^ step * 10 ^ step) = true ∨
      number.neighbourhood.holds
        ((number.neighbourhood.centre / 10 ^ step + 1) * 10 ^ step) = true := by
  have centre := number.reaches_magnitude
  have some : 1 ≤ number.neighbourhood.centre / 10 ^ step := Nat.div_pos coarse (by positivity)
  have below := Nat.div_mul_le_self number.neighbourhood.centre (10 ^ step)
  have above := Nat.lt_div_mul_add (a := number.neighbourhood.centre)
    (by positivity : 0 < 10 ^ step)
  rw [holds_iff, holds_iff]
  rw [magnitude_eq_centre] at centre
  generalize number.neighbourhood.centre / 10 ^ step = low at *
  generalize number.neighbourhood.centre = middle at *
  generalize number.neighbourhood.exponent = exponent at *
  have scale : (0 : ℚ) < 10 ^ exponent := by positivity
  have grid (k : ℕ) : ((k * 10 ^ step : ℕ) : ℚ) * 10 ^ exponent = k * 10 ^ (step + exponent) := by
    rw [zpow_add₀ (by norm_num), zpow_natCast, ← mul_assoc]
    push_cast
    rfl
  have below : ((low * 10 ^ step : ℕ) : ℚ) * 10 ^ exponent ≤ middle * 10 ^ exponent :=
    mul_le_mul_of_nonneg_right (by exact_mod_cast below) scale.le
  have above : (middle : ℚ) * 10 ^ exponent ≤ ((low + 1) * 10 ^ step : ℕ) * 10 ^ exponent := by
    refine mul_le_mul_of_nonneg_right ?_ scale.le
    rw [Nat.add_mul, Nat.one_mul]
    exact_mod_cast above.le
  by_cases upTo : (digit * 10 ^ power : ℚ) ≤ (low * 10 ^ step : ℕ) * 10 ^ exponent
  · exact .inl (reaches.between centre upTo below)
  · rw [grid, not_le] at upTo
    refine .inr (centre.between reaches above ?_)
    rw [grid]
    exact next_le_digit single some upTo

theorem significant_next : ∀ coefficient ≤ 10,
    (Decimal.significant ⟨coefficient, 0⟩).length ≤ 1 := by
  decide

section

variable (positive : 0 < number.mantissa) (tie : Tie)
include positive

theorem not_reaches_zero : ¬ number.Reaches 0 := by
  intro reaches
  have low := reaches.bounds.1
  have gap := number.gap_below_le
  have less : number.gapBelow < 4 * number.mantissa := by omega
  have some : (0 : ℚ) < 4 * number.mantissa - number.gapBelow := by
    rw [sub_pos]
    exact_mod_cast less
  rw [Binary.low] at low
  exact absurd low (not_le.mpr (mul_pos some number.quarter_pos))

theorem shortest_positive : 0 < (number.shortest tie).coefficient := by
  rw [Nat.pos_iff_ne_zero]
  intro none
  have reaches := number.shortest_reaches tie
  rw [Decimal.value, none, Nat.cast_zero, zero_mul] at reaches
  exact not_reaches_zero positive reaches

theorem significant_of_one_digit (one : number.OneDigit) :
    (number.shortest tie).significant.length ≤ 1 := by
  obtain ⟨digit, power, -, single, reaches⟩ := one
  have centre : 0 < number.neighbourhood.centre := by
    have := number.unit_pos
    rw [neighbourhood_eq]
    positivity
  obtain ⟨lower, upper⟩ := to_digits_bounds centre
  obtain ⟨coefficient, found, next⟩ :=
    Neighbourhood.coarsest_next tie (holds_next_of_digit single reaches lower)
  have few : number.neighbourhood.centre /
      10 ^ ((Nat.toDigits 10 number.neighbourhood.centre).length - 1) < 10 := by
    rw [Nat.div_lt_iff_lt_mul (by positivity), ← pow_succ',
      Nat.sub_add_cancel Nat.length_toDigits_pos]
    exact upper
  have digits : (number.shortest tie).coefficient = coefficient := congrArg Prod.fst found
  rw [Decimal.significant, Decimal.digits, digits]
  exact significant_next coefficient (by omega)

theorem one_digit_of_significant (short : (number.shortest tie).significant.length ≤ 1) :
    number.OneDigit := by
  have reaches := number.shortest_reaches tie
  have allDigits := all_digits_significant (number.shortest tie)
  rw [← scaled_significant, scaled] at reaches
  cases digits : (number.shortest tie).significant with
  | nil =>
      rw [digits, readDigits, Nat.ofDigitChars_nil, Nat.cast_zero, zero_mul] at reaches
      exact absurd reaches (not_reaches_zero positive)
  | cons digit rest =>
      rw [digits, List.length_cons] at short
      obtain rfl := List.eq_nil_of_length_eq_zero (show rest.length = 0 by omega)
      rw [digits] at reaches allDigits
      refine ⟨readDigits [digit], _, ?_, ?_, reaches⟩
      · rw [Nat.one_le_iff_ne_zero]
        intro none
        rw [none, Nat.cast_zero, zero_mul] at reaches
        exact not_reaches_zero positive reaches
      · exact Nat.le_of_lt_succ (read_digits_lt allDigits)

theorem significant_le_one_iff :
    (number.shortest tie).significant.length ≤ 1 ↔ number.OneDigit :=
  ⟨one_digit_of_significant positive tie, significant_of_one_digit positive tie⟩

end

-- The double that a power of ten is read as, and its shortest decimal, are on the same side of the
-- power; and any double that has the power between it and its shortest decimal is that one.
theorem power_le_shortest_iff {next : Binary} (tie : Tie) {bound : ℚ} (normal : number.Normal)
    (normalNext : next.Normal) (above : bound ≤ next.magnitude)
    (same : (next.shortest tie).value = bound) :
    bound ≤ (number.shortest tie).value ↔ bound ≤ number.magnitude := by
  have reaches := number.shortest_reaches tie
  have centre := number.reaches_magnitude
  have reached := same ▸ next.shortest_reaches tie
  have isNext (reachesBound : number.Reaches bound) :
      number.magnitude = next.magnitude ∧ (number.shortest tie).value = bound := by
    obtain ⟨mantissas, exponents⟩ := reaches_unique normal normalNext reachesBound reached
    obtain ⟨sign, mantissa, exponent⟩ := number
    obtain ⟨otherSign, otherMantissa, otherExponent⟩ := next
    subst mantissas exponents
    exact ⟨rfl, same⟩
  constructor
  · intro upTo
    by_contra less
    have := (isNext (centre.between reaches (not_le.mp less).le upTo)).1
    linarith
  · intro upTo
    by_contra less
    have := (isNext (reaches.between centre (not_le.mp less).le upTo)).2
    linarith

end Binary

end StackCall
