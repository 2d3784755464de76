import StackCall.Proofs.Number.Integers

set_option autoImplicit false

namespace StackCall.Binary

-- Half way from the greatest double to the power of two beyond it.
def overflow : ℕ := (4 * leading - 1) * 2 ^ 970

def beyond : Binary := ⟨false, leading, 972⟩

theorem beyond_wide : beyond.Wide :=
  ⟨⟨by decide, by decide, fun _ => le_rfl⟩, le_rfl⟩

theorem overflow_eq : (overflow : ℚ) = (4 * leading - 1) * beyond.quarter := by
  have quarter : beyond.quarter = 2 ^ 970 := zpow_natCast 2 970
  have some : 1 ≤ 4 * leading := by decide
  rw [overflow, quarter, Nat.cast_mul, Nat.cast_sub some, Nat.cast_one, Nat.cast_mul,
    Nat.cast_ofNat, Nat.cast_pow, Nat.cast_ofNat]

theorem beyond_low : beyond.low = overflow := by
  have gap : beyond.gapBelow = 1 := rfl
  have leads : beyond.mantissa = leading := rfl
  rw [overflow_eq, low, gap, leads, Nat.cast_one]

section

variable {number : Binary} (wide : number.Wide) {x : ℚ} (reaches : number.Reaches x)
include wide reaches

theorem exponent_le_iff : number.exponent ≤ 971 ↔ x < overflow := by
  constructor
  · intro most
    obtain ⟨apart, odd⟩ := high_le_low_of_exponent wide.toNormal beyond_wide.toNormal
      (show number.exponent < 972 by omega)
    rw [beyond_low] at apart odd
    by_contra great
    have atHigh : x = number.high :=
      le_antisymm reaches.bounds.2 (apart.trans (not_lt.mp great))
    have even := reaches.even_of_high atHigh
    have touching : number.high = overflow := le_antisymm apart (atHigh ▸ not_lt.mp great)
    have := odd touching
    omega
  · intro less
    by_contra more
    have coarser : beyond.quarter ≤ number.quarter :=
      zpow_le_zpow_right₀ one_le_two (show (972 : ℤ) - 2 ≤ number.exponent - 2 by omega)
    have low := wide.le_low (by omega)
    have positive : (0 : ℚ) ≤ 4 * leading - 1 := by
      rw [leading]
      norm_num
    rw [overflow_eq] at less
    have scaled := mul_le_mul_of_nonneg_left coarser positive
    have := reaches.bounds.1
    linarith

theorem exponent_of_one_le (some : 1 ≤ x) : -53 < number.exponent := by
  by_contra small
  have few : number.quarter ≤ 2 ^ (-55 : ℤ) :=
    zpow_le_zpow_right₀ one_le_two (show number.exponent - 2 ≤ -55 by omega)
  have positive : (0 : ℚ) ≤ 8 * leading - 2 := by
    rw [leading]
    norm_num
  have high := wide.high_le
  have scaled := mul_le_mul_of_nonneg_left few positive
  have := reaches.bounds.2
  rw [leading] at high scaled
  norm_num at high scaled
  linarith

theorem full_of_lt (less : x < overflow) : number.Full :=
  wide.bounded ((exponent_le_iff wide reaches).mpr less)

theorem is_inf_iff : number.toFloat.isInf = true ↔ overflow ≤ x := by
  by_cases less : x < overflow
  · rw [not_is_inf_to_float (full_of_lt wide reaches less)]
    exact iff_of_false Bool.false_ne_true (not_le.mpr less)
  · have great := mt (exponent_le_iff wide reaches).mp less
    exact iff_of_true (is_inf_to_float wide (not_le.mp great)) (not_lt.mp less)

end

theorem to_float_ne_zero {number : Binary} (full : number.Full) :
    (number.toFloat == 0) = false := by
  change (number.toFloat.toModel.unpack.beq (0 : Float).toModel.unpack) = false
  have zero : (0 : Float).toModel.unpack = .zero .positive := rfl
  rw [unpack_to_float full, full.unpacked_eq, zero]
  cases number.negative <;> rfl

theorem reaches_natural {number : Binary} (whole : 2 ≤ number.exponent) (n : ℕ) :
    number.Reaches n ↔ number.neighbourhood.holds n = true := by
  have unscaled : number.neighbourhood.exponent = 0 := by
    rw [neighbourhood_eq]
    exact min_eq_right (by omega)
  rw [holds_iff, unscaled, zpow_zero, mul_one]

theorem magnitude_natural {number : Binary} {power : ℕ} (exponent : number.exponent = power) :
    number.magnitude = (number.mantissa * 2 ^ power : ℕ) := by
  rw [magnitude, exponent, zpow_natCast, Nat.cast_mul, Nat.cast_pow, Nat.cast_ofNat]

def isRoundedTo (k mantissa power : ℕ) : Bool :=
  leading ≤ mantissa && mantissa < 2 * leading && 2 ≤ power &&
    (⟨false, mantissa, power⟩ : Binary).neighbourhood.holds k

section

variable {mantissa power k : ℕ} (rounded : isRoundedTo k mantissa power = true)
include rounded

theorem exists_scaled : ∃ bound : Binary, bound.Normal ∧ bound.Reaches k ∧
    bound.magnitude = (mantissa * 2 ^ power : ℕ) := by
  simp only [isRoundedTo, Bool.and_eq_true, decide_eq_true_eq] at rounded
  obtain ⟨⟨⟨leads, small⟩, whole⟩, reached⟩ := rounded
  exact ⟨_, ⟨small, (by omega : (-1074 : ℤ) ≤ power), fun _ => leads⟩,
    (reaches_natural (by omega : (2 : ℤ) ≤ power) k).mpr reached, magnitude_natural rfl⟩

variable {number : Binary} (normal : number.Normal) {n : ℕ} (reaches : number.Reaches n)
include normal reaches

theorem magnitude_le_scaled (order : n ≤ k) : number.magnitude ≤ (mantissa * 2 ^ power : ℕ) := by
  obtain ⟨bound, normalBound, reachesBound, size⟩ := exists_scaled rounded
  rw [← size]
  exact reaches.magnitude_le normal normalBound reachesBound (Nat.cast_le.mpr order)

theorem scaled_le_magnitude (order : k ≤ n) : (mantissa * 2 ^ power : ℕ) ≤ number.magnitude := by
  obtain ⟨bound, normalBound, reachesBound, size⟩ := exists_scaled rounded
  rw [← size]
  exact reachesBound.magnitude_le normalBound normal reaches (Nat.cast_le.mpr order)

end

def tens (power : ℕ) : Binary :=
  ⟨false, (integer (5 ^ power)).mantissa, (integer (5 ^ power)).exponent + power⟩

theorem table_tens : ∀ power : Fin 23,
    ofFloat Float.exactlyRepresentablePowersOfTen[power] = tens power := by
  decide +kernel

section

variable {power : ℕ} (few : power ≤ 22)
include few

theorem fives_lt : 5 ^ power < 2 * leading :=
  lt_of_le_of_lt (Nat.pow_le_pow_right (by decide) few) (by decide)

theorem tens_exponent : -52 ≤ (tens power).exponent ∧ (tens power).exponent ≤ 22 := by
  have exponent : (tens power).exponent = ((5 ^ power).log2 : ℤ) - 52 + power := rfl
  have size := log2_le (by positivity) (fives_lt few)
  omega

theorem tens_full : (tens power).Full := by
  have full := integer_full (by positivity) (fives_lt few)
  have range := tens_exponent few
  exact ⟨full.full, full.small, by omega, by omega⟩

theorem tens_magnitude : (tens power).magnitude = (10 ^ power : ℕ) := by
  have fives := integer_magnitude (by positivity) (fives_lt few)
  rw [magnitude] at fives
  have ten : 10 = 5 * 2 := rfl
  rw [magnitude, tens, zpow_add₀ two_ne_zero, ← mul_assoc, fives, zpow_natCast, ten, mul_pow,
    Nat.cast_mul, Nat.cast_pow 2, Nat.cast_ofNat]

end

theorem of_scientific_table {n power : ℕ} (fast : n < 2 ^ 53 ∧ power ≤ 22) :
    Float.ofScientific n false power = n.toUInt64.toFloat * (tens power).toFloat := by
  have held := table_tens ⟨power, by omega⟩
  have same := to_float_of_float (held ▸ tens_full fast.2)
  rw [held] at same
  rw [Float.ofScientific, dif_pos fast, same]
  rfl

theorem of_scientific_reaches {n power : ℕ} (positive : 0 < n) (bounded : power ≤ 2 ^ 11) :
    ∃ number : Binary, number.Wide ∧ number.negative = false ∧
      number.Reaches (n * 10 ^ power : ℕ) ∧
      Float.ofScientific n false power = number.toFloat := by
  by_cases fast : n < 2 ^ 53 ∧ power ≤ 22
  · obtain ⟨small, few⟩ := fast
    have range := tens_exponent few
    have exponent : (integer n).exponent = (n.log2 : ℤ) - 52 := rfl
    have size := log2_le positive small
    obtain ⟨product, wide, sign, -, reaches, multiplied⟩ :=
      mul_wide (integer_full positive small) (tens_full few) (by omega)
    rw [integer_magnitude positive small, tens_magnitude few, ← Nat.cast_mul] at reaches
    refine ⟨product, wide, sign, reaches, ?_⟩
    rw [of_scientific_table ⟨small, few⟩, to_uint64_to_float positive small, multiplied]
  · have some : 0 < n * 10 ^ power := by positivity
    have size := log2_scaled some 53
    rw [Nat.mul_right_comm] at size
    have split : (n * 2 ^ 53 * 10 ^ power).log2 = 52 + ((n * 10 ^ power).log2 + 1) := by omega
    obtain ⟨number, wide, sign, -, reaches, rounded⟩ := round_wide false (holds_exact _) split
      (by omega : -1074 ≤ (-53 : ℤ) + ((n * 10 ^ power).log2 + 1 : ℕ))
    refine ⟨number, wide, sign, ?_, ?_⟩
    · have scaled : ((n * 2 ^ 53 * 10 ^ power : ℕ) : ℚ) * 2 ^ (-53 : ℤ) =
          (n * 10 ^ power : ℕ) := by
        rw [Nat.mul_right_comm, Nat.cast_mul, mul_assoc, Nat.cast_pow, Nat.cast_ofNat,
          ← zpow_natCast, ← zpow_add₀ two_ne_zero]
        exact mul_one _
      rwa [scaled] at reaches
    · rw [of_scientific_product positive fast bounded, rounded, toFloat]

end StackCall.Binary
