import StackCall.Proofs.Number.Integers

set_option autoImplicit false

namespace StackCall

-- A multiple at the least distance from a number; of two, the one farther from zero.
structure NearestMultiple (unit : ℕ) (n multiple : ℤ) : Prop where
  divides : (unit : ℤ) ∣ multiple
  near : 2 * (multiple - n).natAbs ≤ unit
  away : 2 * (multiple - n).natAbs = unit → n.natAbs < multiple.natAbs

-- How many units are nearest to a number without sign, a half more being a whole one.
def nearestCount (unit a : ℕ) : ℕ := (2 * a + unit) / (2 * unit)

theorem nearest_count_bounds {unit : ℕ} (positive : 0 < unit) (a : ℕ) :
    2 * (nearestCount unit a * unit) ≤ 2 * a + unit ∧
      2 * a < 2 * (nearestCount unit a * unit) + unit := by
  have low := Nat.div_mul_le_self (2 * a + unit) (2 * unit)
  have high := Nat.lt_div_mul_add (a := 2 * a + unit) (Nat.mul_pos two_pos positive)
  rw [nearestCount]
  generalize (2 * a + unit) / (2 * unit) = count at *
  have order : count * (2 * unit) = 2 * (count * unit) := by ring
  omega

theorem nearest_multiple_signed {unit : ℕ} (positive : 0 < unit) (n : ℤ) :
    NearestMultiple unit n (if n < 0 then -((nearestCount unit n.natAbs * unit : ℕ) : ℤ)
      else (nearestCount unit n.natAbs * unit : ℕ)) := by
  obtain ⟨low, high⟩ := nearest_count_bounds positive n.natAbs
  have divides : (unit : ℤ) ∣ (nearestCount unit n.natAbs * unit : ℕ) := by
    exact_mod_cast Nat.dvd_mul_left _ _
  generalize nearestCount unit n.natAbs * unit = multiple at *
  by_cases negative : n < 0
  · rw [if_pos negative]
    exact ⟨Int.dvd_neg.mpr divides, by omega, by omega⟩
  · rw [if_neg negative]
    exact ⟨divides, by omega, by omega⟩

namespace Binary

def half (count : ℕ) : Binary :=
  ⟨false, (integer (2 * count - 1)).mantissa, (integer (2 * count - 1)).exponent - 1⟩

section

variable {count : ℕ} (positive : 0 < count) (bounded : count ≤ leading)
include positive bounded

theorem half_full : (half count).Full := by
  have full := integer_full (n := 2 * count - 1) (by omega) (by omega)
  have few := log2_le (n := 2 * count - 1) (by omega) (by omega)
  have place : (half count).exponent = ((2 * count - 1).log2 : ℤ) - 52 - 1 := rfl
  exact ⟨full.full, full.small, by omega, by omega⟩

theorem half_magnitude : (half count).magnitude = count - 1 / 2 := by
  have value := integer_magnitude (n := 2 * count - 1) (by omega) (by omega)
  rw [magnitude] at value
  rw [magnitude, half, zpow_sub_one₀ two_ne_zero, ← mul_assoc, value, Nat.cast_sub (by omega)]
  push_cast
  ring

end

section

variable {number : Binary} (full : number.Full) {unit a count : ℕ} {reciprocal : ℚ}
  (positive : 0 < unit) (few : a ≤ leading) (close : |unit * reciprocal - 1| ≤ 1 / 2 ^ 54)
  (reaches : number.Reaches (a * reciprocal))
include full positive few close reaches

-- Half way between two multiples the exact product is so near to a half that it is taken for it.
theorem nearest_of_tie (tie : 2 * a + unit = 2 * (count * unit)) : number.nearest = count := by
  have some : 0 < count := by
    rcases Nat.eq_zero_or_pos count with rfl | some
    · omega
    · exact some
  have bounded : count ≤ leading := by
    by_contra many
    have : (leading + 1) * unit ≤ count * unit := Nat.mul_le_mul_right _ (not_le.mp many)
    rw [leading] at *
    omega
  have value : (a : ℚ) * reciprocal = (count - 1 / 2) * (unit * reciprocal) := by
    have tie : (2 * a + unit : ℚ) = 2 * (count * unit) := by exact_mod_cast tie
    linear_combination reciprocal / 2 * tie
  have halfFull := half_full some bounded
  have halfReaches : (half count).Reaches (a * reciprocal) := by
    have atLeast : (1 : ℚ) ≤ count := by exact_mod_cast some
    have positive : (0 : ℚ) ≤ count - 1 / 2 := by linarith
    apply halfFull.reaches_of_near
    rw [half_magnitude some bounded, value, ← mul_sub_one, abs_mul, abs_of_nonneg positive,
      div_eq_mul_one_div _ ((2 : ℚ) ^ 54)]
    exact mul_le_mul_of_nonneg_left close positive
  obtain ⟨mantissas, exponents⟩ :=
    reaches_unique full.normal halfFull.normal reaches halfReaches
  have same : number.magnitude = count - 1 / 2 := by
    rw [← half_magnitude some bounded, magnitude, magnitude, mantissas, exponents]
  apply nearest_eq <;> linarith

-- Otherwise the number is an integer apart from the halves, which is more than two roundings lose.
theorem nearest_of_between (below : 2 * (count * unit) + 2 ≤ 2 * a + unit)
    (above : 2 * a + 2 ≤ 2 * (count * unit) + unit) : number.nearest = count := by
  have scale : (0 : ℚ) < unit := by exact_mod_cast positive
  have below : (2 * (count * unit) + 2 : ℚ) ≤ 2 * a + unit := by exact_mod_cast below
  have above : (2 * a + 2 : ℚ) ≤ 2 * (count * unit) + unit := by exact_mod_cast above
  have few : (a : ℚ) ≤ leading := by exact_mod_cast few
  obtain ⟨closeBelow, closeAbove⟩ := abs_le.mp close
  obtain ⟨nearBelow, nearAbove⟩ := abs_le.mp (full.near reaches)
  have aboveScaled := mul_le_mul_of_nonneg_left closeAbove (Nat.cast_nonneg (α := ℚ) a)
  have belowScaled := mul_le_mul_of_nonneg_left closeBelow (Nat.cast_nonneg (α := ℚ) a)
  have nearBelowScaled := mul_le_mul_of_nonneg_left nearBelow scale.le
  have nearAboveScaled := mul_le_mul_of_nonneg_left nearAbove scale.le
  rw [leading] at few
  push_cast at few
  apply nearest_eq
  · by_contra less
    have lessScaled := mul_lt_mul_of_pos_left (not_le.mp less) scale
    linarith
  · by_contra more
    have moreScaled := mul_le_mul_of_nonneg_left (not_lt.mp more) scale.le
    linarith

theorem nearest_of_reaches (even : unit % 2 = 0) : number.nearest = nearestCount unit a := by
  obtain ⟨low, high⟩ := nearest_count_bounds positive a
  by_cases tie : 2 * a + unit = 2 * (nearestCount unit a * unit)
  · exact nearest_of_tie full positive few close reaches tie
  · exact nearest_of_between full positive few close reaches (by omega) (by omega)

end

-- A double that is close to the reciprocal of a unit: dividing one by the product of the two loses
-- no more than half a bit, and neither does taking that product for one.
structure Close (unit : ℕ) (number : Binary) : Prop where
  full : number.Full
  positive : number.negative = false
  least : -104 ≤ number.exponent
  greatest : number.exponent ≤ -52
  above : unit * number.magnitude ≤ 1 + 1 / 2 ^ 54
  below : 1 ≤ unit * number.magnitude * (1 + 1 / 2 ^ 54)

def isClose (unit : ℕ) (number : Binary) : Bool :=
  let one := 2 ^ (-number.exponent).toNat
  let product := unit * number.mantissa
  !number.negative && leading ≤ number.mantissa && number.mantissa < 2 * leading &&
    -104 ≤ number.exponent && number.exponent ≤ -52 &&
    2 ^ 54 * product ≤ (2 ^ 54 + 1) * one && 2 ^ 54 * one ≤ (2 ^ 54 + 1) * product

theorem close_of_is_close {unit : ℕ} {number : Binary} (check : number.isClose unit = true) :
    number.Close unit := by
  simp only [isClose, Bool.and_eq_true, decide_eq_true_eq, Bool.not_eq_true'] at check
  obtain ⟨⟨⟨⟨⟨⟨positive, lower⟩, upper⟩, least⟩, greatest⟩, above⟩, below⟩ := check
  obtain ⟨places, same⟩ := Int.eq_ofNat_of_zero_le (a := -number.exponent) (by omega)
  rw [same, Int.toNat_natCast] at above below
  have scale : (0 : ℚ) < 2 ^ places := by positivity
  have value : unit * number.magnitude = (unit * number.mantissa : ℕ) / (2 : ℚ) ^ places := by
    rw [magnitude, ← neg_neg number.exponent, same, zpow_neg, zpow_natCast, ← div_eq_mul_inv,
      Nat.cast_mul, mul_div_assoc]
  generalize unit * number.mantissa = product at *
  have above : (2 ^ 54 * product : ℚ) ≤ (2 ^ 54 + 1) * 2 ^ places := by exact_mod_cast above
  have below : (2 ^ 54 * 2 ^ places : ℚ) ≤ (2 ^ 54 + 1) * product := by exact_mod_cast below
  refine ⟨⟨lower, upper, by omega, by omega⟩, positive, least, greatest, ?_, ?_⟩
  · rw [value, div_le_iff₀ scale]
    linarith
  · rw [value, div_mul_eq_mul_div, le_div_iff₀ scale]
    linarith

section

variable {unit : ℕ} {number : Binary} (close : number.Close unit)
include close

theorem Close.product : |unit * number.magnitude - 1| ≤ 1 / 2 ^ 54 := by
  have above := close.above
  have below := close.below
  rw [abs_le]
  constructor <;> linarith

theorem Close.quotient : |1 / number.magnitude - unit| ≤ unit / 2 ^ 54 := by
  have above := close.above
  have below := close.below
  have positive : 0 < number.magnitude := by
    have some : (0 : ℚ) < number.mantissa := by exact_mod_cast close.full.positive
    rw [magnitude]
    positivity
  rw [abs_le, sub_le_iff_le_add, div_le_iff₀ positive, le_sub_iff_add_le, le_div_iff₀ positive]
  constructor <;> linarith

theorem Close.div_to_float {count : ℕ} (positive : 0 < unit) (bounded : count * unit < 2 * leading)
    (negative : Bool) :
    ((integer count).withSign negative).toFloat / number.toFloat =
      ((integer (count * unit)).withSign negative).toFloat := by
  rcases Nat.eq_zero_or_pos count with rfl | some
  · rw [zero_div_to_float close.full, close.positive, Bool.xor_false, Nat.zero_mul]
  have few : count < 2 * leading := (Nat.le_mul_of_pos_right count positive).trans_lt bounded
  have multiplePositive := Nat.mul_pos some positive
  have countFull := (integer_full some few).with_sign negative
  have multipleFull := (integer_full multiplePositive bounded).with_sign negative
  have place : ((integer count).withSign negative).exponent = (count.log2 : ℤ) - 52 := rfl
  have size := log2_le some few
  have least := close.least
  have greatest := close.greatest
  obtain ⟨quotient, full, sign, reaches, divided⟩ :=
    Binary.div_to_float countFull close.full (by omega) (by omega)
  rw [close.positive, Bool.xor_false] at sign
  have value : ((integer count).withSign negative).magnitude = count := integer_magnitude some few
  have multiple : ((integer (count * unit)).withSign negative).magnitude = (count * unit : ℕ) :=
    integer_magnitude multiplePositive bounded
  have near : ((integer (count * unit)).withSign negative).Reaches (count / number.magnitude) := by
    apply multipleFull.reaches_of_near
    rw [multiple, Nat.cast_mul, div_eq_mul_one_div, ← mul_sub, abs_mul, Nat.abs_cast,
      mul_div_assoc]
    exact mul_le_mul_of_nonneg_left close.quotient (Nat.cast_nonneg count)
  rw [value] at reaches
  rw [divided, full.eq_of_reaches multipleFull sign reaches near]

end

end Binary

end StackCall
