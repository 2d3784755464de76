import StackCall.Proofs.Json.Scalar
import StackCall.Proofs.Number.Overflow

set_option autoImplicit false

namespace StackCall

namespace Json.Numeral

-- The significand of a number of which the last digits are dropped. Digits are dropped only when
-- one more digit might not fit.
structure Truncated (n significand dropped : ℕ) : Prop where
  low : significand * 10 ^ dropped ≤ n
  high : n < (significand + 1) * 10 ^ dropped
  small : significand < limit
  long : 0 < dropped → limit ≤ 10 * significand + 9

theorem absorb_split {start : ℕ} (small : start < limit) {digits : List Char}
    (allDigits : AllDigits digits) :
    ∃ front back, digits = front ++ back ∧
      absorb start digits = (Nat.ofDigitChars 10 front start, front.length) ∧
      Nat.ofDigitChars 10 front start < limit ∧
      (0 < back.length → limit ≤ 10 * Nat.ofDigitChars 10 front start + 9) := by
  induction digits generalizing start with
  | nil => exact ⟨[], [], rfl, rfl, small, fun some => absurd some (Nat.lt_irrefl 0)⟩
  | cons digit rest ih =>
      obtain ⟨isDigit, others⟩ := List.forall_mem_cons.mp allDigits
      rw [absorb]
      by_cases fits : 10 * start + (digit.toNat - 48) < limit
      · obtain ⟨front, back, split, absorbed, last, long⟩ := ih fits others
        refine ⟨digit :: front, back, congrArg (digit :: ·) split, ?_, last, long⟩
        simp only [if_pos fits, absorbed]
        rfl
      · have single := digit_le_nine isDigit
        refine ⟨[], digit :: rest, rfl, if_neg fits, small, fun _ => ?_⟩
        rw [Nat.ofDigitChars_nil]
        omega

theorem absorb_to_digits (n : ℕ) :
    ∃ significand dropped, Truncated n significand dropped ∧
      absorb 0 (Nat.toDigits 10 n) =
        (significand, (Nat.toDigits 10 n).length - dropped) ∧
      dropped ≤ (Nat.toDigits 10 n).length := by
  have allDigits := all_digits_to_digits n
  obtain ⟨front, back, split, absorbed, small, long⟩ :=
    absorb_split (show 0 < limit by decide) allDigits
  have value := @Nat.ofDigitChars_ten_toDigits n
  rw [split] at allDigits value
  rw [Nat.ofDigitChars_append, Nat.ofDigitChars_eq_ofDigitChars_zero, Nat.mul_comm] at value
  have rest := read_digits_lt fun c member => allDigits c (List.mem_append_right front member)
  rw [readDigits] at rest
  have length : (Nat.toDigits 10 n).length = front.length + back.length := by
    rw [split, List.length_append]
  refine ⟨_, back.length, ⟨?_, ?_, small, long⟩, ?_, by omega⟩
  · omega
  · rw [Nat.add_mul, Nat.one_mul]
    omega
  · rw [absorbed, length, Nat.add_sub_cancel]

theorem real?_truncated (negative : Bool) (n : ℕ) :
    ∃ significand dropped, Truncated n significand dropped ∧
      real? ⟨negative, Nat.toDigits 10 n, [], none⟩ =
        (scale (Float.ofNat significand) dropped).map fun x => if negative then -x else x := by
  obtain ⟨significand, dropped, truncated, absorbed, few⟩ := absorb_to_digits n
  have power : (((Nat.toDigits 10 n).length - ((Nat.toDigits 10 n).length - dropped) : ℕ) : ℤ) -
      (0 : ℕ) + 0 = dropped := by
    omega
  refine ⟨significand, dropped, truncated, ?_⟩
  simp only [real?, absorbed, absorb, Option.getD_none, power]

theorem Truncated.positive {n significand dropped : ℕ} (truncated : Truncated n significand dropped)
    (some : 0 < n) : 0 < significand := by
  by_contra none
  have zero : significand = 0 := by omega
  have high := truncated.high
  have long := truncated.long
  rw [zero, limit] at long
  have kept : dropped = 0 := by omega
  rw [zero, kept] at high
  omega

theorem Truncated.near {n significand dropped : ℕ} (truncated : Truncated n significand dropped) :
    significand * 10 ^ dropped ≤ n ∧
      2 ^ 60 * n ≤ (2 ^ 60 + 1) * (significand * 10 ^ dropped) := by
  have high := truncated.high
  refine ⟨truncated.low, ?_⟩
  by_cases none : dropped = 0
  · rw [none, pow_zero, Nat.mul_one] at high ⊢
    omega
  · have long := truncated.long (Nat.pos_of_ne_zero none)
    rw [limit] at long
    have many : 2 ^ 60 * 10 ^ dropped ≤ significand * 10 ^ dropped :=
      Nat.mul_le_mul_right _ (by omega)
    rw [Nat.add_mul, Nat.one_mul] at high
    omega

-- The least size of an integer that is too great to be read as a double: with this significand the
-- product of the two doubles is the first that is nearer to `2 ^ 1024` than to the greatest double.
def tooGreat : ℕ := 17976931348623156225 * 10 ^ 289

theorem Truncated.lt_too_great_iff {n significand dropped : ℕ}
    (truncated : Truncated n significand dropped) :
    n < tooGreat ↔ dropped < 289 ∨ dropped = 289 ∧ significand < 17976931348623156225 := by
  have low := truncated.low
  have high := truncated.high
  rcases Nat.lt_trichotomy dropped 289 with few | rfl | many
  · refine iff_of_true ?_ (.inl few)
    have most : (significand + 1) * 10 ^ dropped ≤ limit * 10 ^ 288 :=
      Nat.mul_le_mul truncated.small (pow_le_pow_right₀ (by decide) (Nat.le_of_lt_succ few))
    have small : limit * 10 ^ 288 < tooGreat := by decide +kernel
    exact high.trans (most.trans_lt small)
  · have positive : 0 < 10 ^ 289 := by positivity
    have edge : significand < 17976931348623156225 ↔ n < tooGreat := by
      rw [tooGreat]
      constructor
      · intro less
        exact high.trans_le (Nat.mul_le_mul_right _ less)
      · intro less
        exact Nat.lt_of_mul_lt_mul_right (low.trans_lt less)
    simp [edge]
  · refine iff_of_false ?_ (by omega)
    have long := truncated.long (by omega)
    have some : 1844674407370955161 ≤ significand := by
      rw [limit] at long
      omega
    have least : 1844674407370955161 * 10 ^ 290 ≤ significand * 10 ^ dropped :=
      Nat.mul_le_mul some (pow_le_pow_right₀ (by decide) many)
    have great : tooGreat ≤ 1844674407370955161 * 10 ^ 290 := by decide +kernel
    exact not_lt.mpr (great.trans (least.trans low))

-- The two doubles that are multiplied, and what their product is rounded to when it is not too
-- great.
structure Scaled (significand power : ℕ) (first unit product : Binary) : Prop where
  full : first.Full
  reaches : first.Reaches significand
  unitFull : unit.Full
  unitReaches : unit.Reaches (10 ^ power : ℕ)
  wide : product.Wide
  unsigned : product.negative = false
  rounds : product.Reaches (first.magnitude * unit.magnitude)

theorem of_scientific_full {n power : ℕ} (positive : 0 < n)
    (less : n * 10 ^ power < Binary.overflow) (bounded : power ≤ 2 ^ 11) :
    ∃ number : Binary, number.Full ∧ -53 < number.exponent ∧ number.negative = false ∧
      number.Reaches (n * 10 ^ power : ℕ) ∧
      Float.ofScientific n false power = number.toFloat := by
  obtain ⟨number, wide, sign, reaches, read⟩ := Binary.of_scientific_reaches positive bounded
  have some : 0 < n * 10 ^ power := by positivity
  exact ⟨number, Binary.full_of_lt wide reaches (Nat.cast_lt.mpr less),
    Binary.exponent_of_one_le wide reaches (Nat.one_le_cast.mpr some), sign, reaches, read⟩

theorem of_nat_full {n : ℕ} (positive : 0 < n) (small : n < limit) :
    ∃ number : Binary, number.Full ∧ -53 < number.exponent ∧ number.negative = false ∧
      number.Reaches n ∧ Float.ofNat n = number.toFloat := by
  have bounded : limit < Binary.overflow := by decide +kernel
  have unscaled : n * 10 ^ 0 = n := by rw [pow_zero, mul_one]
  have less : n * 10 ^ 0 < Binary.overflow := unscaled.trans_lt (small.trans bounded)
  have read := of_scientific_full positive less (by decide)
  rwa [unscaled] at read

section

variable {significand power : ℕ} (positive : 0 < significand) (small : significand < limit)
include positive small

theorem scale_product (few : power ≤ 308) :
    ∃ first unit product, Scaled significand power first unit product ∧
      scale (Float.ofNat significand) power =
        if product.toFloat.isInf then none else some product.toFloat := by
  have bounded : 10 ^ 308 < Binary.overflow := by decide +kernel
  have less : 1 * 10 ^ power < Binary.overflow := by
    rw [one_mul]
    exact (pow_le_pow_right₀ (by decide) few).trans_lt bounded
  obtain ⟨first, full, least, sign, reaches, read⟩ := of_nat_full positive small
  obtain ⟨unit, unitFull, unitLeast, unitSign, unitReaches, unitRead⟩ :=
    of_scientific_full Nat.one_pos less (few.trans (by decide))
  obtain ⟨product, wide, unsigned, -, rounds, multiplied⟩ :=
    Binary.mul_wide full unitFull (by omega)
  rw [one_mul] at unitReaches
  rw [sign, unitSign] at unsigned
  refine ⟨first, unit, product, ⟨full, reaches, unitFull, unitReaches, wide, unsigned, rounds⟩, ?_⟩
  rw [scale, Int.natAbs_natCast, if_pos few, if_pos (Int.natCast_nonneg power), Int.toNat_natCast,
    read, unitRead, multiplied]

theorem scale_none (many : 308 < power) : scale (Float.ofNat significand) power = none := by
  obtain ⟨first, full, -, -, -, read⟩ := of_nat_full positive small
  rw [scale, Int.natAbs_natCast, if_neg (Nat.not_le.mpr many), read, Binary.to_float_ne_zero full,
    if_neg Bool.false_ne_true, if_pos (Int.natCast_nonneg power)]

end

namespace Scaled

variable {significand power : ℕ} {first unit product : Binary}
  (scaled : Scaled significand power first unit product)
include scaled

theorem lt_overflow {x y : ℕ} (most : first.magnitude ≤ x) (unitMost : unit.magnitude ≤ y)
    (less : x * y < Binary.overflow) : first.magnitude * unit.magnitude < Binary.overflow := by
  have positive := (Binary.magnitude_pos scaled.unitFull.positive).le
  have productMost := mul_le_mul most unitMost positive (Nat.cast_nonneg x)
  rw [← Nat.cast_mul] at productMost
  exact productMost.trans_lt (Nat.cast_lt.mpr less)

theorem overflow_le {x y : ℕ} (least : x ≤ first.magnitude) (unitLeast : y ≤ unit.magnitude)
    (great : Binary.overflow ≤ x * y) : Binary.overflow ≤ first.magnitude * unit.magnitude := by
  have positive := (Binary.magnitude_pos scaled.full.positive).le
  have productLeast := mul_le_mul least unitLeast (Nat.cast_nonneg y) positive
  rw [← Nat.cast_mul] at productLeast
  exact (Nat.cast_le.mpr great).trans productLeast

theorem lt_overflow_of_few (small : significand < limit) (few : power ≤ 288) :
    first.magnitude * unit.magnitude < Binary.overflow := by
  have top : Binary.isRoundedTo limit Binary.leading 12 = true := by decide +kernel
  have unitTop : Binary.isRoundedTo (2 ^ 957) Binary.leading 905 = true := by decide +kernel
  have bounded : 10 ^ 288 ≤ 2 ^ 957 := by decide +kernel
  have powers : 10 ^ power ≤ 2 ^ 957 := (pow_le_pow_right₀ (by decide) few).trans bounded
  exact scaled.lt_overflow
    (Binary.magnitude_le_scaled top scaled.full.normal scaled.reaches small.le)
    (Binary.magnitude_le_scaled unitTop scaled.unitFull.normal scaled.unitReaches powers)
    (by decide +kernel)

-- The integers at the bottom are simple ones whose product is just above `2 ^ 1024`.
theorem overflow_le_of_many (some : 1844674407370955161 ≤ significand) (many : 290 ≤ power) :
    Binary.overflow ≤ first.magnitude * unit.magnitude := by
  have bottom : Binary.isRoundedTo (25 * 2 ^ 56) (25 * 2 ^ 48) 8 = true := by decide +kernel
  have unitBottom : Binary.isRoundedTo (41 * 2 ^ 958) (41 * 2 ^ 47) 911 = true := by
    decide +kernel
  have bounded : 25 * 2 ^ 56 ≤ 1844674407370955161 := by decide
  have unitBounded : 41 * 2 ^ 958 ≤ 10 ^ 290 := by decide +kernel
  have powers : 41 * 2 ^ 958 ≤ 10 ^ power := unitBounded.trans (pow_le_pow_right₀ (by decide) many)
  exact scaled.overflow_le
    (Binary.scaled_le_magnitude bottom scaled.full.normal scaled.reaches (bounded.trans some))
    (Binary.scaled_le_magnitude unitBottom scaled.unitFull.normal scaled.unitReaches powers)
    (by decide +kernel)

theorem lt_overflow_iff_of_edge (edge : power = 289) :
    first.magnitude * unit.magnitude < Binary.overflow ↔ significand < 17976931348623156225 := by
  subst edge
  have rounded : Binary.isRoundedTo (10 ^ 289) 0x106b0bb1fb384c 908 = true := by decide +kernel
  constructor
  · intro less
    by_contra great
    have least : Binary.isRoundedTo 17976931348623156225 0x1f2f5c7a1a488d 11 = true := by
      decide +kernel
    refine absurd less (not_lt.mpr (scaled.overflow_le
      (Binary.scaled_le_magnitude least scaled.full.normal scaled.reaches (not_lt.mp great))
      (Binary.scaled_le_magnitude rounded scaled.unitFull.normal scaled.unitReaches le_rfl) ?_))
    decide +kernel
  · intro less
    have most : Binary.isRoundedTo 17976931348623156224 0x1f2f5c7a1a488c 11 = true := by
      decide +kernel
    refine scaled.lt_overflow
      (Binary.magnitude_le_scaled most scaled.full.normal scaled.reaches (Nat.le_of_lt_succ less))
      (Binary.magnitude_le_scaled rounded scaled.unitFull.normal scaled.unitReaches le_rfl) ?_
    decide +kernel

theorem lt_overflow_iff {n : ℕ} (truncated : Truncated n significand power) :
    first.magnitude * unit.magnitude < Binary.overflow ↔ n < tooGreat := by
  rw [truncated.lt_too_great_iff]
  rcases Nat.lt_trichotomy power 289 with few | edge | many
  · exact iff_of_true (scaled.lt_overflow_of_few truncated.small (Nat.le_of_lt_succ few)) (.inl few)
  · rw [scaled.lt_overflow_iff_of_edge edge]
    omega
  · have long := truncated.long (by omega)
    rw [limit] at long
    have great := scaled.overflow_le_of_many (by omega) many
    exact iff_of_false (not_lt.mpr great) (by omega)

-- Three roundings and the dropped digits are less than one part in 2 ^ 51.
theorem near {n : ℕ} (truncated : Truncated n significand power) (full : product.Full) :
    |(n : ℚ) - product.magnitude| ≤ product.magnitude / 2 ^ 51 := by
  obtain ⟨low, high⟩ := truncated.near
  have low : (significand * 10 ^ power : ℚ) ≤ n := by exact_mod_cast low
  have high : (2 ^ 60 * n : ℚ) ≤ (2 ^ 60 + 1) * (significand * 10 ^ power) := by
    exact_mod_cast high
  have positive := Binary.magnitude_pos scaled.full.positive
  have unitPositive := Binary.magnitude_pos scaled.unitFull.positive
  have productPositive := Binary.magnitude_pos full.positive
  obtain ⟨above, below⟩ := abs_le.mp (scaled.full.near scaled.reaches)
  obtain ⟨unitAbove, unitBelow⟩ := abs_le.mp (scaled.unitFull.near scaled.unitReaches)
  obtain ⟨productAbove, productBelow⟩ := abs_le.mp (full.near scaled.rounds)
  rw [Nat.cast_pow, Nat.cast_ofNat] at unitAbove unitBelow
  generalize (10 : ℚ) ^ power = scale at *
  generalize (significand : ℚ) = kept at *
  generalize first.magnitude = a at *
  generalize unit.magnitude = b at *
  generalize product.magnitude = c at *
  have most : kept * scale ≤ (a + a / 2 ^ 53) * (b + b / 2 ^ 53) :=
    mul_le_mul (by linarith) (by linarith) (by linarith) (by linarith)
  have least : (a - a / 2 ^ 53) * (b - b / 2 ^ 53) ≤ kept * scale :=
    mul_le_mul (by linarith) (by linarith) (by linarith) (by linarith)
  rw [abs_le]
  constructor <;> linarith

end Scaled

section

variable (negative : Bool) {n : ℕ} (positive : 0 < n)
include positive

theorem real?_near (less : n < tooGreat) :
    ∃ number : Binary, number.Full ∧ number.negative = negative ∧
      |(n : ℚ) - number.magnitude| ≤ number.magnitude / 2 ^ 51 ∧
      real? ⟨negative, Nat.toDigits 10 n, [], none⟩ = some number.toFloat := by
  obtain ⟨significand, dropped, truncated, read⟩ := real?_truncated negative n
  have few : dropped ≤ 308 := by
    have := truncated.lt_too_great_iff.mp less
    omega
  obtain ⟨first, unit, product, scaled, multiplied⟩ :=
    scale_product (truncated.positive positive) truncated.small few
  have full := Binary.full_of_lt scaled.wide scaled.rounds
    ((scaled.lt_overflow_iff truncated).mpr less)
  refine ⟨product.withSign negative, full.with_sign negative, rfl, scaled.near truncated full, ?_⟩
  rw [read, multiplied, Binary.not_is_inf_to_float full, if_neg Bool.false_ne_true, Option.map_some]
  cases negative with
  | false =>
      have same : product.withSign false = product := by
        rw [← scaled.unsigned]
        rfl
      rw [same, if_neg Bool.false_ne_true]
  | true => rw [if_pos rfl, Binary.neg_to_float full, scaled.unsigned, Bool.not_false]

theorem real?_none (great : tooGreat ≤ n) :
    real? ⟨negative, Nat.toDigits 10 n, [], none⟩ = none := by
  obtain ⟨significand, dropped, truncated, read⟩ := real?_truncated negative n
  have kept := truncated.positive positive
  by_cases few : dropped ≤ 308
  · obtain ⟨first, unit, product, scaled, multiplied⟩ :=
      scale_product kept truncated.small few
    have infinite := (Binary.is_inf_iff scaled.wide scaled.rounds).mpr
      (not_lt.mp (mt (scaled.lt_overflow_iff truncated).mp (not_lt.mpr great)))
    rw [read, multiplied, if_pos infinite, Option.map_none]
  · rw [read, scale_none kept truncated.small (not_le.mp few), Option.map_none]

end

end Json.Numeral

end StackCall
