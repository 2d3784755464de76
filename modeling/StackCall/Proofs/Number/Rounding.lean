import StackCall.Proofs.Number.Neighbourhood
import StackCall.Proofs.Number.Packing

set_option autoImplicit false

namespace StackCall

open Float.Model (Format totalExponent)
open Float.Model.UnpackedFloat (Accuracy ExtendedMantissa roundWithAccuracy shiftToExponent
  shiftToTargetExponent accuracyOfFraction)

-- The exact number that a mantissa and its two residual bits stand for.
def Holds (kept : ExtendedMantissa) (x : ℚ) : Prop :=
  match kept.roundBit, kept.stickyBit with
  | false, false => x = kept.mantissa
  | false, true => kept.mantissa < x ∧ x < kept.mantissa + 1 / 2
  | true, false => x = kept.mantissa + 1 / 2
  | true, true => kept.mantissa + 1 / 2 < x ∧ x < kept.mantissa + 1

-- What a number is rounded to: the nearest mantissa, and the even one of two that are equally near.
inductive Rounds (x : ℚ) (mantissa : ℕ) : Prop
  | nearest (low : mantissa - 1 / 2 < x) (high : x < mantissa + 1 / 2) : Rounds x mantissa
  | tie (even : mantissa % 2 = 0) (half : x = mantissa - 1 / 2 ∨ x = mantissa + 1 / 2) :
      Rounds x mantissa

section

variable {kept : ExtendedMantissa} {x : ℚ}

theorem Holds.bounds (holds : Holds kept x) : kept.mantissa ≤ x ∧ x < kept.mantissa + 1 := by
  obtain ⟨mantissa, half, more⟩ := kept
  cases half <;> cases more <;> simp only [Holds] at holds
  all_goals constructor <;> linarith

theorem Holds.shift_right_one (holds : Holds kept x) : Holds kept.shiftRightOne (x / 2) := by
  obtain ⟨mantissa, half, more⟩ := kept
  have parts : (mantissa : ℚ) = 2 * (mantissa / 2 : ℕ) + (mantissa % 2 : ℕ) := by
    exact_mod_cast (Nat.div_add_mod mantissa 2).symm
  rcases Nat.mod_two_eq_zero_or_one mantissa with last | last <;>
    cases half <;> cases more <;>
    simp only [Holds, ExtendedMantissa.shiftRightOne, last, Nat.cast_zero, Nat.cast_one] at * <;>
    simp <;> (try constructor) <;> linarith

theorem Holds.shift_right (holds : Holds kept x) (places : ℕ) :
    Holds (kept >>> places) (x / 2 ^ places) := by
  change Holds (places.repeat ExtendedMantissa.shiftRightOne kept) _
  induction places with
  | zero => rwa [pow_zero, div_one]
  | succ places ih =>
      rw [Nat.repeat, pow_succ, ← div_div]
      exact ih.shift_right_one

theorem Holds.rounds (holds : Holds kept x) : Rounds x kept.roundedMantissa := by
  obtain ⟨mantissa, half, more⟩ := kept
  cases half <;> cases more <;> simp only [Holds] at holds
  case false.false =>
    change Rounds x mantissa
    exact .nearest (by linarith) (by linarith)
  case false.true =>
    change Rounds x mantissa
    exact .nearest (by linarith) holds.2
  case true.false =>
    change Rounds x (mantissa + mantissa % 2)
    rcases Nat.mod_two_eq_zero_or_one mantissa with last | last <;> rw [last]
    · exact .tie last (.inr holds)
    · refine .tie (by omega) (.inl ?_)
      push_cast
      linarith
  case true.true =>
    change Rounds x (mantissa + 1)
    refine .nearest ?_ ?_ <;> push_cast <;> linarith

end

theorem holds_exact (mantissa : ℕ) :
    Holds (ExtendedMantissa.ofMantissaAndAccuracy mantissa .exact) mantissa := rfl

theorem holds_fraction (dividend : ℕ) {divisor : ℕ} (positive : 0 < divisor) :
    Holds (ExtendedMantissa.ofMantissaAndAccuracy (dividend / divisor)
      (accuracyOfFraction (dividend % divisor) divisor)) (dividend / divisor) := by
  have scale : (0 : ℚ) < divisor := by exact_mod_cast positive
  have parts : (dividend / divisor : ℚ) =
      (dividend / divisor : ℕ) + (dividend % divisor : ℕ) / (divisor : ℚ) := by
    rw [div_eq_iff scale.ne', add_mul, div_mul_cancel₀ _ scale.ne']
    exact_mod_cast (Nat.div_add_mod' dividend divisor).symm
  have below : (dividend % divisor : ℕ) / (divisor : ℚ) < 1 := by
    rw [div_lt_one scale]
    exact_mod_cast Nat.mod_lt dividend positive
  rw [parts]
  generalize dividend / divisor = whole
  generalize dividend % divisor = rest at *
  rw [accuracyOfFraction]
  by_cases none : rest = 0
  · rw [if_pos none, none, Nat.cast_zero, zero_div, add_zero]
    rfl
  · have some : 0 < (rest : ℚ) / divisor := by
      have : 0 < rest := Nat.pos_of_ne_zero none
      positivity
    rw [if_neg none]
    rcases lt_trichotomy (2 * rest) divisor with less | same | more
    · have low : (rest : ℚ) / divisor < 1 / 2 := by
        rw [div_lt_div_iff₀ scale two_pos, mul_comm, one_mul]
        exact_mod_cast less
      rw [Nat.compare_eq_lt.mpr less]
      exact ⟨lt_add_of_pos_right _ some, (add_lt_add_iff_left _).mpr low⟩
    · have half : (rest : ℚ) / divisor = 1 / 2 := by
        rw [div_eq_div_iff scale.ne' two_ne_zero, mul_comm, one_mul]
        exact_mod_cast same
      rw [Nat.compare_eq_eq.mpr same, half]
      rfl
    · have high : 1 / 2 < (rest : ℚ) / divisor := by
        rw [div_lt_div_iff₀ two_pos scale, mul_comm _ (2 : ℚ), one_mul]
        exact_mod_cast more
      rw [Nat.compare_eq_gt.mpr more]
      exact ⟨(add_lt_add_iff_left _).mpr high, (add_lt_add_iff_left _).mpr below⟩

namespace Binary

variable {number : Binary} {x : ℚ}

theorem reaches_scaled_iff : number.Reaches (x * 2 ^ number.exponent) ↔
    if number.mantissa % 2 = 0 then
      4 * number.mantissa - (number.gapBelow : ℚ) ≤ 4 * x ∧ 4 * x ≤ 4 * number.mantissa + 2
    else 4 * number.mantissa - (number.gapBelow : ℚ) < 4 * x ∧
      4 * x < 4 * number.mantissa + 2 := by
  have scaled : x * 2 ^ number.exponent = 4 * x * number.quarter := by
    rw [quarter, zpow_sub₀ two_ne_zero]
    norm_num
    ring
  have positive := number.quarter_pos
  rw [Reaches, scaled, low, high, mul_le_mul_iff_left₀ positive, mul_le_mul_iff_left₀ positive,
    mul_lt_mul_iff_left₀ positive, mul_lt_mul_iff_left₀ positive]

theorem gap_below_of_ne (different : number.mantissa ≠ leading) : number.gapBelow = 2 :=
  if_neg fun both => different both.1

-- The least mantissa is nearer to the number below it, but no number that is rounded to it as a
-- mantissa is less than it is.
theorem reaches_of_rounds (full : leading ≤ x) (rounds : Rounds x number.mantissa) :
    number.Reaches (x * 2 ^ number.exponent) := by
  rw [reaches_scaled_iff]
  by_cases last : number.mantissa = leading
  · have gap : (0 : ℚ) ≤ number.gapBelow := Nat.cast_nonneg _
    rw [if_pos (by rw [last]; rfl), last]
    rw [last] at rounds
    cases rounds with
    | nearest low high => constructor <;> linarith
    | tie even half => rcases half with half | half <;> constructor <;> linarith
  · rw [gap_below_of_ne last]
    cases rounds with
    | nearest low high => split <;> constructor <;> push_cast <;> linarith
    | tie even half =>
        rw [if_pos even]
        rcases half with half | half <;> constructor <;> push_cast <;> linarith

theorem reaches_of_carry (leads : number.mantissa = leading) (least : -1074 < number.exponent)
    (low : 2 * leading - 1 / 2 ≤ x) (high : x < 2 * leading) :
    number.Reaches (x / 2 * 2 ^ number.exponent) := by
  have gap : number.gapBelow = 1 := if_pos ⟨leads, least⟩
  rw [reaches_scaled_iff, gap, if_pos (by rw [leads]; rfl), leads]
  constructor <;> push_cast <;> linarith

end Binary

theorem Rounds.range {x : ℚ} {mantissa : ℕ} (rounds : Rounds x mantissa)
    (low : Binary.leading ≤ x) (high : x < 2 * Binary.leading) :
    Binary.leading ≤ mantissa ∧ mantissa ≤ 2 * Binary.leading := by
  have near : x - 1 / 2 ≤ mantissa ∧ mantissa ≤ x + 1 / 2 := by
    cases rounds with
    | nearest low high => constructor <;> linarith
    | tie even half => rcases half with half | half <;> constructor <;> linarith
  constructor
  · by_contra less
    have : (mantissa + 1 : ℚ) ≤ Binary.leading := by exact_mod_cast not_le.mp less
    linarith
  · by_contra more
    have : (2 * Binary.leading + 1 : ℚ) ≤ mantissa := by exact_mod_cast not_le.mp more
    linarith

theorem shift_full {mantissa places : ℕ} {exponent : ℤ} (accuracy : Accuracy)
    (size : mantissa.log2 = 52 + places) (least : -1074 ≤ exponent + places) :
    shiftToTargetExponent Format.binary64 mantissa exponent accuracy =
      (ExtendedMantissa.ofMantissaAndAccuracy mantissa accuracy >>> places, exponent + places) := by
  have target : Format.binary64.targetExponent (totalExponent mantissa exponent) =
      exponent + places := by
    simp only [Format.targetExponent, totalExponent, size, Format.mantissaBits, Format.minExponent]
    omega
  have shift : (exponent + places - exponent).toNat = places := by omega
  simp only [shiftToTargetExponent, target, shiftToExponent, shift]

theorem shift_none {mantissa : ℕ} {exponent : ℤ} (size : mantissa.log2 = 52)
    (least : -1074 ≤ exponent) :
    shiftToTargetExponent Format.binary64 mantissa exponent .exact =
      (⟨mantissa, false, false⟩, exponent) := by
  rw [← add_zero exponent] at least
  exact (shift_full .exact size least).trans (congrArg _ (add_zero exponent))

theorem shift_carry {exponent : ℤ} (least : -1074 ≤ exponent) :
    shiftToTargetExponent Format.binary64 (2 * Binary.leading) exponent .exact =
      (⟨Binary.leading, false, false⟩, exponent + 1) :=
  shift_full .exact (Nat.log2_two_pow (n := 53)) (show -1074 ≤ exponent + 1 by omega)

theorem mantissa_range {mantissa places : ℕ} {accuracy : Accuracy} {x : ℚ}
    (holds : Holds (ExtendedMantissa.ofMantissaAndAccuracy mantissa accuracy) x)
    (size : mantissa.log2 = 52 + places) :
    Binary.leading ≤ x / 2 ^ places ∧ x / 2 ^ places < 2 * Binary.leading := by
  have nonzero : mantissa ≠ 0 := by
    rintro rfl
    rw [Nat.log2_zero] at size
    omega
  have same : (ExtendedMantissa.ofMantissaAndAccuracy mantissa accuracy).mantissa = mantissa := by
    rcases accuracy with _ | ⟨_ | _ | _⟩ <;> rfl
  have bounds := holds.bounds
  obtain ⟨lower, upper⟩ := (Nat.log2_eq_iff nonzero).mp size
  rw [pow_add] at lower
  rw [add_right_comm, pow_add] at upper
  have scale : (0 : ℚ) < 2 ^ places := by positivity
  have low : (Binary.leading * 2 ^ places : ℚ) ≤ mantissa := by exact_mod_cast lower
  have high : (mantissa + 1 : ℚ) ≤ 2 * Binary.leading * 2 ^ places := by exact_mod_cast upper
  rw [same] at bounds
  rw [le_div_iff₀ scale, div_lt_iff₀ scale]
  constructor <;> linarith

theorem round_wide (negative : Bool) {mantissa places : ℕ} {exponent : ℤ} {accuracy : Accuracy}
    {x : ℚ} (holds : Holds (ExtendedMantissa.ofMantissaAndAccuracy mantissa accuracy) x)
    (size : mantissa.log2 = 52 + places) (least : -1074 ≤ exponent + places) :
    ∃ number : Binary, number.Wide ∧ number.negative = negative ∧
      number.exponent ≤ exponent + places + 1 ∧ number.Reaches (x * 2 ^ exponent) ∧
      roundWithAccuracy Format.binary64 (signOf negative) mantissa exponent accuracy =
        number.unpacked := by
  have range := mantissa_range holds size
  have rounds := (holds.shift_right places).rounds
  have scaled : x * 2 ^ exponent = x / 2 ^ places * 2 ^ (exponent + places) := by
    rw [zpow_add₀ two_ne_zero, zpow_natCast, mul_left_comm, mul_comm,
      div_mul_cancel₀ _ (by positivity)]
  rw [scaled, roundWithAccuracy, shift_full accuracy size least]
  generalize ExtendedMantissa.ofMantissaAndAccuracy mantissa accuracy >>> places = kept at rounds
  generalize exponent + places = raised at *
  generalize x / 2 ^ places = y at *
  obtain ⟨lower, upper⟩ := rounds.range range.1 range.2
  simp only
  generalize kept.roundedMantissa = rounded at *
  -- Rounding up the greatest mantissa gives a power of two, which loses its last bit.
  by_cases fits : rounded < 2 * Binary.leading
  · have nonzero : rounded ≠ 0 := (lt_of_lt_of_le (by decide) lower).ne'
    have wide : (⟨negative, rounded, raised⟩ : Binary).Wide := ⟨⟨fits, least, fun _ => lower⟩, lower⟩
    refine ⟨_, wide, rfl, (by omega : raised ≤ raised + 1),
      Binary.reaches_of_rounds range.1 rounds, ?_⟩
    rw [shift_none wide.log2 least, wide.unpacked_eq, dif_neg nonzero]
  · obtain rfl : rounded = 2 * Binary.leading := by omega
    have below : 2 * Binary.leading - 1 / 2 ≤ y := by
      cases rounds with
      | nearest low high =>
          push_cast at low
          exact low.le
      | tie even half => rcases half with half | half <;> push_cast at half <;> linarith
    have value : y * 2 ^ raised = y / 2 * 2 ^ (raised + 1) := by
      rw [zpow_add_one₀ two_ne_zero]
      ring
    have carried : (⟨negative, Binary.leading, raised + 1⟩ : Binary).Wide :=
      ⟨⟨(by decide : Binary.leading < 2 * Binary.leading), (by omega : -1074 ≤ raised + 1),
        fun _ => le_rfl⟩, le_rfl⟩
    rw [shift_carry least, value]
    exact ⟨_, carried, rfl, le_rfl,
      Binary.reaches_of_carry rfl (by omega : -1074 < raised + 1) below range.2, rfl⟩

theorem round_reaches (negative : Bool) {mantissa places : ℕ} {exponent : ℤ} {accuracy : Accuracy}
    {x : ℚ} (holds : Holds (ExtendedMantissa.ofMantissaAndAccuracy mantissa accuracy) x)
    (size : mantissa.log2 = 52 + places) (least : -1074 ≤ exponent + places)
    (greatest : exponent + places < 971) :
    ∃ number : Binary, number.Full ∧ number.negative = negative ∧
      number.Reaches (x * 2 ^ exponent) ∧
      roundWithAccuracy Format.binary64 (signOf negative) mantissa exponent accuracy =
        number.unpacked := by
  obtain ⟨number, wide, sign, most, reaches, rounded⟩ := round_wide negative holds size least
  exact ⟨number, wide.bounded (by omega), sign, reaches, rounded⟩

end StackCall
