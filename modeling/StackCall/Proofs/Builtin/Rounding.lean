import StackCall.Proofs.Binding.Conventions
import StackCall.Proofs.Builtin.Contract
import StackCall.Proofs.Number.Order
import StackCall.Proofs.Number.Reciprocal

set_option autoImplicit false

namespace StackCall

namespace Builtin

open Binary

theorem round_double_eq {x : Float} {number : Binary} (read : ofFloat x = number)
    (bounded : number.nearest < 2 * leading) :
    roundDouble x = ((integer number.nearest).withSign number.negative).toFloat := by
  rw [roundDouble]
  simp only [read, of_nat_eq bounded, neg_integer bounded]
  cases number.negative <;> rfl

theorem round_double_zero (negative : Bool) :
    roundDouble ((integer 0).withSign negative).toFloat =
      ((integer 0).withSign negative).toFloat := by
  have read : ofFloat ((integer 0).withSign negative).toFloat = ⟨negative, 0, -1074⟩ := by
    cases negative <;> rfl
  have nearest : (⟨negative, 0, -1074⟩ : Binary).nearest = 0 :=
    show (⟨false, 0, -1074⟩ : Binary).nearest = 0 by decide +kernel
  rw [round_double_eq read (by rw [nearest]; decide), nearest]

def factor (places : ℕ) : Binary := .ofFloat (1.0 / Float.ofScientific 1 false places)

section

variable {places : ℕ} (close : (factor places).Close (10 ^ places)) (some : 0 < places)
  (few : 10 ^ places ≤ leading) {n : ℤ} (bounded : n.natAbs ≤ leading)
include few bounded

theorem nearest_count_bounded :
    nearestCount (10 ^ places) n.natAbs * 10 ^ places < 2 * leading := by
  have low := (nearest_count_bounds (Nat.pow_pos (Nat.succ_pos 9) : 0 < 10 ^ places) n.natAbs).1
  rw [leading] at *
  omega

include close some

theorem round_double_scaled :
    roundDouble (Float.ofInt n * (factor places).toFloat) =
      ((integer (nearestCount (10 ^ places) n.natAbs)).withSign (decide (n < 0))).toFloat := by
  have unitPositive : 0 < 10 ^ places := Nat.pow_pos (Nat.succ_pos 9)
  have countBelow : nearestCount (10 ^ places) n.natAbs < 2 * leading :=
    (Nat.le_mul_of_pos_right _ unitPositive).trans_lt (nearest_count_bounded few bounded)
  have below : n.natAbs < 2 * leading := bounded.trans_lt (by decide)
  rw [of_int_eq below]
  rcases Nat.eq_zero_or_pos n.natAbs with none | positive
  · have count : nearestCount (10 ^ places) 0 = 0 := Nat.div_eq_of_lt (by omega)
    rw [none, zero_mul_to_float close.full, close.positive, Bool.xor_false, round_double_zero,
      count]
  · have size := log2_le positive below
    have least := close.least
    have greatest := close.greatest
    have place : ((integer n.natAbs).withSign (decide (n < 0))).exponent =
        (n.natAbs.log2 : ℤ) - 52 := rfl
    obtain ⟨product, full, sign, reaches, multiplied⟩ :=
      mul_to_float ((integer_full positive below).with_sign (decide (n < 0))) close.full (by omega)
        (by omega)
    rw [close.positive, Bool.xor_false] at sign
    have value : ((integer n.natAbs).withSign (decide (n < 0))).magnitude = n.natAbs :=
      integer_magnitude positive below
    have even : 10 ^ places % 2 = 0 := by
      rw [Nat.pow_mod, Nat.zero_pow some]
    rw [value] at reaches
    have nearest := nearest_of_reaches full unitPositive bounded
      (by exact_mod_cast close.product) reaches even
    rw [multiplied, round_double_eq (of_float_to_float full) (nearest ▸ countBelow), nearest, sign]
    rfl

theorem round_tens_of_int :
    roundTens (Float.ofInt n) places =
      ((integer (nearestCount (10 ^ places) n.natAbs * 10 ^ places)).withSign
        (decide (n < 0))).toFloat := by
  have read : 1.0 / Float.ofScientific 1 false places = (factor places).toFloat :=
    (to_float_of_float close.full).symm
  have unitPositive : 0 < 10 ^ places := Nat.pow_pos (Nat.succ_pos 9)
  rw [roundTens]
  simp only [read]
  rw [round_double_scaled close some few bounded,
    close.div_to_float unitPositive (nearest_count_bounded few bounded)]

end

theorem factor_close : ∀ places < 16, 0 < places → places ∉ [5, 9, 11, 15] →
    (factor places).isClose (10 ^ places) = true := by
  decide +kernel

theorem cast_long_eq {y : Float} (finite : y.isFinite = true) {n : Int64}
    (value : (ofFloat y).value = n.toInt) : castLong y = n := by
  rw [castLong, not_is_nan_of_finite finite, if_neg Bool.false_ne_true, truncate_eq value,
    Int64.ofIntClamp_toInt]

theorem lower_end : (Float.ofInt Int64.minValue.toInt).isFinite = true ∧
    (ofFloat (Float.ofInt Int64.minValue.toInt)).value = -0x8000000000000000 := by
  have read : ofFloat (Float.ofInt Int64.minValue.toInt) = ⟨true, leading, 11⟩ := by
    decide +kernel
  refine ⟨by decide +kernel, ?_⟩
  rw [read]
  norm_num [value, magnitude, leading]

theorem upper_end : (Float.ofInt Int64.maxValue.toInt).isFinite = true ∧
    (ofFloat (Float.ofInt Int64.maxValue.toInt)).value = 0x8000000000000000 := by
  have read : ofFloat (Float.ofInt Int64.maxValue.toInt) = ⟨false, leading, 11⟩ := by
    decide +kernel
  refine ⟨by decide +kernel, ?_⟩
  rw [read]
  norm_num [value, magnitude, leading]

-- The upper end is no LONG itself, so an integer below it is one.
theorem fit_long_eq (function : String) (x : Float) {y : Float} (finite : y.isFinite = true) {k : ℤ}
    (value : (ofFloat y).value = k) :
    (∃ n : Int64, n.toInt = k ∧ fitLong function x y = .ok (.long n)) ∨
      (k < -0x8000000000000000 ∨ 0x7FFFFFFFFFFFFFFF < k) ∧
        fitLong function x y = .error (.doesNotFit function x) := by
  have below : y < Float.ofInt Int64.minValue.toInt ↔ k < -0x8000000000000000 := by
    rw [lt_iff_value finite lower_end.1, lower_end.2, value]
    exact_mod_cast Iff.rfl
  have above : Float.ofInt Int64.maxValue.toInt ≤ y ↔ 0x7FFFFFFFFFFFFFFF < k := by
    rw [le_iff_value upper_end.1 finite, upper_end.2, value]
    exact_mod_cast Iff.rfl
  rw [fitLong]
  by_cases outside : k < -0x8000000000000000 ∨ 0x7FFFFFFFFFFFFFFF < k
  · exact .inr ⟨outside, if_pos ((or_congr below above).mpr outside)⟩
  · rw [if_neg fun refused => outside ((or_congr below above).mp refused)]
    rw [not_or, not_lt, not_lt] at outside
    have same := @Int64.toInt_ofIntLE k outside.1 outside.2
    exact .inl ⟨_, same, by rw [cast_long_eq finite (same ▸ value)]⟩

example : fitLong "ROUND" 0.5 9223372036854774784.0 = .ok (.long 9223372036854774784) ∧
    fitLong "ROUND" 0.5 9223372036854775808.0 = .error (.doesNotFit "ROUND" 0.5) :=
  ⟨rfl, rfl⟩

-- A count that passes the check keeps its value in 32 bits, the least LONG excepted.
theorem places_eq {digits : Int64} (counted : digits.toInt.natAbs < 16) :
    digits.toInt32.toInt.natAbs = digits.toInt.natAbs := by
  rw [Int64.toInt_toInt32, Int.bmod_eq_of_le (by omega) (by omega)]

theorem count_fits {digits : Int64} (counted : digits.toInt.natAbs < 16) :
    ¬ 15 < digits.abs.toInt := by
  rw [Int64.toInt, Int64.toBitVec_abs, BitVec.toInt_abs_eq_natAbs]
  split
  · decide
  · change ¬ (15 : ℤ) < digits.toInt.natAbs
    omega

example : ¬ 15 < Int64.minValue.abs.toInt ∧ Int64.minValue.toInt32.toInt = 0 := by decide

theorem round_finite_tens {n : ℤ} {digits : Int64} (small : n.natAbs ≤ leading)
    (tens : digits.toInt < 0) (counted : digits.toInt.natAbs < 16)
    (precise : digits.toInt.natAbs ∉ [5, 9, 11, 15]) (function : String) :
    ∃ rounded : Int64,
      roundFinite function (Float.ofInt n) digits = .ok (.long rounded) ∧
      NearestMultiple (10 ^ digits.toInt.natAbs) n rounded.toInt := by
  have some : 0 < digits.toInt.natAbs := by omega
  have few : 10 ^ digits.toInt.natAbs ≤ leading :=
    (Nat.pow_le_pow_right (by decide) (Nat.le_of_lt_succ counted)).trans (by decide)
  have close := close_of_is_close (factor_close digits.toInt.natAbs counted some precise)
  have bounded := nearest_count_bounded few small
  have rounds := round_tens_of_int close some few small
  obtain ⟨finite, value⟩ := integer_to_float bounded (decide (n < 0))
  have nearest := nearest_multiple_signed
    (Nat.pow_pos (Nat.succ_pos 9) : 0 < 10 ^ digits.toInt.natAbs) n
  rw [roundFinite, if_neg tens.not_gt, places_eq counted, rounds]
  simp only [decide_eq_true_eq] at value
  generalize nearestCount (10 ^ digits.toInt.natAbs) n.natAbs * 10 ^ digits.toInt.natAbs =
    multiple at *
  rcases fit_long_eq function (Float.ofInt n) finite value with ⟨rounded, same, fitted⟩ | refused
  · exact ⟨rounded, fitted, same ▸ nearest⟩
  · have outside := refused.1
    rw [leading] at bounded
    split at outside <;> omega

end Builtin

namespace Registry

theorem call_rounding (stack : Stack) {n digits : Int64} {entries : Dict Value}
    (value : entries.get? "value" = some (.long n))
    (count : entries.get? "digits" = some (.long digits))
    (small : n.toInt.natAbs ≤ Binary.leading) (tens : digits.toInt < 0)
    (counted : digits.toInt.natAbs < 16) :
    (standard.call "ROUND").onStack (stack.push (.map entries)) =
      (Builtin.answer
        (Builtin.roundFinite "ROUND" (Float.ofInt n.toInt) digits)).onStack stack := by
  have checked : Builtin.roundingSignature.checkNamed entries = .ok () := by
    rw [check_named_eq_ok_iff]
    refine ⟨?_, ?_⟩
    · intro parameter member
      cases List.mem_singleton.mp member
      exact ⟨_, value, rfl⟩
    · intro parameter member held found
      cases List.mem_singleton.mp member
      cases count.symm.trans found
      rfl
  have bound (name : String) (held : Value) (found : entries.get? name = some held) :
      (⟨"ROUND", fillDefaults entries Builtin.roundingSignature.optional⟩ : Arguments).get? name =
        some held := by
    rw [Arguments.get?, get?_fill_defaults, found, Option.some_or]
  have run := Builtin.rounding.on_stack_call_map stack rfl entries checked
  have registered : standard.call "ROUND" = Builtin.rounding.call := rfl
  have bounded : n.toInt.natAbs < 2 * Binary.leading := small.trans_lt (by decide)
  have finite : (Float.ofInt n.toInt).isFinite = true := by
    rw [Binary.of_int_eq bounded]
    exact (Binary.integer_to_float bounded _).1
  have body := Builtin.rounding_body (bound _ _ value)
    (Arguments.typed_eq _ _ _ (bound _ _ value) .number Value.number? _ rfl)
    (Arguments.typed_eq _ _ _ (bound _ _ count) .long Value.long? _ rfl) stack
  rw [registered, run]
  refine body.trans ?_
  rw [if_neg (Builtin.count_fits counted), if_neg fun kept => kept.2.not_gt tens,
    Builtin.roundNumber, if_pos finite]
  rfl

theorem standard_rounds_tens (stack : Stack) (n digits : Int64) (entries : Dict Value)
    (value : entries.get? "value" = some (.long n))
    (count : entries.get? "digits" = some (.long digits))
    (small : n.toInt.natAbs ≤ 0x10000000000000)
    (tens : -15 ≤ digits.toInt ∧ digits.toInt ≤ -1)
    (precise : digits.toInt ∉ [-5, -9, -11, -15]) :
    ∃ rounded : Int64, NearestMultiple (10 ^ digits.toInt.natAbs) n.toInt rounded.toInt ∧
      (standard.call "ROUND").onStack (stack.push (.map entries)) =
        (.ok (), stack.push (.long rounded)) := by
  have listed : digits.toInt.natAbs ∉ [5, 9, 11, 15] := by
    simp only [List.mem_cons, List.not_mem_nil, or_false] at precise ⊢
    omega
  obtain ⟨rounded, rounds, nearest⟩ :=
    Builtin.round_finite_tens small (by omega : digits.toInt < 0) (by omega) listed "ROUND"
  refine ⟨rounded, nearest, ?_⟩
  rw [call_rounding stack value count small (by omega) (by omega), rounds]
  rfl

theorem standard_rounds_tens_tie :
    let entries := Dict.ofList [("digits", .long (-1)), ("note", .null), ("value", .long (-25))]
    ∃ rounded : Int64, rounded.toInt = -30 ∧
      (standard.call "ROUND").onStack ⟨[.map entries, .bool true]⟩ =
        (.ok (), ⟨[.long rounded, .bool true]⟩) := by
  intro entries
  obtain ⟨rounded, nearest, run⟩ := standard_rounds_tens ⟨[.bool true]⟩ (-25) (-1) entries rfl rfl
    (by decide) (by decide) (by decide)
  refine ⟨rounded, ?_, run⟩
  obtain ⟨divides, near, away⟩ := nearest
  change (10 : ℤ) ∣ _ at divides
  change 2 * (rounded.toInt - -25).natAbs ≤ 10 at near
  change 2 * (rounded.toInt - -25).natAbs = 10 → 25 < rounded.toInt.natAbs at away
  omega

-- The multiple itself is given and is not kept: the quotient by the reciprocal is a little less.
theorem standard_misses_multiple :
    let entries := Dict.ofList [("digits", .long (-5)), ("value", .long 100000)]
    NearestMultiple (10 ^ 5) 100000 100000 ∧
      (standard.call "ROUND").onStack ⟨[.map entries]⟩ = (.ok (), ⟨[.long 99999]⟩) := by
  intro entries
  refine ⟨⟨by decide, by decide, by decide⟩, ?_⟩
  have inside : ¬ (Builtin.roundTens (Float.ofInt 100000) 5 < Float.ofInt Int64.minValue.toInt ∨
      Float.ofInt Int64.maxValue.toInt ≤ Builtin.roundTens (Float.ofInt 100000) 5) := by
    decide +kernel
  have cast : Builtin.castLong (Builtin.roundTens (Float.ofInt 100000) 5) = 99999 := by
    decide +kernel
  have places : (-5 : Int64).toInt32.toInt.natAbs = 5 := rfl
  have rounded : Builtin.roundFinite "ROUND" (Float.ofInt 100000) (-5) = .ok (.long 99999) := by
    rw [Builtin.roundFinite, if_neg (by decide), places, Builtin.fitLong, if_neg inside, cast]
  have same : (100000 : Int64).toInt = 100000 := rfl
  have run := @call_rounding ⟨[]⟩ 100000 (-5) entries rfl rfl (by decide) (by decide) (by decide)
  rw [same, rounded] at run
  exact run

end Registry

end StackCall
