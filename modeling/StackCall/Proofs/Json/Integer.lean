import StackCall.Proofs.Json.Conversion
import StackCall.Proofs.Json.Numeral

set_option autoImplicit false

namespace StackCall

open Json (Numeral Whole)
open Json.Numeral (tooGreat)

namespace Json

theorem parse?_integer_text (n : ℤ) :
    parse? (String.ofList (integerText n)) =
      Numeral.toJson? ⟨decide (n < 0), Nat.toDigits 10 n.natAbs, [], none⟩ := by
  have ended : Ended [] := fun _ _ text => nomatch text
  have value := read_value_integer_text 127 blank_nil n []
  have read := Numeral.read_integer_text n ended
  rw [List.nil_append, List.append_nil] at value
  rw [List.append_nil] at read
  simp only [parse?, String.toList_ofList, value, readNumber, read, Option.bind_eq_bind,
    Option.bind_some]
  cases Numeral.toJson? ⟨decide (n < 0), Nat.toDigits 10 n.natAbs, [], none⟩ <;> rfl

theorem integer?_none {n : ℤ} (beyond : ¬ Whole n) :
    Numeral.integer? ⟨decide (n < 0), Nat.toDigits 10 n.natAbs, [], none⟩ = none := by
  rw [Whole, not_and_or] at beyond
  simp only [Numeral.integer?, Nat.ofDigitChars_ten_toDigits, Numeral.limit, List.isEmpty_nil,
    Option.isNone_none, Bool.and_self, if_true]
  by_cases negative : n < 0
  · have wide : ¬ (0 < n.natAbs ∧ 2 * n.natAbs ≤ 0x10000000000000000) := by omega
    rw [if_pos (decide_eq_true negative), if_neg wide]
  · have wide : ¬ n.natAbs < 0x10000000000000000 := by omega
    rw [decide_eq_false negative, if_neg Bool.false_ne_true, if_neg wide]

end Json

theorem operand_whole {n : ℤ} (whole : Whole n) :
    Value.ofOperand (String.ofList (integerText n)) = Value.ofInt n := by
  rw [Value.ofOperand, Json.parse?_integer_text, Numeral.toJson?, Json.integer?_to_digits whole]
  rfl

theorem operand_beyond {n : ℤ} (beyond : ¬ Whole n) :
    Value.ofOperand (String.ofList (integerText n)) =
      match Numeral.real? ⟨decide (n < 0), Nat.toDigits 10 n.natAbs, [], none⟩ with
      | some x => .double x
      | none => .string (String.ofList (integerText n)) := by
  rw [Value.ofOperand, Json.parse?_integer_text, Numeral.toJson?, Json.integer?_none beyond]
  cases Numeral.real? ⟨decide (n < 0), Nat.toDigits 10 n.natAbs, [], none⟩ <;> rfl

def NearDouble (n : ℤ) (x : Float) : Prop :=
  x.isFinite = true ∧ |(n : ℚ) - (Binary.ofFloat x).value| ≤ |(Binary.ofFloat x).value| / 2 ^ 51

theorem near_double_to_float {n : ℤ} {number : Binary} (full : number.Full)
    (sign : number.negative = decide (n < 0))
    (near : |(n.natAbs : ℚ) - number.magnitude| ≤ number.magnitude / 2 ^ 51) :
    NearDouble n number.toFloat := by
  refine ⟨Binary.is_finite_to_float full, ?_⟩
  rw [Binary.of_float_to_float full, Binary.abs_value, Binary.value, sign]
  by_cases negative : n < 0
  · have value : (n : ℚ) = -(n.natAbs : ℚ) := by
      rw [Nat.cast_natAbs, abs_of_neg negative, Int.cast_neg, neg_neg]
    rw [if_pos (decide_eq_true negative), value, neg_sub_neg, abs_sub_comm]
    exact near
  · have value : (n : ℚ) = n.natAbs := by
      rw [Nat.cast_natAbs, abs_of_nonneg (not_lt.mp negative)]
    rw [decide_eq_false negative, if_neg Bool.false_ne_true, value]
    exact near

theorem operand_double {n : ℤ} (outside : ¬ (-2 ^ 63 ≤ n ∧ n ≤ 2 ^ 63 - 1))
    (less : n.natAbs < tooGreat) :
    ∃ x, NearDouble n x ∧ Value.ofOperand (String.ofList (integerText n)) = .double x := by
  by_cases whole : Whole n
  · obtain ⟨least, most⟩ := whole
    obtain ⟨a, rfl⟩ := Int.eq_ofNat_of_zero_le (show 0 ≤ n by omega)
    obtain ⟨number, full, -, sign, reaches, read⟩ :=
      Numeral.of_nat_full (show 0 < a by omega)
        (show a < Numeral.limit by rw [Numeral.limit]; omega)
    have converted : Value.ofInt a = .double number.toFloat := by
      have wide : ¬ (Int64.minValue.toInt ≤ (a : ℤ) ∧ (a : ℤ) ≤ Int64.maxValue.toInt) := outside
      rw [Value.ofInt, Value.ofInt?, dif_neg wide, Option.getD_none, ← read]
      rfl
    have near := (full.near reaches).trans (div_le_div_of_nonneg_left
      (Binary.magnitude_pos full.positive).le (by norm_num) (by norm_num : (2 : ℚ) ^ 51 ≤ 2 ^ 53))
    refine ⟨number.toFloat, near_double_to_float full ?_ near, ?_⟩
    · rw [sign, decide_eq_false (Int.natCast_nonneg a).not_gt]
    · rw [operand_whole ⟨least, most⟩, converted]
  · obtain ⟨number, full, sign, near, read⟩ :=
      Numeral.real?_near (decide (n < 0)) (show 0 < n.natAbs by omega) less
    refine ⟨number.toFloat, near_double_to_float full sign near, ?_⟩
    rw [operand_beyond whole, read]

theorem operand_string {n : ℤ} (great : tooGreat ≤ n.natAbs) :
    Value.ofOperand (String.ofList (integerText n)) = .string (String.ofList (integerText n)) := by
  have bounded : 2 ^ 64 < tooGreat := by decide +kernel
  have beyond : ¬ Whole n := by
    rw [Whole]
    omega
  rw [operand_beyond beyond, Numeral.real?_none _ (by omega) great]

theorem operand_long {n : ℤ} (inside : -2 ^ 63 ≤ n ∧ n ≤ 2 ^ 63 - 1) :
    ∃ k : Int64, k.toInt = n ∧
      Value.ofOperand (String.ofList (integerText n)) = .long k := by
  obtain ⟨least, most⟩ := inside
  have value : (Int64.ofInt n).toInt = n := Int64.toInt_ofInt_of_le least (by omega)
  have whole : Whole n := ⟨least, by omega⟩
  refine ⟨Int64.ofInt n, value, ?_⟩
  rw [operand_whole whole, ← of_int_to_int, value]

theorem operand_integer (n : ℤ) :
    let text := String.ofList (integerText n)
    let inside := -2 ^ 63 ≤ n ∧ n ≤ 2 ^ 63 - 1
    (inside → ∃ k : Int64, k.toInt = n ∧ Value.ofOperand text = .long k) ∧
      (¬ inside → n.natAbs < tooGreat →
        ∃ x, NearDouble n x ∧ Value.ofOperand text = .double x) ∧
      (tooGreat ≤ n.natAbs → Value.ofOperand text = .string text) ∧
      ∀ k : Int64, Value.ofOperand text = .long k → k.toInt = n := by
  intro text inside
  refine ⟨operand_long, operand_double, operand_string, ?_⟩
  intro k read
  by_cases within : inside
  · obtain ⟨other, value, long⟩ := operand_long within
    rw [← value]
    congr 1
    exact (Value.long.inj (long.symm.trans read)).symm
  by_cases less : n.natAbs < tooGreat
  · obtain ⟨x, -, double⟩ := operand_double within less
    cases double.symm.trans read
  · cases (operand_string (not_lt.mp less)).symm.trans read

theorem operand_integer_ends :
    (∃ k : Int64, k.toInt = 2 ^ 63 - 1 ∧
      Value.ofOperand (String.ofList (integerText (2 ^ 63 - 1))) = .long k) ∧
      (∃ x, NearDouble (2 ^ 63) x ∧
        Value.ofOperand (String.ofList (integerText (2 ^ 63))) = .double x) ∧
      Value.ofOperand (String.ofList (integerText (10 ^ 309))) =
        .string (String.ofList (integerText (10 ^ 309))) :=
  ⟨(operand_integer _).1 (by decide), (operand_integer _).2.1 (by decide) (by decide +kernel),
    (operand_integer _).2.2.1 (by decide +kernel)⟩

-- The greatest double is not read back from the text of the integer that it is.
theorem greatest_operand :
    let n : ℤ := 2 ^ 1024 - 2 ^ 971
    let x := Float.ofBits 0x7FEFFFFFFFFFFFFF
    x.isFinite = true ∧ (Binary.ofFloat x).value = n ∧
      Value.ofOperand (String.ofList (integerText n)) = .string (String.ofList (integerText n)) := by
  intro n x
  refine ⟨by decide +kernel, ?_, operand_string (by decide +kernel)⟩
  have read : Binary.ofFloat x = ⟨false, 2 * Binary.leading - 1, 971⟩ := by decide +kernel
  generalize Binary.ofFloat x = number at read ⊢
  have sign : number.negative = false := by rw [read]
  have exponent : number.exponent = (971 : ℕ) := by
    rw [read]
    rfl
  have size : ((number.mantissa * 2 ^ 971 : ℕ) : ℤ) = n := by
    rw [read]
    decide +kernel
  rw [Binary.value, sign, if_neg Bool.false_ne_true, Binary.magnitude_natural exponent, ← size,
    Int.cast_natCast]

end StackCall
