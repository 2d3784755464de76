import StackCall.Proofs.Literal.Part
import StackCall.Proofs.Literal.Token
import StackCall.Proofs.Number.Shortest

set_option autoImplicit false

namespace StackCall

theorem point_mem_positional {digits : List Char} (allDigits : AllDigits digits) (leading : ℤ) :
    '.' ∈ positional digits leading := by
  obtain ⟨whole, fraction, text, -⟩ := positional_point allDigits leading
  rw [text]
  exact List.mem_append_right _ List.mem_cons_self

theorem point_mem_exponential_iff (plus : Bool) {digits : List Char} (allDigits : AllDigits digits)
    (leading : ℤ) : '.' ∈ exponential plus digits leading ↔ 1 < digits.length := by
  obtain ⟨exponent, marked, exponentChars, -⟩ := signed_exponent plus leading
  have noPoint : '.' ∉ 'e' :: exponent := by
    intro member
    cases member with
    | tail _ member => exact absurd (exponentChars '.' member) (by decide)
  unfold exponential
  rw [List.append_assoc, marked]
  split
  case h_1 first second rest => simp
  case h_2 single =>
    have absent : '.' ∉ digits ++ 'e' :: exponent := by
      rw [List.mem_append, not_or]
      exact ⟨allDigits.absent rfl, noPoint⟩
    match digits, single with
    | [], _ => exact iff_of_false absent (by simp)
    | [_], _ => exact iff_of_false absent (by simp)
    | first :: second :: rest, single => exact absurd rfl (single first second rest)

namespace Layout

variable (layout : Layout)

theorem point_mem_decimal_iff (decimal : Decimal) :
    '.' ∈ layout.decimal decimal ↔
      (layout.least ≤ decimal.leading ∧ decimal.leading ≤ layout.most) ∨
        ¬ decimal.significant.length ≤ 1 := by
  have allDigits := all_digits_significant decimal
  rw [Layout.decimal]
  by_cases within : layout.least ≤ decimal.leading ∧ decimal.leading ≤ layout.most
  · simp [within, point_mem_positional allDigits]
  · simp [within, point_mem_exponential_iff layout.plus allDigits]

theorem point_mem_text_iff (x : Float) :
    '.' ∈ layout.text x ↔ '.' ∈ layout.magnitude (.ofFloat x) := by
  rw [Layout.text]
  split
  · simp
  · rfl

end Layout

namespace Literal

def Plain (value : ℚ) : Prop := value = 0 ∨ 1 / 10 ^ 4 ≤ |value| ∧ |value| < 10 ^ 16

theorem double_finite {x : Float} (finite : x.isFinite = true) : double x = layout.text x := by
  rw [double, Binary.not_is_nan_of_finite finite, if_neg Bool.false_ne_true, if_pos finite]

-- The doubles nearest to the two ends of the range, of which the second is exact.
def leastPlain : Binary := ⟨false, 7378697629483821, -66⟩

def leastScaled : Binary := ⟨false, 5000000000000000, 1⟩

theorem least_plain_bound : leastPlain.Normal ∧ (10 : ℚ) ^ (-4 : ℤ) ≤ leastPlain.magnitude ∧
    (leastPlain.shortest .larger).value = 10 ^ (-4 : ℤ) := by
  have shortest : leastPlain.shortest .larger = ⟨1, -4⟩ := by decide +kernel
  refine ⟨⟨by decide, by decide, fun _ => by decide⟩, ?_, ?_⟩
  · rw [Binary.magnitude, leastPlain]
    norm_num
  · rw [shortest, Decimal.value, Nat.cast_one, one_mul]

theorem least_scaled_bound : leastScaled.Normal ∧ (10 : ℚ) ^ (16 : ℤ) ≤ leastScaled.magnitude ∧
    (leastScaled.shortest .larger).value = 10 ^ (16 : ℤ) := by
  have shortest : leastScaled.shortest .larger = ⟨1, 16⟩ := by decide +kernel
  refine ⟨⟨by decide, by decide, fun _ => by decide⟩, ?_, ?_⟩
  · rw [Binary.magnitude, leastScaled]
    norm_num
  · rw [shortest, Decimal.value, Nat.cast_one, one_mul]

theorem positional_iff {number : Binary} (normal : number.Normal)
    (positive : 0 < number.mantissa) :
    layout.least ≤ (number.shortest layout.tie).leading ∧
        (number.shortest layout.tie).leading ≤ layout.most ↔
      1 / 10 ^ 4 ≤ number.magnitude ∧ number.magnitude < 10 ^ 16 := by
  have some := Binary.shortest_positive positive .larger
  obtain ⟨normalLow, aboveLow, sameLow⟩ := least_plain_bound
  obtain ⟨normalHigh, aboveHigh, sameHigh⟩ := least_scaled_bound
  have low := Binary.power_le_shortest_iff .larger normal normalLow aboveLow sameLow
  have high := Binary.power_le_shortest_iff .larger normal normalHigh aboveHigh sameHigh
  rw [Decimal.power_le_value_iff some] at low high
  have upper : (number.shortest .larger).leading ≤ 15 ↔
      ¬ 16 ≤ (number.shortest .larger).leading := by
    omega
  change -4 ≤ (number.shortest .larger).leading ∧ (number.shortest .larger).leading ≤ 15 ↔ _
  rw [upper, low, high, not_le]
  norm_num

theorem point_mem_double_iff {x : Float} (finite : x.isFinite = true) :
    '.' ∈ double x ↔
      Plain (Binary.ofFloat x).value ∨ ¬ (Binary.ofFloat x).OneDigit := by
  rw [double_finite finite, Layout.point_mem_text_iff, Layout.magnitude, Plain, Binary.abs_value]
  by_cases none : (Binary.ofFloat x).mantissa = 0
  · have zero : (Binary.ofFloat x).value = 0 := by
      rw [← abs_eq_zero, Binary.abs_value, Binary.magnitude_zero none]
    simp [none, zero]
  · have positive := Nat.pos_of_ne_zero none
    have nonzero : (Binary.ofFloat x).value ≠ 0 := by
      rw [← abs_ne_zero, Binary.abs_value]
      exact (Binary.magnitude_pos positive).ne'
    rw [if_neg none, Layout.point_mem_decimal_iff,
      positional_iff (Binary.normal_of_float x) positive, Binary.significant_le_one_iff positive]
    simp [nonzero]

theorem literal_point_iff (value : Value) (path : List Value.Step) (x : Float)
    (found : value.at? path = some (.double x)) (finite : x.isFinite = true) :
    spaced (double x) <:+: spaced value.literal.toList ∧
      ('.' ∈ double x ↔ Plain (Binary.ofFloat x).value ∨ ¬ (Binary.ofFloat x).OneDigit) := by
  refine ⟨?_, point_mem_double_iff finite⟩
  rw [Value.literal, String.toList_ofList]
  exact at?_spaced found

theorem literal_point_iff_large :
    spaced (double 1e16) <:+: spaced (Value.list [.string "1", .double 1e16]).literal.toList ∧
      ('.' ∈ double 1e16 ↔
        Plain (Binary.ofFloat 1e16).value ∨ ¬ (Binary.ofFloat 1e16).OneDigit) :=
  literal_point_iff (.list [.string "1", .double 1e16]) [.item 1] 1e16 rfl (by decide +kernel)

theorem literal_without_point :
    (Value.list [.string "1", .double 1e16]).at? [.item 1] = some (.double 1e16) ∧
      (1e16 : Float).isFinite = true ∧
      (Value.list [.string "1", .double 1e16]).literal = "[ '1' 1e16 ]" ∧ '.' ∉ double 1e16 :=
  ⟨rfl, by decide +kernel, by decide +kernel, by decide +kernel⟩

end Literal

end StackCall
