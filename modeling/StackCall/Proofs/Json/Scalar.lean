import StackCall.Json.Reader
import StackCall.Json.Writer
import StackCall.Proofs.Number.Reading

set_option autoImplicit false

namespace StackCall.Json

theorem read_string_plain {c : Char} (notQuote : c ≠ '"') (notSlash : c ≠ '\\')
    (visible : 32 ≤ c.toNat) (rest : List Char) :
    readString (c :: rest) = (readString rest).map fun (text, rest) => (c :: text, rest) := by
  have raw : ¬ (c == '\\' || decide (c.toNat < 32)) = true := by
    simp [notSlash, visible]
  rw [readString, if_neg raw]
  · exact notQuote
  · intro _ _ _ _ _ slash
    exact absurd slash notSlash
  · intro _ _ slash
    exact absurd slash notSlash

theorem read_string_letter {c meant : Char} (notUnit : c ≠ 'u') (letter : unescape? c = some meant)
    (rest : List Char) :
    readString ('\\' :: c :: rest) =
      (readString rest).map fun (text, rest) => (meant :: text, rest) := by
  rw [readString, letter]
  intro _ _ _ _ _ unit
  exact absurd unit notUnit

theorem value?_control : ∀ n : Fin 32,
    Text.Hex.value? ['0', '0', Text.Hex.lower (n / 16), Text.Hex.lower (n % 16)] = some n.val := by
  decide

theorem read_string_control {c : Char} (control : c.toNat < 32) (rest : List Char) :
    readString ('\\' :: 'u' :: '0' :: '0' :: Text.Hex.lower (c.toNat / 16) ::
        Text.Hex.lower (c.toNat % 16) :: rest) =
      (readString rest).map fun (text, rest) => (c :: text, rest) := by
  have small : c.toNat < 0xD800 ∨ 0xE000 ≤ c.toNat := by omega
  rw [readString, value?_control ⟨c.toNat, control⟩]
  simp only [if_pos small, Char.ofNat_toNat]

theorem read_string_escape (c : Char) (rest : List Char) :
    readString (escape c ++ rest) =
      (readString rest).map fun (text, rest) => (c :: text, rest) := by
  by_cases quote : c = '"'
  · subst c
    exact read_string_letter (by decide) rfl rest
  by_cases slash : c = '\\'
  · subst c
    exact read_string_letter (by decide) rfl rest
  by_cases newline : c = '\n'
  · subst c
    exact read_string_letter (by decide) rfl rest
  by_cases tab : c = '\t'
  · subst c
    exact read_string_letter (by decide) rfl rest
  by_cases back : c = '\r'
  · subst c
    exact read_string_letter (by decide) rfl rest
  by_cases eight : c = Char.ofNat 8
  · subst c
    exact read_string_letter (by decide) rfl rest
  by_cases twelve : c = Char.ofNat 12
  · subst c
    exact read_string_letter (by decide) rfl rest
  rw [← Char.toNat_inj] at eight twelve
  by_cases control : c.toNat < 32
  · have written : escape c =
        ['\\', 'u', '0', '0', Text.Hex.lower (c.toNat / 16), Text.Hex.lower (c.toNat % 16)] := by
      simp_all [escape]
    rw [written]
    exact read_string_control control rest
  · have written : escape c = [c] := by simp_all [escape]
    rw [written]
    exact read_string_plain quote slash (Nat.le_of_not_lt control) rest

theorem read_string_quoted (text rest : List Char) :
    readString (text.flatMap escape ++ '"' :: rest) = some (text, rest) := by
  induction text with
  | nil => rw [List.flatMap_nil, List.nil_append, readString]
  | cons c text ih => rw [List.flatMap_cons, List.append_assoc, read_string_escape, ih]; rfl

-- What may follow a value inside a list, inside an object or at the end of a text.
def isEnd (c : Char) : Bool := isBlank c || c == ',' || c == ']' || c == '\x7d'

def Ended (rest : List Char) : Prop := ∀ c tail, rest = c :: tail → isEnd c = true

theorem not_digit_of_end {c : Char} (ends : isEnd c = true) : c.isDigit = false := by
  rw [isEnd, isBlank] at ends
  simp only [Bool.or_eq_true, beq_iff_eq] at ends
  rcases ends with (((((rfl | rfl) | rfl) | rfl) | rfl) | rfl) | rfl <;> rfl

namespace Numeral

theorem digits_append {front rest : List Char} (allDigits : AllDigits front)
    (ended : Ended rest) : digits (front ++ rest) = (front, rest) := by
  have stops : rest.takeWhile Char.isDigit = [] ∧ rest.dropWhile Char.isDigit = rest := by
    cases rest with
    | nil => exact ⟨rfl, rfl⟩
    | cons c tail => simp [not_digit_of_end (ended c tail rfl)]
  rw [digits, List.takeWhile_append_of_pos allDigits, List.dropWhile_append_of_pos allDigits,
    stops.1, stops.2, List.append_nil]

theorem to_digits_zero_first (n : ℕ) {rest : List Char} (text : Nat.toDigits 10 n = '0' :: rest) :
    rest = [] := by
  induction n using Nat.strongRecOn generalizing rest with
  | ind n ih =>
      by_cases small : n < 10
      · rw [Nat.toDigits_of_lt_base small] at text
        exact (List.cons.inj text).2.symm
      · rw [Nat.toDigits_of_base_le (by decide) (Nat.le_of_not_lt small)] at text
        cases front : Nat.toDigits 10 (n / 10) with
        | nil => exact absurd front Nat.toDigits_ne_nil
        | cons first others =>
            rw [front, List.cons_append] at text
            rw [(List.cons.inj text).1] at front
            have alone := ih (n / 10) (by omega) front
            rw [alone] at front
            have none : n / 10 = 0 := by
              rw [← @Nat.ofDigitChars_ten_toDigits (n / 10), front]
              rfl
            omega

theorem read_whole_to_digits (n : ℕ) {rest : List Char} (ended : Ended rest) :
    readWhole (Nat.toDigits 10 n ++ rest) = some (Nat.toDigits 10 n, rest) := by
  rw [readWhole, digits_append (all_digits_to_digits n) ended]
  split
  case h_1 none => exact absurd (Prod.ext_iff.mp none).1 Nat.toDigits_ne_nil
  case h_2 second more other zeros =>
    cases to_digits_zero_first n (Prod.ext_iff.mp zeros).1
  case h_3 => rfl

theorem read_fraction_ended {rest : List Char} (ended : Ended rest) :
    readFraction rest = some ([], rest) := by
  rw [readFraction.eq_def]
  split
  case h_1 tail => exact absurd (ended '.' tail rfl) (by decide)
  case h_2 => rfl

theorem read_exponent_ended {rest : List Char} (ended : Ended rest) :
    readExponent rest = some (none, rest) := by
  rw [readExponent.eq_def]
  split
  case h_1 => rfl
  case h_2 mark tail =>
    have noMark : ¬ (mark == 'e' || mark == 'E') = true := by
      intro marked
      have ends := ended mark tail rfl
      rw [Bool.or_eq_true, beq_iff_eq, beq_iff_eq] at marked
      rcases marked with rfl | rfl <;> exact absurd ends (by decide)
    rw [if_neg noMark]

theorem read_integer_text (n : ℤ) {rest : List Char} (ended : Ended rest) :
    read (integerText n ++ rest) =
      some (⟨decide (n < 0), Nat.toDigits 10 n.natAbs, [], none⟩, rest) := by
  have signed : sign (integerText n ++ rest) =
      (decide (n < 0), Nat.toDigits 10 n.natAbs ++ rest) := by
    rw [integerText]
    by_cases negative : n < 0
    · rw [if_pos negative, decide_eq_true negative]
      rfl
    · rw [if_neg negative, decide_eq_false negative, sign.eq_def]
      split
      case h_1 tail text =>
        cases digits : Nat.toDigits 10 n.natAbs with
        | nil => exact absurd digits Nat.toDigits_ne_nil
        | cons first others =>
            rw [digits, List.cons_append] at text
            have digit := all_digits_to_digits n.natAbs first (digits ▸ List.mem_cons_self)
            rw [(List.cons.inj text).1] at digit
            cases digit
      case h_2 => rfl
  simp only [read, signed, read_whole_to_digits n.natAbs ended, read_fraction_ended ended,
    read_exponent_ended ended, Option.bind_eq_bind, Option.bind_some]
  rfl

end Numeral

def Whole (n : ℤ) : Prop := -(2 ^ 63) ≤ n ∧ n < 2 ^ 64

theorem integer?_to_digits {n : ℤ} (whole : Whole n) :
    Numeral.integer? ⟨decide (n < 0), Nat.toDigits 10 n.natAbs, [], none⟩ = some n := by
  obtain ⟨least, most⟩ := whole
  simp only [Numeral.integer?, Nat.ofDigitChars_ten_toDigits, Numeral.limit, List.isEmpty_nil,
    Option.isNone_none, Bool.and_self, if_true]
  by_cases negative : n < 0
  · have magnitude : 0 < n.natAbs ∧ 2 * n.natAbs ≤ 0x10000000000000000 := by omega
    have value : -(n.natAbs : ℤ) = n := by omega
    rw [if_pos (decide_eq_true negative), if_pos magnitude, value]
  · have magnitude : n.natAbs < 0x10000000000000000 := by omega
    have value : (n.natAbs : ℤ) = n := by omega
    rw [decide_eq_false negative, if_neg Bool.false_ne_true, if_pos magnitude, value]

theorem read_number_integer_text {n : ℤ} (whole : Whole n) {rest : List Char} (ended : Ended rest) :
    readNumber (integerText n ++ rest) = some (.integer n, rest) := by
  simp only [readNumber, Numeral.read_integer_text n ended, Numeral.toJson?,
    integer?_to_digits whole, Option.bind_eq_bind, Option.bind_some]
  rfl

end StackCall.Json
