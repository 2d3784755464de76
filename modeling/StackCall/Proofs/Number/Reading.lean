import Mathlib.Data.List.TakeWhile
import StackCall.Number.Layout
import StackCall.Proofs.Number.Neighbourhood

set_option autoImplicit false

namespace StackCall

def upTo (mark : Char) (text : List Char) : List Char := text.takeWhile (· != mark)

def past (mark : Char) (text : List Char) : List Char := (text.dropWhile (· != mark)).tail

def readDigits (digits : List Char) : ℕ := Nat.ofDigitChars 10 digits 0

def readInteger : List Char → ℤ
  | '-' :: digits => -(readDigits digits : ℤ)
  | '+' :: digits => readDigits digits
  | digits => readDigits digits

def readPlain (text : List Char) : ℚ :=
  readDigits (upTo '.' text ++ past '.' text) * 10 ^ (-((past '.' text).length : ℤ))

def reading (text : List Char) : ℚ :=
  readPlain (upTo 'e' text) * 10 ^ readInteger (past 'e' text)

section

variable {mark : Char} {front : List Char}

theorem passes_of_absent (absent : mark ∉ front) : ∀ c ∈ front, (c != mark) = true := by
  intro c member
  exact bne_iff_ne.mpr fun same => absent (same ▸ member)

theorem up_to_mark (absent : mark ∉ front) (rest : List Char) :
    upTo mark (front ++ mark :: rest) = front := by
  rw [upTo, List.takeWhile_append_of_pos (passes_of_absent absent),
    List.takeWhile_cons_of_neg (by simp), List.append_nil]

theorem past_mark (absent : mark ∉ front) (rest : List Char) :
    past mark (front ++ mark :: rest) = rest := by
  rw [past, List.dropWhile_append_of_pos (passes_of_absent absent),
    List.dropWhile_cons_of_neg (by simp), List.tail_cons]

theorem up_to_absent (absent : mark ∉ front) : upTo mark front = front :=
  List.takeWhile_eq_self_iff.mpr (passes_of_absent absent)

theorem past_absent (absent : mark ∉ front) : past mark front = [] := by
  rw [past, List.dropWhile_eq_nil_iff.mpr (passes_of_absent absent), List.tail_nil]

end

def AllDigits (text : List Char) : Prop := ∀ c ∈ text, c.isDigit = true

section

variable {left right : List Char}

theorem AllDigits.append (first : AllDigits left) (second : AllDigits right) :
    AllDigits (left ++ right) := by
  intro c member
  cases List.mem_append.mp member with
  | inl member => exact first c member
  | inr member => exact second c member

theorem AllDigits.absent {mark : Char} (digits : AllDigits left) (other : mark.isDigit = false) :
    mark ∉ left := by
  intro member
  rw [digits mark member] at other
  cases other

theorem all_digits_to_digits (n : ℕ) : AllDigits (Nat.toDigits 10 n) :=
  fun _ => Nat.isDigit_of_mem_toDigits (by decide) (by decide)

theorem all_digits_zeros (count : ℕ) : AllDigits (List.replicate count '0') := by
  intro c member
  rw [List.eq_of_mem_replicate member]
  rfl

theorem digit_le_nine {c : Char} (digit : c.isDigit = true) : c.toNat - 48 ≤ 9 := by
  have upper := (Char.isDigit_iff_toNat.mp digit).2
  change c.toNat ≤ 57 at upper
  omega

theorem read_digits_lt {digits : List Char} (allDigits : AllDigits digits) :
    readDigits digits < 10 ^ digits.length := by
  induction digits with
  | nil => exact Nat.one_pos
  | cons digit rest ih =>
      obtain ⟨isDigit, others⟩ := List.forall_mem_cons.mp allDigits
      have most := Nat.mul_le_mul_left (10 ^ rest.length) (digit_le_nine isDigit)
      have less := ih others
      have value : readDigits (digit :: rest) =
          10 ^ rest.length * (digit.toNat - 48) + readDigits rest := by
        rw [readDigits, Nat.ofDigitChars_cons, Nat.ofDigitChars_eq_ofDigitChars_zero, Nat.mul_zero,
          Nat.zero_add]
        rfl
      rw [value, List.length_cons, pow_succ]
      omega

theorem read_digits_append_zeros (digits : List Char) (count : ℕ) :
    readDigits (digits ++ List.replicate count '0') = 10 ^ count * readDigits digits := by
  rw [readDigits, Nat.ofDigitChars_append, Nat.ofDigitChars_replicate_zero, readDigits]

theorem read_digits_zeros_append (digits : List Char) (count : ℕ) :
    readDigits (List.replicate count '0' ++ digits) = readDigits digits := by
  rw [readDigits, Nat.ofDigitChars_append, Nat.ofDigitChars_replicate_zero, Nat.mul_zero,
    readDigits]

theorem read_integer_digits (digits : AllDigits left) : readInteger left = readDigits left := by
  unfold readInteger
  split
  case h_1 => exact absurd (digits '-' List.mem_cons_self) (by decide)
  case h_2 => exact absurd (digits '+' List.mem_cons_self) (by decide)
  case h_3 => rfl

theorem reading_plain (noExponent : 'e' ∉ left) : reading left = readPlain left := by
  have noDigits : readInteger [] = 0 := rfl
  rw [reading, up_to_absent noExponent, past_absent noExponent, noDigits, zpow_zero, mul_one]

theorem reading_scaled (noExponent : 'e' ∉ left) (exponent : List Char) :
    reading (left ++ 'e' :: exponent) = readPlain left * 10 ^ readInteger exponent := by
  rw [reading, up_to_mark noExponent, past_mark noExponent]

theorem read_plain_whole (digits : AllDigits left) : readPlain left = readDigits left := by
  have noPoint : '.' ∉ left := digits.absent rfl
  rw [readPlain, up_to_absent noPoint, past_absent noPoint, List.append_nil, List.length_nil,
    Nat.cast_zero, neg_zero, zpow_zero, mul_one]

theorem read_plain_point (digits : AllDigits left) :
    readPlain (left ++ '.' :: right) =
      readDigits (left ++ right) * 10 ^ (-(right.length : ℤ)) := by
  have noPoint : '.' ∉ left := digits.absent rfl
  rw [readPlain, up_to_mark noPoint, past_mark noPoint]

end

theorem read_integer_integer_text (n : ℤ) : readInteger (integerText n) = n := by
  rw [integerText]
  split
  case isTrue negative =>
    rw [readInteger, readDigits, Nat.ofDigitChars_ten_toDigits]
    omega
  case isFalse =>
    rw [read_integer_digits (all_digits_to_digits _), readDigits, Nat.ofDigitChars_ten_toDigits]
    omega

theorem integer_text_injective : Function.Injective integerText :=
  Function.LeftInverse.injective read_integer_integer_text

-- A power of ten that is counted down from the leading digit.
def scaled (digits : List Char) (leading : ℤ) : ℚ :=
  readDigits digits * 10 ^ (leading + 1 - digits.length)

def inMantissa (c : Char) : Bool := c.isDigit || c == '.'

def inExponent (c : Char) : Bool := c.isDigit || c == '-' || c == '+'

theorem in_mantissa_of_digit {c : Char} (digit : c.isDigit = true) : inMantissa c = true := by
  rw [inMantissa, digit, Bool.true_or]

theorem in_exponent_of_digit {c : Char} (digit : c.isDigit = true) : inExponent c = true := by
  rw [inExponent, digit, Bool.true_or, Bool.true_or]

theorem in_exponent_integer_text (n : ℤ) : ∀ c ∈ integerText n, inExponent c = true := by
  have digits : ∀ c ∈ Nat.toDigits 10 n.natAbs, inExponent c = true :=
    fun c member => in_exponent_of_digit (all_digits_to_digits _ c member)
  rw [integerText]
  split
  case isTrue => exact List.forall_mem_cons.mpr ⟨rfl, digits⟩
  case isFalse => exact digits

theorem positional_point {digits : List Char} (allDigits : AllDigits digits) (leading : ℤ) :
    ∃ whole fraction, positional digits leading = whole ++ '.' :: fraction ∧
      AllDigits whole ∧ AllDigits fraction ∧
      (readDigits (whole ++ fraction) : ℚ) * 10 ^ (-(fraction.length : ℤ)) =
        scaled digits leading := by
  rw [positional, scaled]
  split
  case isTrue below =>
    refine ⟨['0'], List.replicate (-leading - 1).toNat '0' ++ digits, rfl,
      all_digits_zeros 1, (all_digits_zeros _).append allDigits, ?_⟩
    have value := read_digits_zeros_append digits ((-leading - 1).toNat + 1)
    rw [List.replicate_succ, List.cons_append] at value
    rw [List.singleton_append, value, List.length_append, List.length_replicate]
    congr 2
    omega
  case isFalse notBelow =>
    dsimp only
    split
    case isTrue short =>
      refine ⟨digits ++ List.replicate (leading.toNat + 1 - digits.length) '0', ['0'], rfl,
        allDigits.append (all_digits_zeros _), all_digits_zeros 1, ?_⟩
      have zeros : leading + 1 - digits.length = ((leading.toNat + 1 - digits.length : ℕ) : ℤ) := by
        omega
      have value :=
        read_digits_append_zeros
          (digits ++ List.replicate (leading.toNat + 1 - digits.length) '0') 1
      rw [List.replicate_one, read_digits_append_zeros] at value
      rw [value, zeros, zpow_natCast, List.length_singleton, Nat.cast_one, zpow_neg_one]
      push_cast
      ring
    case isFalse long =>
      refine ⟨digits.take (leading.toNat + 1), digits.drop (leading.toNat + 1), rfl,
        fun c member => allDigits c (List.mem_of_mem_take member),
        fun c member => allDigits c (List.mem_of_mem_drop member), ?_⟩
      rw [List.take_append_drop, List.length_drop]
      congr 2
      omega

theorem signed_exponent (plus : Bool) (n : ℤ) :
    ∃ text, (if plus && decide (0 ≤ n) then ['e', '+'] else ['e']) ++ integerText n = 'e' :: text ∧
      (∀ c ∈ text, inExponent c = true) ∧ readInteger text = n := by
  split
  case isTrue signed =>
    rw [Bool.and_eq_true, decide_eq_true_iff] at signed
    refine ⟨'+' :: integerText n, rfl, ?_, ?_⟩
    · exact List.forall_mem_cons.mpr ⟨rfl, in_exponent_integer_text n⟩
    · rw [readInteger, integerText, if_neg (not_lt.mpr signed.2), readDigits,
        Nat.ofDigitChars_ten_toDigits]
      exact Int.natAbs_of_nonneg signed.2
  case isFalse =>
    exact ⟨integerText n, rfl, in_exponent_integer_text n, read_integer_integer_text n⟩

theorem exponential_mark (plus : Bool) {digits : List Char} (allDigits : AllDigits digits)
    (leading : ℤ) :
    ∃ mantissa exponent, exponential plus digits leading = mantissa ++ 'e' :: exponent ∧
      (∀ c ∈ mantissa, inMantissa c = true) ∧ (∀ c ∈ exponent, inExponent c = true) ∧
      readPlain mantissa * 10 ^ readInteger exponent = scaled digits leading := by
  obtain ⟨exponent, marked, exponentChars, value⟩ := signed_exponent plus leading
  unfold exponential
  rw [scaled, List.append_assoc, marked]
  split
  case h_1 first second rest =>
    have firstDigit : AllDigits [first] := fun c member =>
      allDigits c (List.mem_cons.mpr (.inl (List.mem_singleton.mp member)))
    refine ⟨[first] ++ '.' :: second :: rest, exponent, rfl, ?_, exponentChars, ?_⟩
    · intro c member
      by_cases point : c = '.'
      · rw [point]
        rfl
      · refine in_mantissa_of_digit (allDigits c ?_)
        simpa [point] using member
    · rw [read_plain_point firstDigit, value, mul_assoc, ← zpow_add₀ (by norm_num),
        List.singleton_append]
      congr 2
      simp only [List.length_cons]
      push_cast
      ring
  case h_2 single =>
    refine ⟨digits, exponent, rfl, fun c member => in_mantissa_of_digit (allDigits c member),
      exponentChars, ?_⟩
    rw [read_plain_whole allDigits, value]
    match digits, single with
    | [], _ => simp [readDigits]
    | [_], _ => rw [List.length_singleton, Nat.cast_one, add_sub_cancel_right]
    | first :: second :: rest, single => exact absurd rfl (single first second rest)

-- What the two notations have in common: a first part, a point or an exponent mark, and the rest.
structure Marked (text : List Char) (value : ℚ) : Prop where
  parts : ∃ front mark rest, text = front ++ mark :: rest ∧ (mark = '.' ∨ mark = 'e') ∧
    (∀ c ∈ front, inMantissa c = true) ∧ ∀ c ∈ rest, inExponent c = true
  reads : reading text = value

theorem marked_positional {digits : List Char} (allDigits : AllDigits digits) (leading : ℤ) :
    Marked (positional digits leading) (scaled digits leading) := by
  obtain ⟨whole, fraction, text, wholeDigits, fractionDigits, value⟩ :=
    positional_point allDigits leading
  refine ⟨⟨whole, '.', fraction, text, .inl rfl,
    fun c member => in_mantissa_of_digit (wholeDigits c member),
    fun c member => in_exponent_of_digit (fractionDigits c member)⟩, ?_⟩
  have noExponent : 'e' ∉ whole ++ '.' :: fraction := by
    rw [List.mem_append, List.mem_cons, not_or, not_or]
    exact ⟨wholeDigits.absent rfl, by decide, fractionDigits.absent rfl⟩
  rw [text, reading_plain noExponent, read_plain_point wholeDigits, value]

theorem marked_exponential (plus : Bool) {digits : List Char} (allDigits : AllDigits digits)
    (leading : ℤ) : Marked (exponential plus digits leading) (scaled digits leading) := by
  obtain ⟨mantissa, exponent, text, mantissaChars, exponentChars, value⟩ :=
    exponential_mark plus allDigits leading
  refine ⟨⟨mantissa, 'e', exponent, text, .inr rfl, mantissaChars, exponentChars⟩, ?_⟩
  have noExponent : 'e' ∉ mantissa := by
    intro member
    exact absurd (mantissaChars 'e' member) (by decide)
  rw [text, reading_scaled noExponent, value]

theorem exists_zeros (decimal : Decimal) :
    ∃ count, decimal.digits = decimal.significant ++ List.replicate count '0' := by
  refine ⟨(decimal.digits.reverse.takeWhile (· == '0')).length, ?_⟩
  have zeros : decimal.digits.reverse.takeWhile (· == '0') =
      List.replicate (decimal.digits.reverse.takeWhile (· == '0')).length '0' :=
    List.eq_replicate_of_mem fun _ member =>
      eq_of_beq (List.mem_takeWhile_imp (p := (· == '0')) member)
  have halves := congrArg List.reverse
    (decimal.digits.reverse.takeWhile_append_dropWhile (p := (· == '0')))
  rw [List.reverse_reverse, List.reverse_append, zeros, List.reverse_replicate] at halves
  exact halves.symm

theorem all_digits_significant (decimal : Decimal) : AllDigits decimal.significant := by
  obtain ⟨count, digits⟩ := exists_zeros decimal
  intro c member
  refine all_digits_to_digits decimal.coefficient c ?_
  rw [← Decimal.digits, digits]
  exact List.mem_append_left _ member

-- The digits that are left out are zeros at the end, which the exponent makes up for.
theorem scaled_significant (decimal : Decimal) :
    scaled decimal.significant decimal.leading = decimal.value := by
  obtain ⟨count, digits⟩ := exists_zeros decimal
  have nonempty : 0 < decimal.digits.length := Nat.length_toDigits_pos
  have length : decimal.digits.length = decimal.significant.length + count := by
    rw [digits, List.length_append, List.length_replicate]
  have whole : readDigits decimal.digits = decimal.coefficient := Nat.ofDigitChars_ten_toDigits
  have coefficient : (decimal.coefficient : ℚ) = 10 ^ count * readDigits decimal.significant := by
    rw [← whole, digits, read_digits_append_zeros]
    push_cast
    rfl
  have exponent : decimal.leading + 1 - decimal.significant.length = decimal.exponent + count := by
    rw [Decimal.leading]
    omega
  rw [scaled, exponent, Decimal.value, coefficient, zpow_add₀ (by norm_num), zpow_natCast]
  ring

namespace Layout

variable (layout : Layout)

theorem marked_decimal (decimal : Decimal) : Marked (layout.decimal decimal) decimal.value := by
  rw [Layout.decimal, ← scaled_significant]
  split
  case isTrue => exact marked_positional (all_digits_significant decimal) _
  case isFalse => exact marked_exponential layout.plus (all_digits_significant decimal) _

theorem marked_magnitude (number : Binary) :
    ∃ value, Marked (layout.magnitude number) value ∧ number.Reaches value := by
  rw [magnitude]
  split
  case isTrue zero =>
    have noDigits : AllDigits [] := fun _ member => nomatch member
    have value : scaled [] 0 = 0 := by
      rw [scaled, readDigits, Nat.ofDigitChars_nil, Nat.cast_zero, zero_mul]
    exact ⟨0, value ▸ marked_positional noDigits 0, Binary.reaches_zero zero⟩
  case isFalse =>
    exact ⟨_, layout.marked_decimal _, number.shortest_reaches layout.tie⟩

end Layout

theorem Marked.unsigned {text : List Char} {value : ℚ} (marked : Marked text value)
    (rest : List Char) : text ≠ '-' :: rest := by
  obtain ⟨front, mark, tail, text, point, frontChars, -⟩ := marked.parts
  intro signed
  rw [text] at signed
  cases front with
  | nil =>
      have sign := (List.cons.inj signed).1
      rcases point with rfl | rfl <;> exact absurd sign (by decide)
  | cons first others =>
      have sign := (List.cons.inj signed).1
      subst sign
      exact absurd (frontChars '-' List.mem_cons_self) (by decide)

theorem Layout.text_injective (layout : Layout) : Function.Injective layout.text := by
  intro x y same
  refine Binary.of_float_injective ?_
  obtain ⟨left, leftMarked, leftReaches⟩ := layout.marked_magnitude (.ofFloat x)
  obtain ⟨right, rightMarked, rightReaches⟩ := layout.marked_magnitude (.ofFloat y)
  have ⟨sign, magnitudes⟩ : (Binary.ofFloat x).negative = (Binary.ofFloat y).negative ∧
      layout.magnitude (.ofFloat x) = layout.magnitude (.ofFloat y) := by
    simp only [text] at same
    split at same <;> split at same
    case isTrue.isTrue minusLeft minusRight =>
      exact ⟨minusLeft.trans minusRight.symm, (List.cons.inj same).2⟩
    case isTrue.isFalse => exact absurd same.symm (rightMarked.unsigned _)
    case isFalse.isTrue => exact absurd same (leftMarked.unsigned _)
    case isFalse.isFalse plusLeft plusRight =>
      exact ⟨(Bool.eq_false_of_not_eq_true plusLeft).trans
        (Bool.eq_false_of_not_eq_true plusRight).symm, same⟩
  have value : left = right := by
    rw [← leftMarked.reads, ← rightMarked.reads, magnitudes]
  have ⟨mantissa, exponent⟩ :=
    Binary.reaches_unique (Binary.normal_of_float x) (Binary.normal_of_float y) leftReaches
      (value ▸ rightReaches)
  exact Binary.ext sign mantissa exponent

end StackCall
