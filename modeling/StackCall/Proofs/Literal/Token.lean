import Mathlib
import StackCall.Literal
import StackCall.Proofs.Number.Reading

set_option autoImplicit false

namespace StackCall.Literal

open Float.Model (UnpackedFloat)

def inToken (c : Char) : Bool := c.isAlphanum || c == '.' || c == '-' || c == '+'

def inNumber (c : Char) : Bool := inMantissa c || c == 'e' || inExponent c

def tokenType (text : List Char) : String :=
  if text = "NULL".toList then "NULL"
  else if text = "true".toList ∨ text = "false".toList then "BOOLEAN"
  else if text.all inExponent then "LONG"
  else "DOUBLE"

structure Token (text : List Char) (type : String) : Prop where
  nonempty : text ≠ []
  plain : ∀ c ∈ text, inToken c = true
  type : tokenType text = type

def Delimited (rest : List Char) : Prop := rest = [] ∨ ∃ more, rest = ' ' :: more

theorem up_to_space {text rest : List Char} (plain : ∀ c ∈ text, inToken c = true)
    (delimited : Delimited rest) : upTo ' ' (text ++ rest) = text := by
  have absent : ' ' ∉ text := fun member => absurd (plain ' ' member) (by decide)
  rcases delimited with rfl | ⟨more, rfl⟩
  · rw [List.append_nil]
    exact up_to_absent absent
  · exact up_to_mark absent more

theorem Token.append_injective {left right rest others : List Char} {leftType rightType : String}
    (leftToken : Token left leftType) (rightToken : Token right rightType)
    (leftEnds : Delimited rest) (rightEnds : Delimited others)
    (same : left ++ rest = right ++ others) : left = right ∧ rest = others := by
  have sameText : left = right := by
    rw [← up_to_space leftToken.plain leftEnds, ← up_to_space rightToken.plain rightEnds, same]
  rw [sameText] at same
  exact ⟨sameText, List.append_cancel_left same⟩

theorem in_token_of_in_number {c : Char} (number : inNumber c = true) : inToken c = true := by
  simp only [inNumber, inMantissa, inExponent, Bool.or_eq_true, beq_iff_eq] at number
  rw [inToken, Char.isAlphanum]
  rcases number with ((digit | rfl) | rfl) | (digit | rfl) | rfl
  case inl.inl.inl | inr.inl.inl => simp [digit]
  all_goals decide

theorem ne_word_of_number {text word : List Char} (number : ∀ c ∈ text, inNumber c = true)
    (letters : word.all inNumber = false) : text ≠ word := by
  rintro rfl
  rw [List.all_eq_true.mpr number] at letters
  cases letters

theorem token_number {text : List Char} (nonempty : text ≠ [])
    (number : ∀ c ∈ text, inNumber c = true) :
    Token text (if text.all inExponent then "LONG" else "DOUBLE") := by
  refine ⟨nonempty, fun c member => in_token_of_in_number (number c member), ?_⟩
  have notNull : text ≠ "NULL".toList := ne_word_of_number number (by decide)
  have notTrue : text ≠ "true".toList := ne_word_of_number number (by decide)
  have notFalse : text ≠ "false".toList := ne_word_of_number number (by decide)
  rw [tokenType, if_neg notNull, if_neg (not_or.mpr ⟨notTrue, notFalse⟩)]

theorem token_integer (n : ℤ) : Token (integerText n) "LONG" := by
  have integer := in_exponent_integer_text n
  have nonempty : integerText n ≠ [] := by
    rw [integerText]
    split
    case isTrue => exact List.cons_ne_nil _ _
    case isFalse => exact Nat.toDigits_ne_nil
  have number : ∀ c ∈ integerText n, inNumber c = true := fun c member => by
    rw [inNumber, integer c member, Bool.or_true]
  have token := token_number nonempty number
  rwa [if_pos (List.all_eq_true.mpr integer)] at token

theorem token_null : Token (chars .null) "NULL" :=
  ⟨by decide, List.all_eq_true.mp (by decide), if_pos rfl⟩

theorem token_bool (b : Bool) : Token (chars (.bool b)) "BOOLEAN" := by
  cases b with
  | false =>
      exact ⟨by decide, List.all_eq_true.mp (by decide),
        (if_neg (by decide)).trans (if_pos (.inr rfl))⟩
  | true =>
      exact ⟨by decide, List.all_eq_true.mp (by decide),
        (if_neg (by decide)).trans (if_pos (.inl rfl))⟩

-- A point or an exponent tells a double from an integer.
theorem marked_number {text : List Char} {value : ℚ} (marked : Marked text value) :
    (∀ c ∈ text, inNumber c = true) ∧ text.all inExponent = false := by
  obtain ⟨front, mark, rest, parts, point, frontChars, restChars⟩ := marked.parts
  subst parts
  constructor
  · intro c member
    rw [inNumber]
    rcases List.mem_append.mp member with member | member
    · rw [frontChars c member, Bool.true_or, Bool.true_or]
    rcases List.mem_cons.mp member with rfl | member
    · rcases point with rfl | rfl <;> rfl
    · rw [restChars c member, Bool.or_true]
  · have outside : inExponent mark = false := by rcases point with rfl | rfl <;> rfl
    rw [List.all_append, List.all_cons, outside, Bool.false_and, Bool.and_false]

theorem number_text (layout : Layout) (x : Float) :
    (∀ c ∈ layout.text x, inNumber c = true) ∧ (layout.text x).all inExponent = false := by
  obtain ⟨value, marked, -⟩ := layout.marked_magnitude (.ofFloat x)
  obtain ⟨number, point⟩ := marked_number marked
  rw [Layout.text]
  split
  case isTrue =>
    exact ⟨List.forall_mem_cons.mpr ⟨rfl, number⟩, by rw [List.all_cons, point, Bool.and_false]⟩
  case isFalse => exact ⟨number, point⟩

theorem token_text (layout : Layout) (x : Float) : Token (layout.text x) "DOUBLE" := by
  obtain ⟨number, point⟩ := number_text layout x
  have nonempty : layout.text x ≠ [] := by
    intro empty
    rw [empty] at point
    cases point
  have token := token_number nonempty number
  rwa [point, if_neg Bool.false_ne_true] at token

def exceptional : UnpackedFloat → Option (List Char)
  | .notANumber => some "NaN".toList
  | .infinity .negative => some "-Infinity".toList
  | .infinity .positive => some "Infinity".toList
  | _ => none

theorem exceptional_injective {a b : UnpackedFloat} {text : List Char}
    (left : exceptional a = some text) (right : exceptional b = some text) : a = b := by
  unfold exceptional at left right
  split at left <;> cases left <;> split at right <;> first | rfl | cases right

theorem double_eq (x : Float) :
    double x = (exceptional x.toModel.unpack).getD (layout.text x) := by
  have nan : x.isNaN = x.toModel.unpack.isNaN := rfl
  have finite : x.isFinite = x.toModel.unpack.isFinite := rfl
  have zero : (0 : Float).toModel.unpack = .zero .positive := rfl
  have negative : x < 0 ↔ x.toModel.unpack.lt (0 : Float).toModel.unpack = true :=
    decide_eq_true_iff
  rw [zero] at negative
  rw [double, nan, finite]
  simp only [negative]
  cases x.toModel.unpack with
  | notANumber => rfl
  | infinity sign => cases sign <;> rfl
  | zero sign => rfl
  | finite sign mantissa exponent positive => rfl

theorem unpack_injective {x y : Float} (same : x.toModel.unpack = y.toModel.unpack) : x = y := by
  obtain ⟨⟨left, leftValid⟩⟩ := x
  obtain ⟨⟨right, rightValid⟩⟩ := y
  have bits := (UnpackedFloat.unpack_inj_of_valid leftValid rightValid (by decide)).mp same
  cases UInt64.toBitVec_inj.mp bits
  rfl

theorem token_exceptional {a : UnpackedFloat} {text : List Char}
    (found : exceptional a = some text) : text.all inNumber = false ∧ Token text "DOUBLE" := by
  have other {word : List Char} (notNull : word ≠ "NULL".toList)
      (notBool : ¬ (word = "true".toList ∨ word = "false".toList))
      (notLong : ¬ word.all inExponent = true) : tokenType word = "DOUBLE" := by
    rw [tokenType, if_neg notNull, if_neg notBool, if_neg notLong]
  unfold exceptional at found
  split at found <;> cases found <;>
    exact ⟨by decide, by decide, List.all_eq_true.mp (by decide),
      other (by decide) (by decide) (by decide)⟩

theorem token_double (x : Float) : Token (double x) "DOUBLE" := by
  rw [double_eq]
  cases found : exceptional x.toModel.unpack with
  | none => exact token_text layout x
  | some text => exact (token_exceptional found).2

theorem double_injective : Function.Injective double := by
  intro x y same
  rw [double_eq, double_eq] at same
  cases left : exceptional x.toModel.unpack <;> cases right : exceptional y.toModel.unpack <;>
    rw [left, right] at same
  case none.none => exact layout.text_injective same
  case none.some =>
    exact absurd same (ne_word_of_number (number_text layout x).1 (token_exceptional right).1)
  case some.none =>
    exact absurd same.symm (ne_word_of_number (number_text layout y).1 (token_exceptional left).1)
  case some.some =>
    cases same
    exact unpack_injective (exceptional_injective left right)

end StackCall.Literal
