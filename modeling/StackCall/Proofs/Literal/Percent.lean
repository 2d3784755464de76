import StackCall.Proofs.Literal.Composed
import StackCall.Proofs.Literal.Quoting

set_option autoImplicit false

namespace StackCall.Literal

inductive PercentCoded : List Char → Prop
  | empty : PercentCoded []
  | plain {c : Char} {rest : List Char} (plain : c ≠ '%') (coded : PercentCoded rest) :
      PercentCoded (c :: rest)
  | byte {high low : Char} {rest : List Char} (first : (Text.Hex.digit? high).isSome = true)
      (second : (Text.Hex.digit? low).isSome = true) (coded : PercentCoded rest) :
      PercentCoded ('%' :: high :: low :: rest)

theorem PercentCoded.append {front back : List Char} (first : PercentCoded front)
    (rest : PercentCoded back) : PercentCoded (front ++ back) := by
  induction first with
  | empty => exact rest
  | plain other _ ih => exact .plain other ih
  | byte high low _ ih => exact .byte high low ih

theorem percent_coded_of_absent {text : List Char} (absent : '%' ∉ text) : PercentCoded text := by
  induction text with
  | nil => exact .empty
  | cons c rest ih =>
      rw [List.mem_cons, not_or] at absent
      exact .plain (Ne.symm absent.1) (ih absent.2)

theorem digit?_upper : ∀ n : Fin 16, (Text.Hex.digit? (Text.Hex.upper n)).isSome = true := by
  decide

theorem byte_text_coded {byte : Nat} (small : byte < 256) : PercentCoded (byteText byte) :=
  .byte (digit?_upper ⟨byte / 16, by omega⟩) (digit?_upper ⟨byte % 16, by omega⟩) .empty

theorem character_coded (c : Char) : PercentCoded (character c) := by
  cases escaped : isEscaped c with
  | false =>
      have plain : c ≠ '%' := by
        rintro rfl
        cases escaped
      rw [character_plain escaped]
      exact .plain plain .empty
  | true =>
      have small := escaped_small escaped
      have last : PercentCoded (byteText c.toNat) := byte_text_coded (by omega)
      rw [character_escaped escaped, byteForm]
      split
      case isTrue => exact last
      case isFalse => exact (byte_text_coded (by decide)).append last

theorem string_coded (text : String) : PercentCoded (string text) := by
  have inside : PercentCoded (text.toList.flatMap character) := by
    induction text.toList with
    | nil => exact .empty
    | cons c rest ih => exact (character_coded c).append ih
  exact (PercentCoded.plain (by decide) inside).append (.plain (by decide) .empty)

theorem Composed.coded {text : List Char} (composed : Composed text) : PercentCoded text := by
  induction composed with
  | empty => exact .empty
  | token token =>
      exact percent_coded_of_absent fun member => absurd (token.plain '%' member) (by decide)
  | string text => exact string_coded text
  | mark mark =>
      refine .plain ?_ .empty
      rintro rfl
      cases mark
  | append _ _ first rest => exact first.append rest

-- Neither character of the mark is a digit, so the mark overlaps no byte.
theorem PercentCoded.no_end {text : List Char} (coded : PercentCoded text) :
    ¬ "%>".toList <:+: text := by
  have digit {c d : Char} (digit : (Text.Hex.digit? c).isSome = true)
      (other : (Text.Hex.digit? d).isSome = false) : d ≠ c := by
    rintro rfl
    rw [digit] at other
    cases other
  have mark : "%>".toList = ['%', '>'] := rfl
  rw [mark]
  induction coded with
  | empty => simp
  | plain other _ ih => simp [List.infix_cons_iff, Ne.symm other, ih]
  | @byte high low _ first second _ ih =>
      have ended : '>' ≠ high := digit first rfl
      have outside : '%' ≠ high ∧ '%' ≠ low := ⟨digit first rfl, digit second rfl⟩
      simp [List.infix_cons_iff, ended, outside, ih]

theorem chars_no_end (value : Value) : ¬ "%>".toList <:+: chars value :=
  (chars_composed value).coded.no_end

end StackCall.Literal
