import StackCall.Proofs.Literal.Composed
import StackCall.Proofs.Literal.Quoting

set_option autoImplicit false

namespace StackCall.Literal

def Printable (text : List Char) : Prop := ∀ c ∈ text, isControl c = false

theorem printable_append {front back : List Char} :
    Printable (front ++ back) ↔ Printable front ∧ Printable back :=
  List.forall_mem_append

theorem printable_cons {c : Char} {rest : List Char} :
    Printable (c :: rest) ↔ isControl c = false ∧ Printable rest :=
  List.forall_mem_cons

theorem newline_not_mem {text : List Char} (printable : Printable text) : '\n' ∉ text := by
  intro member
  exact absurd (printable '\n' member) (by decide)

theorem control_not_in_token : ∀ n : Fin 160,
    isControl (Char.ofNat n) = true → inToken (Char.ofNat n) = false := by
  decide +kernel

theorem Token.printable {text : List Char} {type : String} (token : Token text type) :
    Printable text := by
  intro c member
  cases control : isControl c with
  | false => rfl
  | true =>
      have escaped : isEscaped c = true := by rw [isEscaped, control, Bool.or_true]
      have outside := control_not_in_token ⟨c.toNat, escaped_small escaped⟩
      rw [Char.ofNat_toNat] at outside
      rw [← outside control, token.plain c member]

theorem byte_form_printable : ∀ n : Fin 160,
    (byteForm (Char.ofNat n)).all (fun c => !isControl c) = true := by
  decide +kernel

theorem character_printable (c : Char) : Printable (character c) := by
  cases escaped : isEscaped c with
  | false =>
      rw [character_plain escaped]
      rw [isEscaped, Bool.or_eq_false_iff] at escaped
      exact printable_cons.mpr ⟨escaped.2, List.forall_mem_nil _⟩
  | true =>
      have form := byte_form_printable ⟨c.toNat, escaped_small escaped⟩
      rw [Char.ofNat_toNat, List.all_eq_true] at form
      rw [character_escaped escaped]
      intro other member
      exact Bool.not_eq_true' _ |>.mp (form other member)

theorem string_printable (text : String) : Printable (string text) := by
  have quote : Printable ['\''] := printable_cons.mpr ⟨rfl, List.forall_mem_nil _⟩
  have inside : Printable (text.toList.flatMap character) := by
    intro c member
    obtain ⟨d, -, written⟩ := List.mem_flatMap.mp member
    exact character_printable d c written
  exact printable_append.mpr ⟨printable_cons.mpr ⟨rfl, inside⟩, quote⟩

theorem mark_printable {c : Char} (mark : isMark c = true) : isControl c = false := by
  simp only [isMark, decide_eq_true_iff, List.mem_cons, List.not_mem_nil, or_false] at mark
  rcases mark with rfl | rfl | rfl | rfl | rfl <;> rfl

theorem Composed.printable {text : List Char} (composed : Composed text) : Printable text := by
  induction composed with
  | empty => exact List.forall_mem_nil _
  | token token => exact token.printable
  | string text => exact string_printable text
  | mark mark => exact printable_cons.mpr ⟨mark_printable mark, List.forall_mem_nil _⟩
  | append _ _ first rest => exact printable_append.mpr ⟨first, rest⟩

theorem chars_printable (value : Value) : Printable (chars value) :=
  (chars_composed value).printable

theorem literal_to_list (value : Value) : value.literal.toList = chars value :=
  String.toList_ofList

theorem literal_printable (value : Value) : Printable value.literal.toList := by
  rw [literal_to_list]
  exact chars_printable value

theorem fixed_printable {text : String} (fixed : text.toList.all (fun c => !isControl c) = true) :
    Printable text.toList := by
  intro c member
  exact Bool.not_eq_true' _ |>.mp (List.all_eq_true.mp fixed c member)

theorem append_printable {front back : String} (first : Printable front.toList)
    (rest : Printable back.toList) : Printable (front ++ back).toList := by
  rw [String.toList_append]
  exact printable_append.mpr ⟨first, rest⟩

end StackCall.Literal
