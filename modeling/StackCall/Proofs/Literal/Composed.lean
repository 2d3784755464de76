import StackCall.Proofs.Literal.Token

set_option autoImplicit false

namespace StackCall.Literal

def isMark (c : Char) : Bool := c ∈ [' ', '[', ']', '\x7b', '\x7d']

inductive Composed : List Char → Prop
  | empty : Composed []
  | token {text : List Char} {type : String} (token : Token text type) : Composed text
  | string (text : String) : Composed (string text)
  | mark {c : Char} (mark : isMark c = true) : Composed [c]
  | append {front back : List Char} (first : Composed front) (rest : Composed back) :
      Composed (front ++ back)

theorem Composed.spaced {front back : List Char} (first : Composed front) (rest : Composed back) :
    Composed (front ++ ' ' :: back) := by
  have gap : Composed [' '] := .mark rfl
  exact first.append (gap.append rest)

theorem Composed.bracketed {opening closing : Char} {inside : List Char}
    (opens : isMark opening = true) (closes : isMark closing = true) (elements : Composed inside) :
    Composed (opening :: ' ' :: inside ++ [closing]) :=
  .append (.append (.mark opens) (Composed.spaced .empty elements)) (.mark closes)

mutual
theorem chars_composed (value : Value) : Composed (chars value) := by
  match value with
  | .null => exact .token token_null
  | .long n => exact .token (token_integer n.toInt)
  | .double x => exact .token (token_double x)
  | .bool b => exact .token (token_bool b)
  | .string text => exact .string text
  | .list items => exact .bracketed rfl rfl (item_chars_composed items)
  | .map entries => exact .bracketed rfl rfl (entry_chars_composed entries)
theorem item_chars_composed (items : List Value) : Composed (itemChars items) := by
  match items with
  | [] => exact .empty
  | item :: rest => exact (chars_composed item).spaced (item_chars_composed rest)
theorem entry_chars_composed {bound : Option String} (entries : Entries Value bound) :
    Composed (entryChars entries) := by
  match entries with
  | .nil => exact .empty
  | .cons key _ value rest =>
      have entry := (Composed.string key).spaced
        ((chars_composed value).spaced (entry_chars_composed rest))
      rw [entryChars]
      simpa only [List.append_assoc, List.cons_append] using entry
end

end StackCall.Literal
