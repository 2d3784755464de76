import StackCall.Proofs.Literal.Quoting
import StackCall.Proofs.Literal.Token

set_option autoImplicit false

namespace StackCall.Literal

def literalType : List Char → String
  | '\'' :: _ => "STRING"
  | '[' :: _ => "LIST"
  | '\x7b' :: _ => "MAP"
  | text => tokenType (upTo ' ' text)

theorem Token.append_ne {text : List Char} {type : String} {mark : Char} (token : Token text type)
    (outside : inToken mark = false) (rest more : List Char) : text ++ rest ≠ mark :: more := by
  obtain ⟨first, tail, rfl⟩ := List.exists_cons_of_ne_nil token.nonempty
  intro same
  have inside := token.plain first List.mem_cons_self
  rw [(List.cons.inj same).1, outside] at inside
  cases inside

theorem Token.literal_type_eq {text rest : List Char} {type : String} (token : Token text type)
    (delimited : Delimited rest) : literalType (text ++ rest) = type := by
  unfold literalType
  split
  case h_1 quote => exact absurd quote (token.append_ne (by decide) _ _)
  case h_2 bracket => exact absurd bracket (token.append_ne (by decide) _ _)
  case h_3 brace => exact absurd brace (token.append_ne (by decide) _ _)
  case h_4 => rw [up_to_space token.plain delimited, token.type]

theorem literal_type_chars (value : Value) {rest : List Char} (delimited : Delimited rest) :
    literalType (chars value ++ rest) = value.typeName := by
  cases value with
  | null => exact token_null.literal_type_eq delimited
  | long n => exact (token_integer n.toInt).literal_type_eq delimited
  | double x => exact (token_double x).literal_type_eq delimited
  | bool b => exact (token_bool b).literal_type_eq delimited
  | string text => rfl
  | list items => rfl
  | map entries => rfl

-- What closes a list does not begin a literal.
theorem chars_append_ne (value : Value) (rest more : List Char) :
    chars value ++ rest ≠ ']' :: more := by
  cases value with
  | null => exact token_null.append_ne (by decide) rest more
  | long n => exact (token_integer n.toInt).append_ne (by decide) rest more
  | double x => exact (token_double x).append_ne (by decide) rest more
  | bool b => exact (token_bool b).append_ne (by decide) rest more
  | string text | list items | map entries =>
      intro same
      exact absurd (List.cons.inj same).1 (by decide)

theorem bool_injective {b c : Bool} (same : chars (.bool b) = chars (.bool c)) : b = c := by
  cases b <;> cases c <;> first | rfl | exact absurd same (by decide)

theorem delimited_space (rest : List Char) : Delimited (' ' :: rest) := .inr ⟨rest, rfl⟩

inductive Alike : Value → Value → Prop
  | null : Alike .null .null
  | long (n m : Int64) : Alike (.long n) (.long m)
  | double (x y : Float) : Alike (.double x) (.double y)
  | bool (b c : Bool) : Alike (.bool b) (.bool c)
  | string (s t : String) : Alike (.string s) (.string t)
  | list (as bs : List Value) : Alike (.list as) (.list bs)
  | map (as bs : Entries Value none) : Alike (.map as) (.map bs)

theorem alike_of_type_name {a b : Value} (types : a.typeName = b.typeName) : Alike a b := by
  cases a <;> cases b <;> first | constructor | simp [Value.typeName] at types

mutual
theorem chars_append_injective (a b : Value) {rest others : List Char}
    (leftEnds : Delimited rest) (rightEnds : Delimited others)
    (same : chars a ++ rest = chars b ++ others) : a = b ∧ rest = others := by
  have types : a.typeName = b.typeName := by
    rw [← literal_type_chars a leftEnds, ← literal_type_chars b rightEnds, same]
  match a, b, alike_of_type_name types with
  | .null, .null, .null => exact ⟨rfl, List.append_cancel_left same⟩
  | .long n, .long m, .long _ _ =>
      obtain ⟨text, follow⟩ :=
        (token_integer n.toInt).append_injective (token_integer m.toInt) leftEnds rightEnds same
      exact ⟨congrArg Value.long (Int64.toInt_inj.mp (integer_text_injective text)), follow⟩
  | .double x, .double y, .double _ _ =>
      obtain ⟨text, follow⟩ :=
        (token_double x).append_injective (token_double y) leftEnds rightEnds same
      exact ⟨congrArg Value.double (double_injective text), follow⟩
  | .bool b, .bool c, .bool _ _ =>
      obtain ⟨text, follow⟩ :=
        (token_bool b).append_injective (token_bool c) leftEnds rightEnds same
      exact ⟨congrArg Value.bool (bool_injective text), follow⟩
  | .string s, .string t, .string _ _ =>
      obtain ⟨text, follow⟩ := string_append_injective same
      exact ⟨congrArg Value.string text, follow⟩
  | .list as, .list bs, .list _ _ =>
      rw [chars, chars, List.append_assoc, List.append_assoc] at same
      have inside := (List.cons.inj (List.cons.inj same).2).2
      obtain ⟨items, follow⟩ := item_chars_append_injective as bs inside
      exact ⟨congrArg Value.list items, follow⟩
  | .map as, .map bs, .map _ _ =>
      rw [chars, chars, List.append_assoc, List.append_assoc] at same
      have inside := (List.cons.inj (List.cons.inj same).2).2
      obtain ⟨entries, follow⟩ := entry_chars_append_injective as bs inside
      exact ⟨congrArg Value.map entries, follow⟩
theorem item_chars_append_injective (as bs : List Value) {rest others : List Char}
    (same : itemChars as ++ ']' :: rest = itemChars bs ++ ']' :: others) :
    as = bs ∧ rest = others := by
  match as, bs with
  | [], [] => exact ⟨rfl, (List.cons.inj same).2⟩
  | [], b :: bs =>
      rw [itemChars, itemChars, List.append_assoc] at same
      exact absurd same.symm (chars_append_ne b _ _)
  | a :: as, [] =>
      rw [itemChars, itemChars, List.append_assoc] at same
      exact absurd same (chars_append_ne a _ _)
  | a :: as, b :: bs =>
      rw [itemChars, itemChars, List.append_assoc, List.append_assoc] at same
      obtain ⟨item, following⟩ :=
        chars_append_injective a b (delimited_space _) (delimited_space _) same
      obtain ⟨items, follow⟩ := item_chars_append_injective as bs (List.cons.inj following).2
      exact ⟨by rw [item, items], follow⟩
theorem entry_chars_append_injective {bound : Option String} (as bs : Entries Value bound)
    {rest others : List Char}
    (same : entryChars as ++ '\x7d' :: rest = entryChars bs ++ '\x7d' :: others) :
    as = bs ∧ rest = others := by
  match as, bs with
  | .nil, .nil => exact ⟨rfl, (List.cons.inj same).2⟩
  | .nil, .cons .. => exact absurd (List.cons.inj same).1 (by decide)
  | .cons .., .nil => exact absurd (List.cons.inj same).1 (by decide)
  | .cons key above a as, .cons name nameAbove b bs =>
      rw [entryChars, entryChars] at same
      simp only [List.append_assoc, List.cons_append] at same
      obtain ⟨sameKey, following⟩ := string_append_injective same
      subst sameKey
      obtain ⟨value, further⟩ := chars_append_injective a b (delimited_space _) (delimited_space _)
        (List.cons.inj following).2
      obtain ⟨entries, follow⟩ := entry_chars_append_injective as bs (List.cons.inj further).2
      exact ⟨by rw [value, entries], follow⟩
end

end StackCall.Literal

namespace StackCall

def EndsLiteral (rest : String) : Prop := rest = "" ∨ ∃ more, rest = " " ++ more

theorem EndsLiteral.delimited {rest : String} (ends : EndsLiteral rest) :
    Literal.Delimited rest.toList := by
  rcases ends with rfl | ⟨more, rfl⟩
  · exact .inl rfl
  · exact .inr ⟨more.toList, String.toList_append⟩

theorem literal_append_injective {a b : Value} {rest others : String} (leftEnds : EndsLiteral rest)
    (rightEnds : EndsLiteral others) (same : a.literal ++ rest = b.literal ++ others) :
    rest = others ∧ a = b := by
  have texts := congrArg String.toList same
  rw [String.toList_append, String.toList_append, Value.literal, Value.literal,
    String.toList_ofList, String.toList_ofList] at texts
  obtain ⟨value, follow⟩ :=
    Literal.chars_append_injective a b leftEnds.delimited rightEnds.delimited texts
  exact ⟨String.toList_inj.mp follow, value⟩

theorem literal_unambiguous :
    (∀ (a b : Value) (rest others : String), EndsLiteral rest → EndsLiteral others →
      a.literal ++ rest = b.literal ++ others → rest = others ∧ a = b) ∧
    Function.Injective Value.literal := by
  refine ⟨fun a b rest others => literal_append_injective, fun a b same => ?_⟩
  exact (literal_append_injective (.inl rfl) (.inl rfl) (congrArg (· ++ "") same)).2

def ascendingPair : Dict Value := Dict.ofList [("it's", .long 1), ("x", .list [.null, .bool true])]

def descendingPair : Dict Value := Dict.ofList [("x", .list [.null, .bool true]), ("it's", .long 1)]

theorem literal_unambiguous_order :
    EndsLiteral " next" ∧
      (Value.map ascendingPair).literal ++ " next" =
        "\x7b 'it%27s' 1 'x' [ NULL true ] \x7d next" ∧
      (Value.map ascendingPair).literal ++ " next" =
        (Value.map descendingPair).literal ++ " next" ∧
      (" next" = " next" ∧ Value.map ascendingPair = Value.map descendingPair) := by
  have ends : EndsLiteral " next" := .inr ⟨"next", rfl⟩
  have text : (Value.map ascendingPair).literal ++ " next" =
      (Value.map descendingPair).literal ++ " next" := by
    decide
  exact ⟨ends, by decide, text, literal_unambiguous.1 _ _ _ _ ends ends text⟩

end StackCall
