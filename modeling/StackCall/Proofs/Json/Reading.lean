import StackCall.Proofs.Json.Container

set_option autoImplicit false

namespace StackCall.Json

mutual
def Readable (depth : ℕ) : Json → Prop
  | .integer n => Whole n
  | .real _ => False
  | .array items => 0 < depth ∧ ItemsReadable (depth - 1) items
  | .object members => 0 < depth ∧ MembersReadable (depth - 1) members
  | _ => True
def ItemsReadable (depth : ℕ) : List Json → Prop
  | [] => True
  | item :: rest => item.Readable depth ∧ ItemsReadable depth rest
def MembersReadable (depth : ℕ) {bound : Option String} : Entries Json bound → Prop
  | .nil => True
  | .cons _ _ value rest => value.Readable depth ∧ MembersReadable depth rest
end

theorem begins_number {c : Char} (number : c = '-' ∨ c.isDigit = true) : isEnd c = false := by
  rcases number with rfl | digit
  · rfl
  · cases ends : isEnd c with
    | false => rfl
    | true =>
        rw [not_digit_of_end ends] at digit
        cases digit

theorem integer_text_first (n : ℤ) :
    ∃ first tail, integerText n = first :: tail ∧ (first = '-' ∨ first.isDigit = true) := by
  rw [integerText]
  split
  case isTrue => exact ⟨_, _, rfl, .inl rfl⟩
  case isFalse =>
    cases digits : Nat.toDigits 10 n.natAbs with
    | nil => exact absurd digits Nat.toDigits_ne_nil
    | cons first tail =>
        exact ⟨first, tail, rfl, .inr (all_digits_to_digits _ first (digits ▸ List.mem_cons_self))⟩

theorem read_value_scalar (depth : ℕ) {blanks : List Char} (blank : Blank blanks) {c : Char}
    (visible : isBlank c = false) (notList : c ≠ '[') (notMap : c ≠ '\x7b') (tail : List Char) :
    readValue depth (blanks ++ c :: tail) = readScalar (c :: tail) := by
  cases depth with
  | zero => rw [readValue, skip_blanks_append blank visible]
  | succ depth =>
      rw [readValue, skip_blanks_append blank visible]
      split
      case h_1 opens => exact absurd (List.cons.inj opens).1 notList
      case h_2 opens => exact absurd (List.cons.inj opens).1 notMap
      case h_3 => rfl

theorem read_scalar_number {c : Char} (number : c = '-' ∨ c.isDigit = true) (tail : List Char) :
    readScalar (c :: tail) = readNumber (c :: tail) := by
  have notLetter (letter : Char) (other : letter ≠ '-' ∧ letter.isDigit = false) : c ≠ letter := by
    rintro rfl
    rcases number with sign | digit
    · exact other.1 sign
    · exact absurd (digit.symm.trans other.2) (by decide)
  rw [readScalar.eq_def]
  split
  case h_1 text => exact absurd (List.cons.inj text).1 (notLetter 'n' (by decide))
  case h_2 text => exact absurd (List.cons.inj text).1 (notLetter 't' (by decide))
  case h_3 text => exact absurd (List.cons.inj text).1 (notLetter 'f' (by decide))
  case h_4 text => exact absurd (List.cons.inj text).1 (notLetter '"' (by decide))
  case h_5 => rfl

theorem read_value_integer_text (depth : ℕ) {blanks : List Char} (blank : Blank blanks) (n : ℤ)
    (rest : List Char) :
    readValue depth (blanks ++ (integerText n ++ rest)) = readNumber (integerText n ++ rest) := by
  obtain ⟨first, tail, text, number⟩ := integer_text_first n
  have begins := begins_number number
  have other (bracket : Char) (notNumber : bracket ≠ '-' ∧ bracket.isDigit = false) :
      first ≠ bracket := by
    rintro rfl
    rcases number with sign | digit
    · exact notNumber.1 sign
    · exact absurd (digit.symm.trans notNumber.2) (by decide)
  rw [text, List.cons_append, read_value_scalar depth blank (not_blank_of_begin begins)
    (other '[' (by decide)) (other '\x7b' (by decide)), read_scalar_number number]

theorem reads_integer (depth : ℕ) {n : ℤ} (whole : Whole n) :
    Reads (readValue depth) (.integer n) (integerText n) := by
  obtain ⟨first, tail, text, number⟩ := integer_text_first n
  refine ⟨⟨first, tail, text, begins_number number⟩, ?_⟩
  intro blanks rest blank ended
  rw [read_value_integer_text depth blank, read_number_integer_text whole ended]

theorem reads_string (depth : ℕ) (text : String) :
    Reads (readValue depth) (.string text) (quote text) := by
  refine ⟨⟨'"', _, rfl, rfl⟩, ?_⟩
  intro blanks rest blank ended
  rw [quote, List.append_assoc, List.cons_append, read_value_scalar depth blank rfl (by decide)
    (by decide), readScalar, List.cons_append, List.nil_append, read_string_quoted]
  simp only [Option.map_some, String.ofList_toList]

theorem reads_word (depth : ℕ) {json : Json} {word : List Char} {c : Char} {tail : List Char}
    (text : word = c :: tail) (letter : c = 'n' ∨ c = 't' ∨ c = 'f')
    (scalar : ∀ rest, readScalar (word ++ rest) = some (json, rest)) :
    Reads (readValue depth) json word := by
  have begins : isEnd c = false := by
    rcases letter with rfl | rfl | rfl <;> rfl
  refine ⟨⟨c, tail, text, begins⟩, ?_⟩
  intro blanks rest blank _
  have read := scalar rest
  rw [text, List.cons_append] at read ⊢
  rw [read_value_scalar depth blank (not_blank_of_begin begins), read]
  · rcases letter with rfl | rfl | rfl <;> decide
  · rcases letter with rfl | rfl | rfl <;> decide

mutual
theorem reads_write {spacing : Spacing} (clear : spacing.Clear) (depth : ℕ) (json : Json)
    (readable : json.Readable depth) (indent : ℕ) :
    Reads (readValue depth) json (json.write spacing indent) := by
  match json with
  | .null =>
      rw [write]
      exact reads_word depth rfl (.inl rfl) fun rest => rfl
  | .bool true =>
      rw [write]
      exact reads_word depth rfl (.inr (.inl rfl)) fun rest => rfl
  | .bool false =>
      rw [write]
      exact reads_word depth rfl (.inr (.inr rfl)) fun rest => rfl
  | .integer n =>
      rw [write]
      exact reads_integer depth readable
  | .real x => exact readable.elim
  | .string text =>
      rw [write]
      exact reads_string depth text
  | .array items =>
      obtain ⟨deep, itemsReadable⟩ := readable
      obtain ⟨depth, rfl⟩ := Nat.exists_eq_succ_of_ne_zero (Nat.ne_of_gt deep)
      refine ⟨by rw [write]; exact enclose_begins spacing indent _ ']' rfl, ?_⟩
      intro blanks rest blank _
      obtain ⟨body, text, read⟩ := read_array_write clear indent rest items
        (reads_items clear depth items itemsReadable (indent + 1))
      rw [write, text, readValue, skip_blanks_append blank rfl]
      exact read
  | .object members =>
      obtain ⟨deep, membersReadable⟩ := readable
      obtain ⟨depth, rfl⟩ := Nat.exists_eq_succ_of_ne_zero (Nat.ne_of_gt deep)
      refine ⟨by rw [write]; exact enclose_begins spacing indent _ '\x7d' rfl, ?_⟩
      intro blanks rest blank _
      obtain ⟨body, text, read⟩ := read_object_write clear indent rest members
        (reads_members clear depth members membersReadable (indent + 1))
      rw [write, text, readValue, skip_blanks_append blank rfl]
      exact read
theorem reads_items {spacing : Spacing} (clear : spacing.Clear) (depth : ℕ) (items : List Json)
    (readable : ItemsReadable depth items) (indent : ℕ) :
    ∀ item ∈ items, Reads (readValue depth) item (item.write spacing indent) := by
  match items with
  | [] => exact List.forall_mem_nil _
  | item :: rest =>
      exact List.forall_mem_cons.mpr ⟨reads_write clear depth item readable.1 indent,
        reads_items clear depth rest readable.2 indent⟩
theorem reads_members {spacing : Spacing} (clear : spacing.Clear) (depth : ℕ)
    {bound : Option String} (members : Entries Json bound)
    (readable : MembersReadable depth members) (indent : ℕ) :
    ∀ member ∈ members.toList,
      Reads (readValue depth) member.2 (member.2.write spacing indent) := by
  match members with
  | .nil => exact List.forall_mem_nil _
  | .cons key _ value rest =>
      exact List.forall_mem_cons.mpr ⟨reads_write clear depth value readable.1 indent,
        reads_members clear depth rest readable.2 indent⟩
end

theorem parse?_text {spacing : Spacing} (clear : spacing.Clear) {json : Json}
    (readable : json.Readable 127) {after : List Char} (blank : Blank after) :
    parse? (json.text spacing ++ String.ofList after) = some json := by
  have ended : Ended after := by
    rw [← List.append_nil after]
    exact ended_blank blank fun _ _ text => nomatch text
  have read := (reads_write clear 127 json readable 0).back [] after blank_nil ended
  have trailing : skipBlanks after = [] := List.dropWhile_eq_nil_iff.mpr blank
  rw [parse?, text, String.toList_append, String.toList_ofList, String.toList_ofList]
  rw [List.nil_append] at read
  simp only [read, trailing, List.isEmpty_nil, if_true]

end StackCall.Json
