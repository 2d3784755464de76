import StackCall.Proofs.Dict
import StackCall.Proofs.Json.Scalar

set_option autoImplicit false

namespace StackCall.Json

def Blank (text : List Char) : Prop := ∀ c ∈ text, isBlank c = true

structure Spacing.Clear (spacing : Spacing) : Prop where
  afterColon : Blank spacing.afterColon
  beforeItem : ∀ depth, Blank (spacing.beforeItem depth)

theorem blank_nil : Blank [] := fun _ member => nomatch member

theorem compact_clear : compact.Clear := ⟨blank_nil, fun _ => blank_nil⟩

theorem indented_clear : indented.Clear := by
  refine ⟨?_, ?_⟩
  · intro c member
    rw [List.mem_singleton.mp member]
    rfl
  · intro depth c member
    rcases List.mem_cons.mp member with rfl | space
    · rfl
    · rw [List.eq_of_mem_replicate space]
      rfl

def Begins (text : List Char) : Prop := ∃ first tail, text = first :: tail ∧ isEnd first = false

structure Reads (readItem : List Char → Option (Json × List Char)) (json : Json)
    (text : List Char) : Prop where
  begins : Begins text
  back : ∀ blanks rest, Blank blanks → Ended rest →
    readItem (blanks ++ (text ++ rest)) = some (json, rest)

theorem not_blank_of_begin {c : Char} (begins : isEnd c = false) : isBlank c = false := by
  simp only [isEnd, Bool.or_eq_false_iff] at begins
  exact begins.1.1.1

theorem ended_blank {blanks rest : List Char} (blank : Blank blanks) (ended : Ended rest) :
    Ended (blanks ++ rest) := by
  cases blanks with
  | nil => exact ended
  | cons first others =>
      intro c tail text
      rw [← (List.cons.inj text).1, isEnd, blank first List.mem_cons_self]
      rfl

theorem skip_blanks_append {blanks : List Char} (blank : Blank blanks) {c : Char}
    (visible : isBlank c = false) (rest : List Char) :
    skipBlanks (blanks ++ c :: rest) = c :: rest := by
  rw [skipBlanks, List.dropWhile_append_of_pos blank,
    List.dropWhile_cons_of_neg (by simp [visible])]

theorem enclose_begins (spacing : Spacing) (indent : ℕ) (items : List Char) {opening : Char}
    (closing : Char) (begins : isEnd opening = false) :
    Begins (enclose spacing indent opening closing items) := by
  rw [enclose]
  split <;> exact ⟨opening, _, rfl, begins⟩

theorem begins_visible {text : List Char} (begins : Begins text) {blanks : List Char}
    (blank : Blank blanks) (rest : List Char) :
    ∃ first tail, skipBlanks (blanks ++ (text ++ rest)) = first :: tail ∧ isEnd first = false := by
  obtain ⟨first, tail, rfl, begins⟩ := begins
  exact ⟨first, tail ++ rest, skip_blanks_append blank (not_blank_of_begin begins) _, begins⟩

theorem ended_cons {c : Char} (ends : isEnd c = true) (rest : List Char) : Ended (c :: rest) := by
  intro first tail text
  rw [← (List.cons.inj text).1]
  exact ends

section

variable {readItem : List Char → Option (Json × List Char)} {count : ℕ}
  {input after more : List Char}

theorem read_items_last {item : Json} {rest : List Char}
    (first : readItem input = some (item, after)) (closes : skipBlanks after = ']' :: rest) :
    readItems readItem (count + 1) input = some ([item], rest) := by
  simp only [readItems, first, closes, Option.bind_eq_bind, Option.bind_some]
  rfl

theorem read_items_next {item : Json} {items : List Json} {rest : List Char}
    (first : readItem input = some (item, ',' :: more))
    (later : readItems readItem count more = some (items, rest)) :
    readItems readItem (count + 1) input = some (item :: items, rest) := by
  have follows : skipBlanks (',' :: more) = ',' :: more := rfl
  simp only [readItems, first, follows, later, Option.bind_eq_bind, Option.bind_some]
  rfl

theorem read_members_last {member : String × Json} {rest : List Char}
    (first : readMember readItem input = some (member, after))
    (closes : skipBlanks after = '\x7d' :: rest) :
    readMembers readItem (count + 1) input = some ([member], rest) := by
  simp only [readMembers, first, closes, Option.bind_eq_bind, Option.bind_some]
  rfl

theorem read_members_next {member : String × Json} {members : List (String × Json)}
    {rest : List Char} (first : readMember readItem input = some (member, ',' :: more))
    (later : readMembers readItem count more = some (members, rest)) :
    readMembers readItem (count + 1) input = some (member :: members, rest) := by
  have follows : skipBlanks (',' :: more) = ',' :: more := rfl
  simp only [readMembers, first, follows, later, Option.bind_eq_bind, Option.bind_some]
  rfl

end

theorem length_le_write_items (spacing : Spacing) (indent : ℕ) (items : List Json) :
    items.length ≤ (writeItems spacing indent [','] items).length := by
  induction items with
  | nil => exact Nat.zero_le _
  | cons item items ih =>
      simp only [writeItems, List.length_append, List.length_cons, List.length_nil]
      omega

theorem length_le_write_members (spacing : Spacing) (indent : ℕ) {bound : Option String}
    (members : Entries Json bound) :
    members.toList.length ≤ (writeMembers spacing indent [','] members).length := by
  induction members with
  | nil => exact Nat.zero_le _
  | cons key above value rest ih =>
      simp only [writeMembers, Entries.toList, List.length_append, List.length_cons,
        List.length_nil]
      omega

section

variable {spacing : Spacing} (clear : spacing.Clear)
  {readItem : List Char → Option (Json × List Char)} {indent : ℕ} {closing : List Char}
  (closingBlank : Blank closing) (rest : List Char)

include clear closingBlank

-- The items are read one by one, so the induction goes on with the next item as the first.
theorem read_items_write (item : Json) (others : List Json)
    (reads : ∀ member ∈ item :: others, Reads readItem member (member.write spacing indent))
    (count : ℕ) :
    readItems readItem (others.length + count + 1) (spacing.beforeItem indent ++
        (item.write spacing indent ++
          (writeItems spacing indent [','] others ++ (closing ++ ']' :: rest)))) =
      some (item :: others, rest) := by
  have first := (reads item List.mem_cons_self).back
  induction others generalizing item with
  | nil =>
      have ended : Ended (closing ++ ']' :: rest) := ended_blank closingBlank (ended_cons rfl rest)
      exact read_items_last (first _ _ (clear.beforeItem indent) ended)
        (skip_blanks_append closingBlank rfl rest)
  | cons next others ih =>
      have readsOthers := fun member found => reads member (List.mem_cons_of_mem item found)
      have later := ih next readsOthers (readsOthers next List.mem_cons_self).back
      rw [writeItems]
      simp only [List.append_assoc, List.cons_append, List.nil_append, List.length_cons]
      rw [Nat.add_right_comm others.length 1 count]
      exact read_items_next (first _ _ (clear.beforeItem indent) (ended_cons rfl _)) later

omit closingBlank in
theorem read_member_write {key : String} {value : Json}
    (reads : Reads readItem value (value.write spacing indent)) (ended : Ended rest) :
    readMember readItem (spacing.beforeItem indent ++ (quote key ++
        ':' :: (spacing.afterColon ++ (value.write spacing indent ++ rest)))) =
      some ((key, value), rest) := by
  have visible : skipBlanks (spacing.beforeItem indent ++ (quote key ++
        ':' :: (spacing.afterColon ++ (value.write spacing indent ++ rest)))) =
      '"' :: (key.toList.flatMap escape ++
        '"' :: ':' :: (spacing.afterColon ++ (value.write spacing indent ++ rest))) := by
    rw [quote, List.append_assoc, List.cons_append]
    exact skip_blanks_append (clear.beforeItem indent) rfl _
  have colon (more : List Char) : skipBlanks (':' :: more) = ':' :: more := rfl
  simp only [readMember, visible, read_string_quoted, colon,
    reads.back _ _ clear.afterColon ended, Option.bind_eq_bind, Option.bind_some,
    String.ofList_toList]
  rfl

theorem read_members_write {bound : Option String} {key : String} (above : Above bound key)
    (value : Json) (others : Entries Json (some key))
    (reads : ∀ member ∈ (Entries.cons key above value others).toList,
      Reads readItem member.2 (member.2.write spacing indent))
    (count : ℕ) :
    readMembers readItem (others.toList.length + count + 1) (spacing.beforeItem indent ++
        (quote key ++ ':' :: (spacing.afterColon ++ (value.write spacing indent ++
          (writeMembers spacing indent [','] others ++ (closing ++ '\x7d' :: rest)))))) =
      some ((key, value) :: others.toList, rest) := by
  have first := reads (key, value) List.mem_cons_self
  cases others with
  | nil =>
      have ended : Ended (closing ++ '\x7d' :: rest) :=
        ended_blank closingBlank (ended_cons rfl rest)
      exact read_members_last (read_member_write clear _ first ended)
        (skip_blanks_append closingBlank rfl rest)
  | cons next after held others =>
      have readsOthers := fun member found => reads member (List.mem_cons_of_mem (key, value) found)
      have later := read_members_write after held others readsOthers count
      rw [writeMembers]
      simp only [List.append_assoc, List.cons_append, List.nil_append, Entries.toList,
        List.length_cons]
      rw [Nat.add_right_comm others.toList.length 1 count]
      exact read_members_next (read_member_write clear _ first (ended_cons rfl _)) later

end

theorem enclose_cons (spacing : Spacing) (indent : ℕ) (opening closing : Char) {items : List Char}
    (written : items ≠ []) (rest : List Char) :
    enclose spacing indent opening closing items ++ rest =
      opening :: (items ++ (spacing.beforeItem indent ++ closing :: rest)) := by
  rw [enclose, if_neg (by simpa using written)]
  simp only [List.cons_append, List.append_assoc, List.nil_append]

section

variable {readItem : List Char → Option (Json × List Char)} {input tail : List Char} {first : Char}

theorem read_array_visible (visible : skipBlanks input = first :: tail) (begins : first ≠ ']') :
    readArray readItem input =
      (readItems readItem input.length input).map fun (items, rest) => (.array items, rest) := by
  rw [readArray, visible]
  split
  case h_1 closes => exact absurd (List.cons.inj closes).1 begins
  case h_2 => rfl

theorem read_object_visible (visible : skipBlanks input = first :: tail) (begins : first ≠ '\x7d') :
    readObject readItem input = (readMembers readItem input.length input).map fun (members, rest) =>
      (.object (Dict.ofList members), rest) := by
  rw [readObject, visible]
  split
  case h_1 closes => exact absurd (List.cons.inj closes).1 begins
  case h_2 => rfl

end

section

variable {spacing : Spacing} (clear : spacing.Clear)
  {readItem : List Char → Option (Json × List Char)} (indent : ℕ) (rest : List Char)

include clear

theorem read_array_write (items : List Json)
    (reads : ∀ item ∈ items, Reads readItem item (item.write spacing (indent + 1))) :
    ∃ body, enclose spacing indent '[' ']' (writeItems spacing (indent + 1) [] items) ++ rest =
        '[' :: body ∧ readArray readItem body = some (.array items, rest) := by
  cases items with
  | nil => exact ⟨']' :: rest, rfl, rfl⟩
  | cons item others =>
      have begins := (reads item List.mem_cons_self).begins
      have written : writeItems spacing (indent + 1) [] (item :: others) ≠ [] := by
        obtain ⟨first, tail, text, -⟩ := begins
        simp [writeItems, text]
      refine ⟨_, enclose_cons spacing indent '[' ']' written rest, ?_⟩
      simp only [writeItems, List.append_assoc, List.nil_append]
      obtain ⟨first, tail, visible, starts⟩ := begins_visible begins (clear.beforeItem (indent + 1))
        (writeItems spacing (indent + 1) [','] others ++ (spacing.beforeItem indent ++ ']' :: rest))
      have notClosed : first ≠ ']' := by
        rintro rfl
        cases starts
      rw [read_array_visible visible notClosed]
      have read := read_items_write clear (clear.beforeItem indent) rest item others reads
      generalize body : spacing.beforeItem (indent + 1) ++ (item.write spacing (indent + 1) ++
        (writeItems spacing (indent + 1) [','] others ++
          (spacing.beforeItem indent ++ ']' :: rest))) = text at read ⊢
      have enough : others.length < text.length := by
        have least := length_le_write_items spacing (indent + 1) others
        rw [← body]
        simp only [List.length_append, List.length_cons]
        omega
      obtain ⟨count, length⟩ := Nat.exists_eq_add_of_lt enough
      rw [length, read count]
      rfl

theorem read_object_write (members : Dict Json)
    (reads : ∀ member ∈ members.toList,
      Reads readItem member.2 (member.2.write spacing (indent + 1))) :
    ∃ body, enclose spacing indent '\x7b' '\x7d'
        (writeMembers spacing (indent + 1) [] members) ++ rest = '\x7b' :: body ∧
      readObject readItem body = some (.object members, rest) := by
  cases members with
  | nil => exact ⟨'\x7d' :: rest, rfl, rfl⟩
  | cons key above value others =>
      have written : writeMembers spacing (indent + 1) [] (.cons key above value others) ≠ [] := by
        simp [writeMembers, quote]
      refine ⟨_, enclose_cons spacing indent '\x7b' '\x7d' written rest, ?_⟩
      simp only [writeMembers, List.append_assoc, List.cons_append, List.nil_append]
      have begins : Begins (quote key) := ⟨'"', _, rfl, rfl⟩
      obtain ⟨first, tail, visible, starts⟩ := begins_visible begins (clear.beforeItem (indent + 1))
        (':' :: (spacing.afterColon ++ (value.write spacing (indent + 1) ++
          (writeMembers spacing (indent + 1) [','] others ++
            (spacing.beforeItem indent ++ '\x7d' :: rest)))))
      have notClosed : first ≠ '\x7d' := by
        rintro rfl
        cases starts
      rw [read_object_visible visible notClosed]
      have read := read_members_write clear (clear.beforeItem indent) rest above value others reads
      generalize body : spacing.beforeItem (indent + 1) ++ (quote key ++
        ':' :: (spacing.afterColon ++ (value.write spacing (indent + 1) ++
          (writeMembers spacing (indent + 1) [','] others ++
            (spacing.beforeItem indent ++ '\x7d' :: rest))))) = text at read ⊢
      have enough : others.toList.length < text.length := by
        have least := length_le_write_members spacing (indent + 1) others
        rw [← body]
        simp only [List.length_append, List.length_cons]
        omega
      obtain ⟨count, length⟩ := Nat.exists_eq_add_of_lt enough
      have same := Dict.of_list_to_list (.cons key above value others)
      rw [Entries.toList] at same
      rw [length, read count]
      simp only [Option.map_some, same]

end

end StackCall.Json
