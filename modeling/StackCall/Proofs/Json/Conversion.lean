import StackCall.Proofs.Json.Reading

set_option autoImplicit false

namespace StackCall

mutual
-- What JSON keeps of a value: a double that is no finite number is null there.
def Value.finitePart : Value → Value
  | .double x => if x.isFinite then .double x else .null
  | .list items => .list (itemsFinitePart items)
  | .map entries => .map (entriesFinitePart entries)
  | value => value
def itemsFinitePart : List Value → List Value
  | [] => []
  | item :: rest => item.finitePart :: itemsFinitePart rest
def entriesFinitePart {bound : Option String} : Entries Value bound → Entries Value bound
  | .nil => .nil
  | .cons key above value rest => .cons key above value.finitePart (entriesFinitePart rest)
end

mutual
-- No doubles at any depth, and lists and maps nested at most that deep.
def Value.isPlain (depth : ℕ) : Value → Bool
  | .double _ => false
  | .list items => 0 < depth && itemsPlain (depth - 1) items
  | .map entries => 0 < depth && entriesPlain (depth - 1) entries
  | _ => true
def itemsPlain (depth : ℕ) : List Value → Bool
  | [] => true
  | item :: rest => item.isPlain depth && itemsPlain depth rest
def entriesPlain (depth : ℕ) {bound : Option String} : Entries Value bound → Bool
  | .nil => true
  | .cons _ _ value rest => value.isPlain depth && entriesPlain depth rest
end

theorem of_int_to_int (n : Int64) : Value.ofInt n.toInt = .long n := by
  have fits : Int64.minValue.toInt ≤ n.toInt ∧ n.toInt ≤ Int64.maxValue.toInt :=
    ⟨n.minValue_le_toInt, n.toInt_le⟩
  rw [Value.ofInt, Value.ofInt?, dif_pos fits, Option.getD_some, Int64.ofIntLE_toInt]

mutual
theorem to_value_to_json (value : Value) : value.toJson.toValue = value.finitePart := by
  match value with
  | .null => rfl
  | .long n => exact of_int_to_int n
  | .double x =>
      rw [Value.toJson, Value.finitePart]
      split <;> rfl
  | .bool b => rfl
  | .string text => rfl
  | .list items => rw [Value.toJson, Json.toValue, items_to_value_to_json items, Value.finitePart]
  | .map entries =>
      rw [Value.toJson, Json.toValue, entries_to_value_to_json entries, Value.finitePart]
theorem items_to_value_to_json (items : List Value) :
    itemsToValue (itemsToJson items) = itemsFinitePart items := by
  match items with
  | [] => rfl
  | item :: rest =>
      rw [itemsToJson, itemsToValue, to_value_to_json item, items_to_value_to_json rest,
        itemsFinitePart]
theorem entries_to_value_to_json {bound : Option String} (entries : Entries Value bound) :
    membersToValue (entriesToJson entries) = entriesFinitePart entries := by
  match entries with
  | .nil => rfl
  | .cons key above value rest =>
      rw [entriesToJson, membersToValue, to_value_to_json value, entries_to_value_to_json rest,
        entriesFinitePart]
end

mutual
theorem finite_part_plain (depth : ℕ) (value : Value) (plain : value.isPlain depth = true) :
    value.finitePart = value := by
  match value with
  | .null => rfl
  | .long n => rfl
  | .double x => cases plain
  | .bool b => rfl
  | .string text => rfl
  | .list items =>
      have inside := (Bool.and_eq_true_iff.mp plain).2
      rw [Value.finitePart, items_finite_part_plain (depth - 1) items inside]
  | .map entries =>
      have inside := (Bool.and_eq_true_iff.mp plain).2
      rw [Value.finitePart, entries_finite_part_plain (depth - 1) entries inside]
theorem items_finite_part_plain (depth : ℕ) (items : List Value)
    (plain : itemsPlain depth items = true) : itemsFinitePart items = items := by
  match items with
  | [] => rfl
  | item :: rest =>
      obtain ⟨first, others⟩ := Bool.and_eq_true_iff.mp plain
      rw [itemsFinitePart, finite_part_plain depth item first,
        items_finite_part_plain depth rest others]
theorem entries_finite_part_plain (depth : ℕ) {bound : Option String}
    (entries : Entries Value bound) (plain : entriesPlain depth entries = true) :
    entriesFinitePart entries = entries := by
  match entries with
  | .nil => rfl
  | .cons key above value rest =>
      obtain ⟨first, others⟩ := Bool.and_eq_true_iff.mp plain
      rw [entriesFinitePart, finite_part_plain depth value first,
        entries_finite_part_plain depth rest others]
end

mutual
theorem readable_to_json (depth : ℕ) (value : Value) (plain : value.isPlain depth = true) :
    value.toJson.Readable depth := by
  match value with
  | .null => trivial
  | .long n =>
      exact ⟨n.le_toInt, n.toInt_lt.trans (by decide)⟩
  | .double x => cases plain
  | .bool b => trivial
  | .string text => trivial
  | .list items =>
      obtain ⟨deep, inside⟩ := Bool.and_eq_true_iff.mp plain
      exact ⟨of_decide_eq_true deep, items_readable_to_json (depth - 1) items inside⟩
  | .map entries =>
      obtain ⟨deep, inside⟩ := Bool.and_eq_true_iff.mp plain
      exact ⟨of_decide_eq_true deep, members_readable_to_json (depth - 1) entries inside⟩
theorem items_readable_to_json (depth : ℕ) (items : List Value)
    (plain : itemsPlain depth items = true) : Json.ItemsReadable depth (itemsToJson items) := by
  match items with
  | [] => trivial
  | item :: rest =>
      obtain ⟨first, others⟩ := Bool.and_eq_true_iff.mp plain
      exact ⟨readable_to_json depth item first, items_readable_to_json depth rest others⟩
theorem members_readable_to_json (depth : ℕ) {bound : Option String}
    (entries : Entries Value bound) (plain : entriesPlain depth entries = true) :
    Json.MembersReadable depth (entriesToJson entries) := by
  match entries with
  | .nil => trivial
  | .cons key above value rest =>
      obtain ⟨first, others⟩ := Bool.and_eq_true_iff.mp plain
      exact ⟨readable_to_json depth value first, members_readable_to_json depth rest others⟩
end

theorem of_operand_text {spacing : Json.Spacing} (clear : spacing.Clear) {value : Value}
    (plain : value.isPlain 127 = true) {after : List Char} (blank : Json.Blank after) :
    Value.ofOperand (value.toJson.text spacing ++ String.ofList after) = value := by
  have readable := readable_to_json 127 value plain
  rw [Value.ofOperand, Json.parse?_text clear readable blank]
  exact (to_value_to_json value).trans (finite_part_plain 127 value plain)

end StackCall
