import StackCall.Proofs.Dict
import StackCall.Proofs.Json.Conversion

set_option autoImplicit false

namespace StackCall

theorem items_finite_part_eq_map (items : List Value) :
    itemsFinitePart items = items.map Value.finitePart := by
  induction items with
  | nil => rfl
  | cons item rest ih => rw [itemsFinitePart, ih, List.map_cons]

theorem entries_finite_part_eq_map {bound : Option String} (entries : Entries Value bound) :
    entriesFinitePart entries = entries.map Value.finitePart := by
  induction entries with
  | nil => rfl
  | cons key above value rest ih => rw [entriesFinitePart, ih, Entries.map]

namespace Value

inductive Step where
  | item (index : ℕ)
  | entry (name : String)

def part? : Value → Step → Option Value
  | .list items, .item index => items[index]?
  | .map entries, .entry name => entries.get? name
  | _, _ => none

def at? (value : Value) : List Step → Option Value
  | [] => some value
  | step :: rest => (value.part? step).bind fun part => part.at? rest

theorem part?_finite_part (value : Value) (step : Step) :
    value.finitePart.part? step = (value.part? step).map finitePart := by
  cases value with
  | list items =>
      rw [finitePart, items_finite_part_eq_map]
      cases step with
      | item index => exact List.getElem?_map
      | entry name => rfl
  | map entries =>
      rw [finitePart, entries_finite_part_eq_map]
      cases step with
      | item index => rfl
      | entry name => exact entries.get?_map finitePart name
  | double x =>
      rw [finitePart]
      split <;> rfl
  | null | long | bool | string => rfl

theorem at?_finite_part (value : Value) (path : List Step) :
    value.finitePart.at? path = (value.at? path).map finitePart := by
  induction path generalizing value with
  | nil => rfl
  | cons step rest ih =>
      rw [at?, at?, part?_finite_part]
      cases value.part? step with
      | none => rfl
      | some part => exact ih part

end Value

mutual
theorem to_json_finite_part (value : Value) : value.finitePart.toJson = value.toJson := by
  match value with
  | .null => rfl
  | .long n => rfl
  | .double x =>
      cases finite : x.isFinite <;> simp [Value.finitePart, Value.toJson, finite]
  | .bool b => rfl
  | .string text => rfl
  | .list items =>
      rw [Value.finitePart, Value.toJson, Value.toJson, items_to_json_finite_part items]
  | .map entries =>
      rw [Value.finitePart, Value.toJson, Value.toJson, entries_to_json_finite_part entries]
theorem items_to_json_finite_part (items : List Value) :
    itemsToJson (itemsFinitePart items) = itemsToJson items := by
  match items with
  | [] => rfl
  | item :: rest =>
      rw [itemsFinitePart, itemsToJson, itemsToJson, to_json_finite_part item,
        items_to_json_finite_part rest]
theorem entries_to_json_finite_part {bound : Option String} (entries : Entries Value bound) :
    entriesToJson (entriesFinitePart entries) = entriesToJson entries := by
  match entries with
  | .nil => rfl
  | .cons key above value rest =>
      rw [entriesFinitePart, entriesToJson, entriesToJson, to_json_finite_part value,
        entries_to_json_finite_part rest]
end

def Value.AllFinite (value : Value) : Prop :=
  ∀ path x, value.at? path = some (.double x) → x.isFinite = true

theorem Value.AllFinite.part {value part : Value} (finite : value.AllFinite) (step : Value.Step)
    (found : value.part? step = some part) : part.AllFinite := by
  intro path x inside
  apply finite (step :: path)
  rw [at?, found]
  exact inside

mutual
theorem finite_part_of_all_finite (value : Value) (finite : value.AllFinite) :
    value.finitePart = value := by
  match value with
  | .null => rfl
  | .long n => rfl
  | .double x => rw [Value.finitePart, if_pos (finite [] x rfl)]
  | .bool b => rfl
  | .string text => rfl
  | .list items =>
      have inside := items_finite_part_of_all_finite items fun index _ found =>
        finite.part (.item index) found
      rw [Value.finitePart, inside]
  | .map entries =>
      have inside := entries_finite_part_of_all_finite entries fun name _ found =>
        finite.part (.entry name) found
      rw [Value.finitePart, inside]
theorem items_finite_part_of_all_finite (items : List Value)
    (finite : ∀ (index : ℕ) item, items[index]? = some item → item.AllFinite) :
    itemsFinitePart items = items := by
  match items with
  | [] => rfl
  | item :: rest =>
      have others := items_finite_part_of_all_finite rest fun index => finite (index + 1)
      rw [itemsFinitePart, finite_part_of_all_finite item (finite 0 item rfl), others]
theorem entries_finite_part_of_all_finite {bound : Option String} (entries : Entries Value bound)
    (finite : ∀ name value, entries.get? name = some value → value.AllFinite) :
    entriesFinitePart entries = entries := by
  match entries with
  | .nil => rfl
  | .cons key above value rest =>
      have first := finite_part_of_all_finite value (finite key value (if_pos rfl))
      have others := entries_finite_part_of_all_finite rest fun name part found => by
        have different : name ≠ key := by
          rintro rfl
          rw [Entries.get?_bound rest (String.lt_irrefl name)] at found
          cases found
        exact finite name part ((if_neg different).trans found)
      rw [entriesFinitePart, first, others]
end

theorem finite_part_eq_self_iff (value : Value) : value.finitePart = value ↔ value.AllFinite := by
  constructor
  · intro same path x found
    have kept := value.at?_finite_part path
    rw [same, found, Option.map_some, Value.finitePart] at kept
    by_cases finite : x.isFinite = true
    · exact finite
    · rw [if_neg finite] at kept
      cases kept
  · exact finite_part_of_all_finite value

theorem json_keeps_finite (value : Value) :
    value.toJson.toValue = value.finitePart ∧
      (∀ path, value.toJson.toValue.at? path = (value.at? path).map Value.finitePart) ∧
      (value.toJson.toValue = value ↔ value.AllFinite) ∧
      value.toJson.toValue.toJson = value.toJson := by
  rw [to_value_to_json]
  exact ⟨rfl, value.at?_finite_part, finite_part_eq_self_iff value, to_json_finite_part value⟩

end StackCall
