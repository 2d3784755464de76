import StackCall.CommandLine.Report
import StackCall.Proofs.Dict
import StackCall.Proofs.Json.Conversion

set_option autoImplicit false

namespace StackCall

theorem items_plain_of_forall {depth : ℕ} {items : List Value}
    (plain : ∀ item ∈ items, item.isPlain depth = true) : itemsPlain depth items = true := by
  induction items with
  | nil => rfl
  | cons item rest ih =>
      obtain ⟨first, others⟩ := List.forall_mem_cons.mp plain
      exact Bool.and_eq_true_iff.mpr ⟨first, ih others⟩

theorem entries_plain_of_get? {depth : ℕ} {bound : Option String} {entries : Entries Value bound}
    (plain : ∀ name value, entries.get? name = some value → value.isPlain depth = true) :
    entriesPlain depth entries = true := by
  induction entries with
  | nil => rfl
  | cons key above value rest ih =>
      refine Bool.and_eq_true_iff.mpr ⟨plain key value (if_pos rfl), ih ?_⟩
      intro name held found
      have member : name ∈ rest.keys :=
        (rest.mem_keys_iff name).mpr (Option.isSome_iff_exists.mpr ⟨held, found⟩)
      have after : ¬ name = key := (Std.ne_of_lt (rest.lt_of_mem_keys member)).symm
      exact plain name held ((if_neg after).trans found)

theorem of_list_plain {depth : ℕ} {entries : List (String × Value)}
    (plain : ∀ entry ∈ entries, entry.2.isPlain depth = true) :
    entriesPlain depth (Dict.ofList entries) = true := by
  apply entries_plain_of_get?
  intro name value found
  rw [Dict.get?_of_list, List.lookup_eq_some_iff] at found
  obtain ⟨later, earlier, split, -⟩ := found
  apply plain (name, value)
  rw [← List.mem_reverse, split]
  exact List.mem_append_right later List.mem_cons_self

theorem list_plain {depth : ℕ} {items : List Value}
    (plain : ∀ item ∈ items, item.isPlain depth = true) :
    (Value.list items).isPlain (depth + 1) = true :=
  Bool.and_eq_true_iff.mpr ⟨decide_eq_true depth.succ_pos, items_plain_of_forall plain⟩

theorem map_plain {depth : ℕ} {entries : List (String × Value)}
    (plain : ∀ entry ∈ entries, entry.2.isPlain depth = true) :
    (Value.map (Dict.ofList entries)).isPlain (depth + 1) = true :=
  Bool.and_eq_true_iff.mpr ⟨decide_eq_true depth.succ_pos, of_list_plain plain⟩

namespace Documentation

variable (declaration : Declaration) (outputs : List Parameter)

theorem texts_plain (depth : ℕ) (items : List String) :
    (texts items).isPlain (depth + 1) = true := by
  apply list_plain
  intro _ member
  obtain ⟨text, -, rfl⟩ := List.mem_map.mp member
  rfl

theorem params_plain (depth : ℕ) :
    (Value.map (params declaration outputs)).isPlain (depth + 1) = true := by
  apply map_plain
  intro _ member
  obtain ⟨parameter, -, rfl⟩ := List.mem_map.mp member
  rfl

theorem positional_input_plain (depth : ℕ) :
    (Value.list (positionalInput declaration)).isPlain (depth + 2) = true := by
  apply list_plain
  intro input member
  rcases List.mem_append.mp member with isMap | isText
  · rw [List.mem_ite_nil_right, List.mem_singleton] at isMap
    rw [isMap.2]
    rfl
  · obtain ⟨parameter, -, rfl⟩ := List.mem_map.mp isText
    rfl

theorem named_input_plain (depth : ℕ) :
    (Value.list [.map (namedInput declaration)]).isPlain (depth + 2) = true := by
  apply list_plain
  rintro _ member
  rw [List.mem_singleton.mp member]
  apply map_plain
  intro _ member
  obtain ⟨parameter, -, rfl⟩ := List.mem_map.mp member
  rfl

theorem forms_plain (depth : ℕ) : (forms declaration outputs).isPlain (depth + 4) = true := by
  have output : (Value.list (outputs.map fun parameter => .string parameter.entry)).isPlain
      (depth + 2) = true := by
    apply list_plain
    intro _ member
    obtain ⟨parameter, -, rfl⟩ := List.mem_map.mp member
    rfl
  apply list_plain
  simp only [List.forall_mem_cons, List.not_mem_nil, false_imp_iff, implies_true, and_true]
  constructor <;> apply list_plain <;>
    simp only [List.forall_mem_cons, List.not_mem_nil, false_imp_iff, implies_true, and_true]
  · exact ⟨positional_input_plain declaration depth, output⟩
  · exact ⟨named_input_plain declaration depth, output⟩

theorem record_plain (depth : ℕ) (settings : DocSettings) (function : Function)
    (profile : Profile) :
    (record settings function profile outputs).isPlain (depth + 5) = true := by
  apply map_plain
  simp only [List.forall_mem_cons, List.not_mem_nil, false_imp_iff, implies_true, and_true]
  exact ⟨rfl, rfl, rfl, rfl, rfl, texts_plain _ _, rfl, texts_plain _ _, texts_plain _ _,
    texts_plain _ _, params_plain _ _ _, forms_plain _ _ _⟩

end Documentation

theorem info_eq {registry : Registry} {name : String} {function : Function}
    (registered : registry.get? name = some function) (settings : Settings) (json : Bool) :
    CommandLine.Command.output registry settings (.info name json) =
      .ok ((if json then (function.record settings.doc).toJson.text Json.indented
        else (function.record settings.doc).literal) ++ "\n") := by
  rw [CommandLine.Command.output, CommandLine.Command.find, registered]
  rfl

theorem operand_round_trip :
    (∀ value : Value, value.isPlain 127 = true →
      Value.ofOperand (value.toJson.text Json.compact) = value ∧
        Value.ofOperand (value.toJson.text Json.indented) = value) ∧
      ∀ (registry : Registry) (settings : Settings) (name : String) (function : Function),
        registry.get? name = some function → ∃ printed,
          CommandLine.Command.output registry settings (.info name true) = .ok printed ∧
            Value.ofOperand printed = function.record settings.doc ∧
            CommandLine.Command.output registry settings (.info name false) =
              .ok ((function.record settings.doc).literal ++ "\n") := by
  constructor
  · intro value plain
    have compact := of_operand_text Json.compact_clear plain Json.blank_nil
    have indented := of_operand_text Json.indented_clear plain Json.blank_nil
    rw [String.ofList_nil, String.append_empty] at compact indented
    exact ⟨compact, indented⟩
  · intro registry settings name function registered
    have plain := Documentation.record_plain function.outputs 122 settings.doc function
      function.profile
    have lineEnd : Json.Blank ['\n'] := by
      intro c member
      rw [List.mem_singleton.mp member]
      rfl
    exact ⟨_, info_eq registered settings true, of_operand_text Json.indented_clear plain lineEnd,
      info_eq registered settings false⟩

theorem operand_round_trip_nested :
    let value : Value := .map (Dict.ofList [
      ("", .list [.long Int64.minValue, .long Int64.maxValue, .null, .bool true]),
      ("\"\\\n", .string "3"),
      ("é", .map (Dict.ofList [("[]", .string "\x7b\x7d\x00")]))])
    (Value.ofOperand (value.toJson.text Json.compact) = value ∧
      Value.ofOperand (value.toJson.text Json.indented) = value) ∧
      ∃ function, Registry.standard.get? "ROUND" = some function ∧ ∃ printed,
        CommandLine.Command.output .standard {} (.info "ROUND" true) = .ok printed ∧
          Value.ofOperand printed = function.record ({} : Settings).doc ∧
          CommandLine.Command.output .standard {} (.info "ROUND" false) =
            .ok ((function.record ({} : Settings).doc).literal ++ "\n") := by
  intro value
  obtain ⟨values, records⟩ := operand_round_trip
  refine ⟨values value (by decide +kernel), _, rfl, records .standard {} "ROUND" _ rfl⟩

end StackCall
