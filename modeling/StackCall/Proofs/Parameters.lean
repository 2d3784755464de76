import StackCall.Documentation
import StackCall.Proofs.Defect

set_option autoImplicit false

namespace StackCall.Documentation

theorem lookup_described {α : Type} (value : Parameter → α) (parameters : List Parameter)
    (name : String) :
    (parameters.map fun parameter => (parameter.name, value parameter)).lookup name =
      (parameters.find? fun parameter => parameter.name == name).map value := by
  induction parameters with
  | nil => rfl
  | cons parameter rest ih =>
      by_cases same : name = parameter.name
      · simp [same]
      · have different : ¬ parameter.name = name := fun equal => same equal.symm
        rw [List.map_cons, List.lookup_cons, beq_false_of_ne same, ih,
          List.find?_cons_of_neg (by simpa using different)]

-- The output that stands in the record when several have one name.
def lastNamed? (outputs : List Parameter) (name : String) : Option Parameter :=
  outputs.reverse.find? fun output => output.name == name

-- The list is searched from its end, where the outputs stand.
theorem get?_params {declaration : Declaration}
    (distinct : (declaration.parameters.map Parameter.name).Nodup) (outputs : List Parameter)
    (name : String) :
    (params declaration outputs).get? name =
      ((lastNamed? outputs name).or (declaration.get? name)).map fun parameter =>
        .string parameter.doc := by
  have sameArgument : declaration.parameters.reverse.find? (fun other => other.name == name) =
      declaration.get? name := by
    cases found : declaration.get? name with
    | some parameter =>
        have member := List.mem_of_find?_eq_some found
        have named : parameter.name = name := by simpa using List.find?_some found
        have back : (declaration.parameters.reverse.map Parameter.name).Nodup := by
          rw [List.map_reverse]
          exact (List.reverse_perm _).nodup_iff.mpr distinct
        rw [← named]
        exact Declaration.find?_of_mem back (List.mem_reverse.mpr member)
    | none =>
        rw [Declaration.get?_eq_none_iff] at found
        simpa using found
  rw [params, Dict.get?_of_list, ← List.map_reverse, lookup_described, List.reverse_append,
    List.find?_append, sameArgument]
  rfl

theorem last_named?_eq_none_iff (outputs : List Parameter) (name : String) :
    lastNamed? outputs name = none ↔ ∀ output ∈ outputs, output.name ≠ name := by
  simp [lastNamed?]

structure Describes (declaration : Declaration) (outputs : List Parameter) (texts : Dict Value) :
    Prop where
  argument : ∀ parameter ∈ declaration.parameters,
    (∀ output ∈ outputs, output.name ≠ parameter.name) →
      texts.get? parameter.name = some (.string parameter.doc)
  output : ∀ output ∈ outputs, ∃ last ∈ outputs, lastNamed? outputs output.name = some last ∧
    last.name = output.name ∧ texts.get? output.name = some (.string last.doc)
  names : ∀ name, name ∈ texts.keys ↔ name ∈ (declaration.parameters ++ outputs).map Parameter.name

theorem params_describes {declaration : Declaration}
    (distinct : (declaration.parameters.map Parameter.name).Nodup) (outputs : List Parameter) :
    Describes declaration outputs (params declaration outputs) := by
  refine ⟨?_, ?_, ?_⟩
  · intro parameter member noOutput
    rw [get?_params distinct, (last_named?_eq_none_iff outputs parameter.name).mpr noOutput,
      Option.none_or, Declaration.get?_of_mem distinct member]
    rfl
  · intro output member
    cases found : lastNamed? outputs output.name with
    | none =>
        have noOutput := (last_named?_eq_none_iff outputs output.name).mp found
        exact absurd rfl (noOutput output member)
    | some last =>
        have inside := List.mem_reverse.mp (List.mem_of_find?_eq_some found)
        have named : last.name = output.name := by simpa using List.find?_some found
        refine ⟨last, inside, rfl, named, ?_⟩
        rw [get?_params distinct, found, Option.some_or]
        rfl
  · intro name
    rw [Entries.mem_keys_iff, get?_params distinct, Option.isSome_map, Option.isSome_or,
      List.map_append, List.mem_append]
    simp [lastNamed?, Declaration.get?, or_comm]

theorem record_params (settings : DocSettings) (function : Function) (profile : Profile)
    (outputs : List Parameter) :
    ∃ entries, record settings function profile outputs = .map entries ∧
      entries.get? "params" = some (.map (params function.signature.toDeclaration outputs)) := by
  refine ⟨_, rfl, Dict.get?_of_list_of_mem ?_ ?_⟩
  · simp only [List.map_cons, List.map_nil]
    decide
  · simp only [List.mem_cons, or_true, true_or]

theorem record_describes (settings : DocSettings) (function : Function) (profile : Profile)
    (outputs : List Parameter) :
    ∃ entries texts, record settings function profile outputs = .map entries ∧
      entries.get? "params" = some (.map texts) ∧
      Describes function.signature.toDeclaration outputs texts := by
  obtain ⟨entries, same, found⟩ := record_params settings function profile outputs
  exact ⟨entries, _, same, found, params_describes function.signature.well_formed.distinct outputs⟩

def scaling : Function where
  signature := {
    function := "SCALE"
    required := [⟨"value", .number, "Number to scale.", none, none⟩]
    optional := []
    sound := rfl }
  body _ := pure ()
  outputs := [⟨"value", .number, "Scaled number.", none, none⟩]

theorem argument_doc_hidden :
    ∃ entries texts parameter, record {} scaling {} scaling.outputs = .map entries ∧
      entries.get? "params" = some (.map texts) ∧ parameter ∈ scaling.signature.parameters ∧
      parameter.doc = "Number to scale." ∧
      texts.get? parameter.name = some (.string "Scaled number.") ∧
      texts.get? parameter.name ≠ some (.string parameter.doc) := by
  refine ⟨_, _, _, rfl, rfl, .head _, rfl, rfl, ?_⟩
  intro kept
  have hidden : some (Value.string "Scaled number.") = some (.string "Number to scale.") := kept
  simp at hidden

end StackCall.Documentation
