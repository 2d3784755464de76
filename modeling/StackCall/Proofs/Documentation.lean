import StackCall.Documentation
import StackCall.Proofs.Binding.Conventions

set_option autoImplicit false

namespace StackCall

theorem record_forms (settings : DocSettings) (function : Function) (profile : Profile)
    (outputs : List Parameter) :
    ∃ record, Documentation.record settings function profile outputs = .map record ∧
      record.get? "sig" =
        some (Documentation.forms function.signature.toDeclaration outputs) := by
  refine ⟨_, rfl, Dict.get?_of_list_of_mem ?_ ?_⟩
  · simp only [List.map_cons, List.map_nil]
    decide
  · simp only [List.mem_cons, or_true, true_or]

theorem positional_input_cases (declaration : Declaration) :
    Documentation.positionalInput declaration =
        (declaration.required.map fun parameter => .string parameter.entry) ∨
      Documentation.positionalInput declaration = [.map .nil] := by
  by_cases unneeded : declaration.required.isEmpty && !declaration.optional.isEmpty
  · rw [Bool.and_eq_true] at unneeded
    have none := List.isEmpty_iff.mp unneeded.1
    right
    rw [Documentation.positionalInput, none, unneeded.2]
    rfl
  · left
    rw [Documentation.positionalInput, if_neg unneeded, List.nil_append]

theorem positional_input_eq_nil (declaration : Declaration)
    (listed : Documentation.positionalInput declaration = []) : declaration.isEmpty = true := by
  obtain ⟨noMap, entries⟩ := List.append_eq_nil_iff.mp listed
  have unneeded := List.map_eq_nil_iff.mp entries
  simpa [Declaration.isEmpty, unneeded] using noMap

theorem positional_input_eq_map (declaration : Declaration)
    (listed : Documentation.positionalInput declaration = [.map .nil]) :
    declaration.required = [] ∧ declaration.isEmpty = false := by
  by_cases unneeded : declaration.required = []
  · refine ⟨unneeded, ?_⟩
    rw [← Bool.not_eq_true, Declaration.is_empty_iff]
    rintro ⟨_, none⟩
    simp [Documentation.positionalInput, unneeded, none] at listed
  · have entries : Documentation.positionalInput declaration =
        declaration.required.map fun parameter => .string parameter.entry := by
      simp [Documentation.positionalInput, unneeded]
    rw [entries] at listed
    obtain ⟨parameter, _, _, text, _⟩ := List.map_eq_cons_iff.mp listed
    exact nomatch text

theorem get?_named_input {declaration : Declaration} (formed : declaration.WellFormed)
    {parameter : Parameter} (member : parameter ∈ declaration.parameters) :
    (Documentation.namedInput declaration).get? parameter.name =
      some (.string parameter.entry) := by
  apply Dict.get?_of_list_of_mem
  · rw [List.map_map]
    exact formed.distinct
  · exact List.mem_map_of_mem (f := fun parameter => (parameter.name, Value.string parameter.entry))
      member

-- What each form promises: the values that its input lists can be passed, and are taken.
structure FormsAccepted (signature : Signature) (inputs : List Value) : Prop where
  levels : inputs = (signature.required.map fun parameter => Value.string parameter.entry) →
    ∀ (stack : Stack) (values : List Value), Fits signature.required values →
      ((∃ arguments, signature.bind.onStack (stack.pushAll values) = (.ok arguments, stack) ∧
          ∀ (index : Nat) (declared : index < signature.required.length),
            arguments.get? signature.required[index].name = values[index]?) ↔
        ∀ entries, values.getLast? ≠ some (.map entries))
  emptyMap : inputs = [.map .nil] → ∀ stack : Stack, ∃ arguments,
    signature.bind.onStack (stack.push (.map .nil)) = (.ok arguments, stack)
  nothing : inputs = [] → ∀ stack : Stack, ∃ arguments,
    signature.bind.onStack stack = (.ok arguments, stack)
  named : ∀ (stack : Stack) (entries : Dict Value),
    (∀ parameter ∈ signature.required, ∃ value,
      entries.get? parameter.name = some value ∧ parameter.accepts value = true) →
    (∀ parameter ∈ signature.optional, ∀ value,
      entries.get? parameter.name = some value → parameter.accepts value = true) →
    ∃ arguments, signature.bind.onStack (stack.push (.map entries)) =
      (.ok arguments, if signature.isEmpty then stack.push (.map entries) else stack)

theorem levels_form (signature : Signature)
    (listed : Documentation.positionalInput signature.toDeclaration =
      signature.required.map fun parameter => .string parameter.entry)
    (stack : Stack) (values : List Value) (fits : Fits signature.required values) :
    (∃ arguments, signature.bind.onStack (stack.pushAll values) = (.ok arguments, stack) ∧
        ∀ (index : Nat) (declared : index < signature.required.length),
          arguments.get? signature.required[index].name = values[index]?) ↔
      ∀ entries, values.getLast? ≠ some (.map entries) := by
  have length : values.length = signature.required.length := fits.length_eq.symm
  by_cases needed : signature.required = []
  · have empty : signature.isEmpty = true := by
      rw [needed] at listed
      exact positional_input_eq_nil signature.toDeclaration listed
    have noValues : values = [] := by
      rw [needed] at length
      exact List.eq_nil_of_length_eq_zero length
    subst values
    refine iff_of_true ⟨⟨signature.function, .empty⟩, ?_, ?_⟩ ?_
    · exact signature.on_stack_bind_nothing empty stack
    · intro index declared
      rw [needed] at declared
      exact nomatch declared
    · intro entries last
      exact nomatch last
  · constructor
    · rintro ⟨arguments, run, bound⟩ entries last
      obtain ⟨index, declared, different⟩ :=
        bind_trailing_map signature stack values entries arguments needed length last run
      exact different (bound index declared)
    · intro noMap
      refine ⟨_, on_stack_bind_push_all_fits signature stack values needed fits noMap, ?_⟩
      intro index declared
      have bound : index < values.length := length ▸ declared
      rw [Arguments.get?, get?_fill_defaults, get?_by_name signature.required values
        signature.well_formed.required_distinct length index declared,
        List.getElem?_eq_getElem bound, Option.some_or]

theorem empty_map_form (signature : Signature)
    (listed : Documentation.positionalInput signature.toDeclaration = [.map .nil])
    (stack : Stack) : ∃ arguments,
      signature.bind.onStack (stack.push (.map .nil)) = (.ok arguments, stack) := by
  obtain ⟨unneeded, nonempty⟩ := positional_input_eq_map signature.toDeclaration listed
  refine ⟨_, on_stack_bind_push_map signature stack nonempty .nil ?_⟩
  rw [check_named_eq_ok_iff, unneeded]
  refine ⟨?_, ?_⟩
  · intro parameter member
    exact nomatch member
  · intro parameter _ value found
    exact nomatch found

theorem named_form (signature : Signature) (stack : Stack) (entries : Dict Value)
    (checked : signature.checkNamed entries = .ok ()) :
    ∃ arguments, signature.bind.onStack (stack.push (.map entries)) =
      (.ok arguments, if signature.isEmpty then stack.push (.map entries) else stack) := by
  cases nonempty : signature.isEmpty with
  | true => exact ⟨_, signature.on_stack_bind_nothing nonempty _⟩
  | false => exact ⟨_, on_stack_bind_push_map signature stack nonempty entries checked⟩

theorem documented_forms_bind (settings : DocSettings) (function : Function) (profile : Profile)
    (outputs : List Parameter) :
    let declaration := function.signature.toDeclaration
    let inputs := Documentation.positionalInput declaration
    let names := Documentation.namedInput declaration
    let output := Value.list (outputs.map fun parameter => .string parameter.entry)
    (∃ record, Documentation.record settings function profile outputs = .map record ∧
        record.get? "sig" =
          some (.list [.list [.list inputs, output], .list [.list [.map names], output]])) ∧
      (inputs = (declaration.required.map fun parameter => .string parameter.entry) ∨
        inputs = [.map .nil] ∨ inputs = []) ∧
      (∀ parameter ∈ declaration.parameters,
        names.get? parameter.name = some (.string parameter.entry)) ∧
      FormsAccepted function.signature inputs := by
  intro declaration inputs names output
  refine ⟨record_forms settings function profile outputs, ?_, ?_, ?_, ?_, ?_, ?_⟩
  · exact (positional_input_cases declaration).imp_right .inl
  · intro parameter member
    exact get?_named_input function.signature.well_formed member
  · exact levels_form function.signature
  · exact empty_map_form function.signature
  · intro listed stack
    exact ⟨_, function.signature.on_stack_bind_nothing (positional_input_eq_nil _ listed) stack⟩
  · intro stack entries required optional
    exact named_form function.signature stack entries
      ((check_named_eq_ok_iff _ entries).mpr ⟨required, optional⟩)

def mapSignature : Signature where
  function := "CONFIGURE"
  required := [⟨"config", .map, "Configuration.", none, none⟩]
  optional := []
  sound := rfl

def mapFunction : Function where
  signature := mapSignature
  body _ := pure ()

-- The listed form of the one function has a map as its only level, which is read by name instead.
-- The other function lists a map for a call by name and takes nothing.
theorem listed_map_not_taken :
    (∃ record named, Documentation.record {} mapFunction {} [] = .map record ∧
      record.get? "sig" =
        some (.list [.list [.list [.string "config:MAP"], .list []], named])) ∧
      Fits mapSignature.required [.map .nil] ∧
      (¬ ∃ arguments, mapSignature.bind.onStack (Stack.empty.pushAll [.map .nil]) =
        (.ok arguments, .empty)) ∧
      ¬ ∃ arguments, (Signature.empty "DEPTH").bind.onStack (Stack.empty.push (.map .nil)) =
        (.ok arguments, .empty) := by
  refine ⟨⟨_, _, rfl, rfl⟩, .cons rfl .nil, ?_, ?_⟩
  · rintro ⟨arguments, run⟩
    have actual : mapSignature.bind.onStack (Stack.empty.pushAll [.map .nil]) =
        (.error (.missingKey "CONFIGURE" "config" "MAP"), ⟨[.map .nil]⟩) := rfl
    exact nomatch actual.symm.trans run
  · rintro ⟨arguments, run⟩
    have actual : (Signature.empty "DEPTH").bind.onStack (Stack.empty.push (.map .nil)) =
        (.ok ⟨"DEPTH", .empty⟩, ⟨[.map .nil]⟩) := rfl
    exact nomatch actual.symm.trans run

end StackCall
