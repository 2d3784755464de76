import StackCall.Builtin
import StackCall.Proofs.Binding.Names

set_option autoImplicit false

namespace StackCall

theorem check_optional_append_missing (function : String) (entries : Dict Value)
    (optional : List Parameter) (parameter : Parameter)
    (absent : entries.get? parameter.name = none) :
    checkOptional function entries (optional ++ [parameter]) =
      checkOptional function entries optional := by
  induction optional with
  | nil => simp only [List.nil_append, checkOptional, absent]
  | cons first rest ih =>
      rw [List.cons_append, checkOptional, checkOptional, ih]

theorem fill_defaults_append (values : Dict Value) (optional : List Parameter)
    (parameter : Parameter) (default : Value) (declared : parameter.default? = some default) :
    fillDefaults values (optional ++ [parameter]) =
      (fillDefaults values optional).insertNew parameter.name default := by
  simp only [fillDefaults, List.foldl_append, List.foldl_cons, List.foldl_nil, declared]

structure Extends (signature extended : Signature) (parameter : Parameter) : Prop where
  function : extended.function = signature.function
  required : extended.required = signature.required
  optional : extended.optional = signature.optional ++ [parameter]

namespace Extends

variable {signature extended : Signature} {parameter : Parameter}

theorem mem_optional (extension : Extends signature extended parameter) :
    parameter ∈ extended.optional := by
  rw [extension.optional]
  exact List.mem_append_right _ List.mem_cons_self

theorem exists_default (extension : Extends signature extended parameter) :
    ∃ default, parameter.default? = some default :=
  extended.well_formed.optional parameter extension.mem_optional

theorem not_required (extension : Extends signature extended parameter) :
    parameter.name ∉ signature.required.map Parameter.name := by
  rw [← extension.required]
  exact extended.well_formed.optional_not_required extension.mem_optional

theorem not_optional (extension : Extends signature extended parameter) :
    parameter.name ∉ signature.optional.map Parameter.name := by
  have distinct := extended.well_formed.optional_distinct
  rw [extension.optional, List.map_append, List.nodup_append] at distinct
  intro shared
  exact distinct.2.2 parameter.name shared parameter.name (by simp) rfl

theorem get?_fill_defaults_none (extension : Extends signature extended parameter)
    (values : Dict Value) (absent : values.get? parameter.name = none) :
    (fillDefaults values signature.optional).get? parameter.name = none := by
  rw [get?_fill_defaults, absent, Option.none_or, default_of_eq_none _ _ extension.not_optional]

theorem fill_defaults_eq_insert (extension : Extends signature extended parameter)
    (values : Dict Value) (absent : values.get? parameter.name = none) (default : Value)
    (declared : parameter.default? = some default) :
    fillDefaults values extended.optional =
      (fillDefaults values signature.optional).insert parameter.name default := by
  have free := extension.get?_fill_defaults_none values absent
  rw [extension.optional, fill_defaults_append _ _ _ default declared, Entries.insertNew,
    Entries.contains, free, Option.isSome_none, if_neg Bool.false_ne_true]

theorem check_named_eq (extension : Extends signature extended parameter) (entries : Dict Value)
    (absent : entries.get? parameter.name = none) :
    extended.checkNamed entries = signature.checkNamed entries := by
  rw [Declaration.checkNamed, Declaration.checkNamed, extension.function, extension.required,
    extension.optional, check_optional_append_missing _ _ _ _ absent]

theorem is_empty_eq (extension : Extends signature extended parameter)
    (needed : signature.required ≠ []) : extended.isEmpty = signature.isEmpty := by
  rw [signature.is_empty_of_required needed]
  exact extended.is_empty_of_required (extension.required ▸ needed)

theorem outcome (extension : Extends signature extended parameter)
    (needed : signature.required ≠ []) (before after : Stack)
    (unnamed : ∀ entries, before.levels.head? = some (.map entries) →
      entries.get? parameter.name = none) (default : Value)
    (declared : parameter.default? = some default) (result : Except Fault Arguments)
    (listed : signature.Outcome before result after) :
    (∃ fault, result = .error fault ∧ extended.Outcome before (.error fault) after) ∨
      ∃ arguments, result = .ok arguments ∧ arguments.get? parameter.name = none ∧
        extended.Outcome before
          (.ok ⟨arguments.function, arguments.values.insert parameter.name default⟩) after := by
  have nonempty : extended.isEmpty = false := by
    rw [extension.is_empty_eq needed, signature.is_empty_of_required needed]
  cases listed with
  | nothing empty => cases empty.symm.trans (signature.is_empty_of_required needed)
  | @named entries rest _ checked =>
      have absent := unnamed entries rfl
      refine .inr ⟨_, rfl, extension.get?_fill_defaults_none entries absent, ?_⟩
      rw [← extension.function, ← extension.fill_defaults_eq_insert entries absent default declared]
      refine .named nonempty ?_
      rw [extension.check_named_eq entries absent, checked]
  | @misnamed entries rest fault _ refused =>
      refine .inl ⟨fault, rfl, .misnamed nonempty ?_⟩
      rw [extension.check_named_eq entries (unnamed entries rfl), refused]
  | unnamed _ optionalOnly _ => exact absurd optionalOnly needed
  | short noMap few =>
      refine .inl ⟨_, rfl, ?_⟩
      rw [← extension.required] at few
      rw [← extension.function, ← extension.required]
      exact .short noMap few
  | @positional values below _ noMap length checked =>
      have absent : (byName signature.required.reverse values).get? parameter.name = none := by
        rw [get?_by_name_eq_none_iff _ _ _ (by rw [length, List.length_reverse]), List.map_reverse,
          List.mem_reverse]
        exact extension.not_required
      refine .inr ⟨_, rfl, extension.get?_fill_defaults_none _ absent, ?_⟩
      rw [← extension.function, ← extension.fill_defaults_eq_insert _ absent default declared]
      rw [← extension.required] at needed length checked ⊢
      rw [← extension.function] at checked
      exact .positional needed noMap length checked
  | @misfit values below fault _ noMap length refused =>
      rw [← extension.function, ← extension.required] at refused
      rw [← extension.required] at needed length
      exact .inl ⟨fault, rfl, .misfit needed noMap length refused⟩

end Extends

theorem bind_extended (signature extended : Signature) (parameter : Parameter)
    (needed : signature.required ≠ []) (extension : Extends signature extended parameter)
    (before : Stack)
    (unnamed : ∀ entries, before.levels.head? = some (.map entries) →
      entries.get? parameter.name = none) :
    (extended.bind.onStack before).2 = (signature.bind.onStack before).2 ∧
      ((∃ fault, (signature.bind.onStack before).1 = .error fault ∧
          (extended.bind.onStack before).1 = .error fault) ∨
        ∃ default arguments, parameter.default? = some default ∧
          (signature.bind.onStack before).1 = .ok arguments ∧
          arguments.get? parameter.name = none ∧
          (extended.bind.onStack before).1 =
            .ok ⟨arguments.function, arguments.values.insert parameter.name default⟩) := by
  obtain ⟨default, declared⟩ := extension.exists_default
  have listed := signature.on_stack_bind_outcome before
  rcases extension.outcome needed before _ unnamed default declared _ listed with
    ⟨fault, failed, same⟩ | ⟨arguments, succeeded, free, same⟩
  · rw [← extended.on_stack_bind_iff] at same
    rw [same]
    exact ⟨rfl, .inl ⟨fault, failed, rfl⟩⟩
  · rw [← extended.on_stack_bind_iff] at same
    rw [same]
    exact ⟨rfl, .inr ⟨default, arguments, declared, succeeded, free, rfl⟩⟩

def wholeRounding : Signature where
  function := "ROUND"
  required := Builtin.roundingSignature.required
  optional := []
  sound := rfl

theorem bind_extended_rounding :
    let digits : Parameter :=
      ⟨"digits", .long, "Count of decimal digits to keep.", some (.long 0), none⟩
    let entries := Dict.ofList [("note", .null), ("value", .long 7)]
    let before : Stack := ⟨[.map entries, .string "below"]⟩
    wholeRounding.required ≠ [] ∧ Extends wholeRounding Builtin.roundingSignature digits ∧
      (∀ others, before.levels.head? = some (.map others) → others.get? "digits" = none) ∧
      wholeRounding.bind.onStack before = (.ok ⟨"ROUND", entries⟩, ⟨[.string "below"]⟩) ∧
      Builtin.roundingSignature.bind.onStack before =
        (.ok ⟨"ROUND", entries.insert "digits" (.long 0)⟩, ⟨[.string "below"]⟩) := by
  intro digits entries before
  have needed : wholeRounding.required ≠ [] := List.cons_ne_nil _ _
  have extension : Extends wholeRounding Builtin.roundingSignature digits := ⟨rfl, rfl, rfl⟩
  have unnamed : ∀ others, before.levels.head? = some (.map others) →
      others.get? "digits" = none := by
    intro others top
    cases top
    rfl
  have run : wholeRounding.bind.onStack before =
      (.ok ⟨"ROUND", entries⟩, ⟨[.string "below"]⟩) := rfl
  obtain ⟨sameStack, outcome⟩ :=
    bind_extended wholeRounding Builtin.roundingSignature digits needed extension before unnamed
  refine ⟨needed, extension, unnamed, run, ?_⟩
  rcases outcome with ⟨fault, failed, _⟩ | ⟨default, arguments, declared, succeeded, _, extended⟩
  · cases failed
  · cases declared
    cases succeeded
    exact Prod.ext extended sameStack

end StackCall
