import StackCall.Builtin
import StackCall.Proofs.Binding.Names

set_option autoImplicit false

namespace StackCall

structure BoundByName (signature : Signature) (entries : Dict Value) (arguments : Arguments) :
    Prop where
  supplied : ∀ name value, entries.get? name = some value → arguments.get? name = some value
  defaulted : ∀ parameter ∈ signature.optional, entries.get? parameter.name = none →
    ∃ value, parameter.default? = some value ∧ arguments.get? parameter.name = some value
  absent : ∀ name, entries.get? name = none → name ∉ signature.optional.map Parameter.name →
    arguments.get? name = none
  accepted : ∀ parameter ∈ signature.parameters, ∀ value,
    entries.get? parameter.name = some value → parameter.accepts value = true

-- Level 0 is on top, where the last required parameter is.
structure BoundByLevel (signature : Signature) (levels : List Value) (arguments : Arguments) :
    Prop where
  names : arguments.values.keys.Perm (signature.parameters.map Parameter.name)
  supplied : ∀ (index : Nat) (declared : index < signature.required.length), ∃ value,
    levels[signature.required.length - 1 - index]? = some value ∧
      signature.required[index].accepts value = true ∧
      arguments.get? signature.required[index].name = some value
  defaulted : ∀ parameter ∈ signature.optional,
    ∃ value, parameter.default? = some value ∧ arguments.get? parameter.name = some value

theorem default_of_optional (signature : Signature) (parameter : Parameter)
    (member : parameter ∈ signature.optional) :
    ∃ value, parameter.default? = some value ∧
      defaultOf signature.optional parameter.name = some value := by
  obtain ⟨value, default⟩ := signature.well_formed.optional parameter member
  refine ⟨value, default, ?_⟩
  rw [default_of_of_mem _ signature.well_formed.optional_distinct parameter member, default]

theorem bound_by_name (signature : Signature) (entries : Dict Value)
    (checked : signature.checkNamed entries = .ok ()) :
    BoundByName signature entries
      ⟨signature.function, fillDefaults entries signature.optional⟩ := by
  obtain ⟨required, optional⟩ := (check_named_eq_ok_iff signature.toDeclaration entries).mp checked
  refine ⟨?_, ?_, ?_, ?_⟩
  · intro name value found
    rw [Arguments.get?, get?_fill_defaults, found, Option.some_or]
  · intro parameter member missing
    rw [Arguments.get?, get?_fill_defaults, missing, Option.none_or]
    exact default_of_optional signature parameter member
  · intro name missing undeclared
    rw [Arguments.get?, get?_fill_defaults, missing, Option.none_or,
      default_of_eq_none _ name undeclared]
  · intro parameter member value found
    rcases List.mem_append.mp member with inRequired | inOptional
    · obtain ⟨held, holds, accepted⟩ := required parameter inRequired
      cases found.symm.trans holds
      exact accepted
    · exact optional parameter inOptional value found

theorem fits_reverse (signature : Signature) (values : List Value)
    (length : values.length = signature.required.length)
    (checked : checkValues signature.function 0 signature.required.reverse values = .ok ()) :
    Fits signature.required values.reverse := by
  have reversed : values.length = signature.required.reverse.length := by
    rw [length, List.length_reverse]
  have fits := (check_values_eq_ok_iff signature.function 0 _ values reversed).mp checked
  rw [Fits, ← List.forall₂_reverse_iff, List.reverse_reverse]
  exact fits

theorem mem_keys_fill_defaults (signature : Signature) (values : List Value)
    (length : values.length = signature.required.length) (name : String) :
    name ∈ (fillDefaults (byName signature.required values) signature.optional).keys ↔
      name ∈ signature.parameters.map Parameter.name := by
  rw [Entries.mem_keys_iff, get?_fill_defaults, Declaration.parameters, List.map_append,
    List.mem_append, Option.isSome_or, Bool.or_eq_true]
  have inRequired : ((byName signature.required values).get? name).isSome = true ↔
      name ∈ signature.required.map Parameter.name := by
    have missing := get?_by_name_eq_none_iff signature.required values name length
    rw [← not_iff_not, ← missing, Option.not_isSome_iff_eq_none]
  have inOptional : (defaultOf signature.optional name).isSome = true ↔
      name ∈ signature.optional.map Parameter.name := by
    constructor
    · intro found
      by_cases declared : name ∈ signature.optional.map Parameter.name
      · exact declared
      · rw [default_of_eq_none _ name declared] at found
        cases found
    · intro declared
      obtain ⟨parameter, member, rfl⟩ := List.mem_map.mp declared
      obtain ⟨value, _, found⟩ := default_of_optional signature parameter member
      rw [found, Option.isSome_some]
  rw [inRequired, inOptional]

theorem bound_by_level (signature : Signature) (values below : List Value)
    (length : values.length = signature.required.length)
    (checked : checkValues signature.function 0 signature.required.reverse values = .ok ()) :
    BoundByLevel signature (values ++ below)
      ⟨signature.function,
        fillDefaults (byName signature.required.reverse values) signature.optional⟩ := by
  have reversed : values.reverse.length = signature.required.length := by
    rw [List.length_reverse, length]
  have distinct := signature.well_formed.required_distinct
  rw [by_name_reverse signature.required values distinct length]
  refine ⟨?_, ?_, ?_⟩
  · refine (List.perm_ext_iff_of_nodup (Entries.keys_nodup _)
      signature.well_formed.distinct).mpr ?_
    exact mem_keys_fill_defaults signature values.reverse reversed
  · intro index declared
    have bound : index < values.reverse.length := reversed ▸ declared
    have mirrored : signature.required.length - 1 - index < values.length := by omega
    have sameValue : values[signature.required.length - 1 - index]? =
        some (values.reverse[index]) := by
      rw [List.getElem_reverse, ← length, List.getElem?_eq_getElem]
    refine ⟨values.reverse[index], ?_, ?_, ?_⟩
    · rw [List.getElem?_append_left mirrored, sameValue]
    · exact (fits_reverse signature values length checked).get declared bound
    · rw [Arguments.get?, get?_fill_defaults,
        get?_by_name signature.required values.reverse distinct reversed index declared,
        List.getElem?_eq_getElem bound, Option.some_or]
  · intro parameter member
    obtain ⟨value, default, found⟩ := default_of_optional signature parameter member
    refine ⟨value, default, ?_⟩
    have notRequired := signature.well_formed.optional_not_required member
    rw [Arguments.get?, get?_fill_defaults,
      (get?_by_name_eq_none_iff _ _ _ reversed).mpr notRequired, Option.none_or, found]

theorem bind_ok_bound (signature : Signature) (before after : Stack) (arguments : Arguments)
    (succeeded : signature.bind.onStack before = (.ok arguments, after)) :
    arguments.function = signature.function ∧
      (signature.isEmpty = true → arguments.values = .empty ∧ after = before) ∧
      (signature.isEmpty = false → ∀ entries rest, before.levels = .map entries :: rest →
        after.levels = rest ∧ BoundByName signature entries arguments) ∧
      (signature.isEmpty = false → before.NoMapOnTop →
        signature.required.length ≤ before.depth ∧
          after.levels = before.levels.drop signature.required.length ∧
          BoundByLevel signature before.levels arguments) := by
  have listed := (signature.on_stack_bind_iff before after (.ok arguments)).mp succeeded
  cases listed with
  | nothing empty =>
      refine ⟨rfl, fun _ => ⟨rfl, rfl⟩, ?_, ?_⟩
      · intro nonempty
        exact nomatch empty.symm.trans nonempty
      · intro nonempty
        exact nomatch empty.symm.trans nonempty
  | named nonempty checked =>
      rename_i entries rest
      refine ⟨rfl, ?_, ?_, ?_⟩
      · intro empty
        exact nomatch empty.symm.trans nonempty
      · intro _ others below shape
        cases shape
        exact ⟨rfl, bound_by_name signature entries checked⟩
      · intro _ noMap
        exact absurd rfl (noMap entries)
  | positional needed noMap length checked =>
      rename_i values below
      refine ⟨rfl, ?_, ?_, ?_⟩
      · intro empty
        exact nomatch empty.symm.trans (signature.is_empty_of_required needed)
      · intro _ entries rest shape
        exact absurd (congrArg List.head? shape) (noMap entries)
      · intro _ _
        refine ⟨?_, ?_, bound_by_level signature values below length checked⟩
        · rw [Stack.depth, List.length_append, length]
          exact Nat.le_add_right _ _
        · rw [← length, List.drop_left]

theorem bind_ok_bound_rounding :
    let entries := Dict.ofList [("value", .long 7), ("note", .null)]
    let before : Stack := ⟨[.map entries, .string "below"]⟩
    let arguments : Arguments :=
      ⟨"ROUND", Dict.ofList [("digits", .long 0), ("note", .null), ("value", .long 7)]⟩
    Builtin.roundingSignature.bind.onStack before = (.ok arguments, ⟨[.string "below"]⟩) ∧
      BoundByName Builtin.roundingSignature entries arguments := by
  intro entries before arguments
  have run : Builtin.roundingSignature.bind.onStack before =
      (.ok arguments, ⟨[.string "below"]⟩) := rfl
  have bound := bind_ok_bound Builtin.roundingSignature before ⟨[.string "below"]⟩ arguments run
  exact ⟨run, (bound.2.2.1 rfl entries [.string "below"] rfl).2⟩

end StackCall
