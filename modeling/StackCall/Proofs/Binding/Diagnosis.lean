import StackCall.Builtin
import StackCall.Proofs.Binding.Outcome
import StackCall.Proofs.Binding.Violation

set_option autoImplicit false

namespace StackCall

def Refused (signature : Signature) (before : Stack) (fault : Fault) : Prop :=
  (signature.bind.onStack before).1 = .error fault

-- The level counts from the top, where the last required parameter is expected.
def Misfit (signature : Signature) (levels : List Value) (level : Nat) (parameter : Parameter) :
    Prop :=
  level < signature.required.length ∧
    signature.required[signature.required.length - 1 - level]? = some parameter ∧
    ∃ value, levels[level]? = some value ∧ parameter.accepts value = false

section

variable (signature : Signature)

theorem refused_map_iff (nonempty : signature.isEmpty = false) (entries : Dict Value)
    (rest : List Value) (fault : Fault) :
    Refused signature ⟨.map entries :: rest⟩ fault ↔
      signature.checkNamed entries = .error fault := by
  rw [Refused, signature.on_stack_bind_map nonempty]
  cases signature.checkNamed entries with
  | ok _ => simp
  | error other => simp

theorem refused_levels_iff (needed : signature.required ≠ []) (values below : List Value)
    (noMap : Stack.NoMapOnTop ⟨values ++ below⟩)
    (length : values.length = signature.required.length) (fault : Fault) :
    Refused signature ⟨values ++ below⟩ fault ↔
      checkValues signature.function 0 signature.required.reverse values = .error fault := by
  rw [Refused, signature.on_stack_bind_positional needed values below noMap length]
  cases checkValues signature.function 0 signature.required.reverse values with
  | ok _ => simp
  | error other => simp

variable (values below : List Value)

def numbered : List ((Parameter × Value) × Nat) := (signature.required.reverse.zip values).zipIdx

theorem get_elem?_numbered (level : Nat) (parameter : Parameter) (value : Value) (number : Nat) :
    (numbered signature values)[level]? = some ((parameter, value), number) ↔
      number = level ∧ signature.required.reverse[level]? = some parameter ∧
        values[level]? = some value := by
  rw [numbered, List.getElem?_zipIdx, Nat.zero_add]
  constructor
  · intro found
    obtain ⟨pair, zipped, same⟩ := Option.map_eq_some_iff.mp found
    cases same
    exact ⟨rfl, List.getElem?_zip_eq_some.mp zipped⟩
  · rintro ⟨rfl, found⟩
    have zipped : (signature.required.reverse.zip values)[number]? = some (parameter, value) :=
      List.getElem?_zip_eq_some.mpr found
    rw [zipped, Option.map_some]

theorem misfit_iff (length : values.length = signature.required.length) (level : Nat)
    (parameter : Parameter) :
    Misfit signature (values ++ below) level parameter ↔
      ∃ value, (numbered signature values)[level]? = some ((parameter, value), level) ∧
        parameter.accepts value = false := by
  simp only [get_elem?_numbered, true_and]
  by_cases declared : level < signature.required.length
  · rw [List.getElem?_reverse declared]
    simp only [Misfit, declared, true_and, List.getElem?_append_left (length ▸ declared), and_assoc,
      exists_and_left]
  · simp [Misfit, declared]

theorem refused_iff_misfit (needed : signature.required ≠ [])
    (noMap : Stack.NoMapOnTop ⟨values ++ below⟩)
    (length : values.length = signature.required.length) (fault : Fault) :
    Refused signature ⟨values ++ below⟩ fault ↔
      ∃ level parameter, Misfit signature (values ++ below) level parameter ∧
        (∀ upper < level, ∀ other, ¬ Misfit signature (values ++ below) upper other) ∧
        fault = .positionalType signature.function parameter.name parameter.label level := by
  rw [refused_levels_iff signature needed values below noMap length, check_values_error_iff,
    first_at_fault_iff_get_elem?, ← numbered]
  simp only [misfit_iff signature values below length]
  constructor
  · rintro ⟨level, ⟨⟨parameter, value⟩, number⟩, found, ⟨refused, rfl⟩, fine⟩
    obtain ⟨rfl, _⟩ := (get_elem?_numbered signature values level parameter value number).mp found
    refine ⟨number, parameter, ⟨value, found, refused⟩, ?_, rfl⟩
    rintro upper above other ⟨held, foundUpper, refusedUpper⟩
    exact fine upper above _ foundUpper _ ⟨refusedUpper, rfl⟩
  · rintro ⟨level, parameter, ⟨value, found, refused⟩, fine, rfl⟩
    refine ⟨level, ((parameter, value), level), found, ⟨refused, rfl⟩, ?_⟩
    rintro upper above ⟨⟨other, held⟩, number⟩ foundUpper reason ⟨refusedUpper, _⟩
    obtain ⟨rfl, _⟩ := (get_elem?_numbered signature values upper other held number).mp foundUpper
    exact fine number above other ⟨held, foundUpper, refusedUpper⟩

theorem exists_refused_iff_misfit (needed : signature.required ≠ [])
    (noMap : Stack.NoMapOnTop ⟨values ++ below⟩)
    (length : values.length = signature.required.length) :
    (∃ fault, Refused signature ⟨values ++ below⟩ fault) ↔
      ∃ level parameter, Misfit signature (values ++ below) level parameter := by
  constructor
  · rintro ⟨fault, refused⟩
    obtain ⟨level, parameter, misfit, _⟩ :=
      (refused_iff_misfit signature values below needed noMap length fault).mp refused
    exact ⟨level, parameter, misfit⟩
  · rintro ⟨level, parameter, misfit⟩
    obtain ⟨value, found, refused⟩ := (misfit_iff signature values below length _ _).mp misfit
    simp only [refused_levels_iff signature needed values below noMap length,
      check_values_error_iff]
    rw [exists_first_at_fault_iff]
    exact ⟨_, List.mem_of_getElem? found, _, refused, rfl⟩

end

theorem exists_refused_map_iff (signature : Signature) (nonempty : signature.isEmpty = false)
    (entries : Dict Value) (rest : List Value) :
    (∃ fault, Refused signature ⟨.map entries :: rest⟩ fault) ↔
      (∃ parameter ∈ signature.required, entries.get? parameter.name = none ∨
        ∃ value, entries.get? parameter.name = some value ∧ parameter.accepts value = false) ∨
      ∃ parameter ∈ signature.optional,
        ∃ value, entries.get? parameter.name = some value ∧ parameter.accepts value = false := by
  have failed : (∃ fault, signature.checkNamed entries = .error fault) ↔
      ¬ signature.checkNamed entries = .ok () := by
    cases signature.checkNamed entries <;> simp
  have unsupplied : ∀ parameter : Parameter,
      (¬ ∃ value, entries.get? parameter.name = some value ∧ parameter.accepts value = true) ↔
        entries.get? parameter.name = none ∨
          ∃ value, entries.get? parameter.name = some value ∧ parameter.accepts value = false := by
    intro parameter
    cases entries.get? parameter.name <;> simp
  have mistyped : ∀ parameter : Parameter,
      (¬ ∀ value, entries.get? parameter.name = some value → parameter.accepts value = true) ↔
        ∃ value, entries.get? parameter.name = some value ∧ parameter.accepts value = false := by
    intro parameter
    cases entries.get? parameter.name <;> simp
  simp only [refused_map_iff signature nonempty]
  rw [failed, check_named_eq_ok_iff, not_and_or]
  simp only [not_forall, exists_prop, unsupplied, ← mistyped]

theorem bind_error_iff_first (signature : Signature) (nonempty : signature.isEmpty = false)
    (before : Stack) :
    (∀ entries rest, before.levels = .map entries :: rest →
      ((∃ fault, Refused signature before fault) ↔
        (∃ parameter ∈ signature.required, entries.get? parameter.name = none ∨
          ∃ value, entries.get? parameter.name = some value ∧ parameter.accepts value = false) ∨
        ∃ parameter ∈ signature.optional,
          ∃ value, entries.get? parameter.name = some value ∧ parameter.accepts value = false) ∧
      ∀ fault, Refused signature before fault ↔
        FirstAtFault (RequiredFault signature.function entries) signature.required fault ∨
        (∀ parameter ∈ signature.required, ∀ reason,
          ¬ RequiredFault signature.function entries parameter reason) ∧
        FirstAtFault (MistypedFault signature.function entries) signature.optional fault) ∧
    (before.NoMapOnTop →
      (signature.required = [] → Refused signature before (.expectedMap signature.function)) ∧
      (before.depth < signature.required.length → Refused signature before
        (.underflow signature.function signature.required.length before.depth)) ∧
      (signature.required ≠ [] → signature.required.length ≤ before.depth →
        ((∃ fault, Refused signature before fault) ↔
          ∃ level parameter, Misfit signature before.levels level parameter) ∧
        ∀ fault, Refused signature before fault ↔
          ∃ level parameter, Misfit signature before.levels level parameter ∧
            (∀ upper < level, ∀ other, ¬ Misfit signature before.levels upper other) ∧
            fault = .positionalType signature.function parameter.name parameter.label level)) ∧
    ((¬ ∃ fault, Refused signature before fault) →
      ∃ arguments after, signature.bind.onStack before = (.ok arguments, after)) := by
  obtain ⟨levels⟩ := before
  refine ⟨?_, ?_, ?_⟩
  · rintro entries rest rfl
    refine ⟨exists_refused_map_iff signature nonempty entries rest, ?_⟩
    intro fault
    rw [refused_map_iff signature nonempty, check_named_error_iff]
  · intro noMap
    refine ⟨?_, ?_, ?_⟩
    · intro optionalOnly
      rw [Refused, signature.on_stack_bind_unnamed nonempty optionalOnly _ noMap]
    · intro few
      rw [Refused, signature.on_stack_bind_short _ noMap few]
    · intro needed enough
      have length : (levels.take signature.required.length).length = signature.required.length :=
        List.length_take_of_le enough
      rw [← List.take_append_drop signature.required.length levels] at noMap ⊢
      exact ⟨exists_refused_iff_misfit signature _ _ needed noMap length,
        refused_iff_misfit signature _ _ needed noMap length⟩
  · intro accepted
    cases run : signature.bind.onStack ⟨levels⟩ with
    | mk outcome after =>
        cases outcome with
        | ok arguments => exact ⟨arguments, after, rfl⟩
        | error fault => exact absurd ⟨fault, congrArg Prod.fst run⟩ accepted

theorem bind_error_iff_first_angle :
    let entries := Dict.ofList [("y", .string "north")]
    Builtin.angleSignature.isEmpty = false ∧
      Refused Builtin.angleSignature ⟨[.map entries]⟩ (.keyType "ATAN2" "y" "NUMBER") ∧
      Stack.NoMapOnTop ⟨[.null, .string "north", .long 7]⟩ ∧
      Refused Builtin.angleSignature ⟨[.null, .string "north", .long 7]⟩
        (.positionalType "ATAN2" "x" "NUMBER" 0) := by
  intro entries
  have nonempty : Builtin.angleSignature.isEmpty = false := rfl
  have noMap : Stack.NoMapOnTop ⟨[.null, .string "north", .long 7]⟩ := by
    intro other top
    exact nomatch top
  obtain ⟨named, _, _⟩ := bind_error_iff_first Builtin.angleSignature nonempty ⟨[.map entries]⟩
  obtain ⟨_, positional, _⟩ :=
    bind_error_iff_first Builtin.angleSignature nonempty ⟨[.null, .string "north", .long 7]⟩
  obtain ⟨_, _, levels⟩ := positional noMap
  refine ⟨nonempty, ?_, noMap, ?_⟩
  · refine ((named entries [] rfl).2 _).mpr (.inl ⟨[], _, _, rfl, ?_, .mistyped (.mistyped rfl rfl)⟩)
    intro other member
    exact nomatch member
  · refine ((levels (List.cons_ne_nil _ _) (by decide)).2 _).mpr
      ⟨0, _, ⟨by decide, rfl, _, rfl, rfl⟩, ?_, rfl⟩
    intro upper above
    exact absurd above (Nat.not_lt_zero upper)

end StackCall
