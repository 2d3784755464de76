import Mathlib.Data.List.Forall2
import StackCall.Binding

set_option autoImplicit false

namespace StackCall

def Fits (parameters : List Parameter) (values : List Value) : Prop :=
  List.Forall₂ (fun parameter value => parameter.accepts value = true) parameters values

theorem fits_iff_get_elem (parameters : List Parameter) (values : List Value)
    (length : values.length = parameters.length) :
    Fits parameters values ↔
      ∀ (index : Nat) (declared : index < parameters.length), ∃ value,
        values[index]? = some value ∧ parameters[index].accepts value = true := by
  rw [Fits, List.forall₂_iff_get]
  constructor
  · rintro ⟨_, accepted⟩ index declared
    have bound : index < values.length := length ▸ declared
    exact ⟨values[index], List.getElem?_eq_getElem bound, accepted index declared bound⟩
  · intro accepted
    refine ⟨length.symm, ?_⟩
    intro index declared bound
    obtain ⟨value, found, accepts⟩ := accepted index declared
    cases (List.getElem?_eq_getElem bound).symm.trans found
    exact accepts

def checkValues (function : String) : Nat → List Parameter → List Value → Except Fault Unit
  | level, parameter :: parameters, value :: values =>
      if parameter.accepts value then checkValues function (level + 1) parameters values
      else .error (.positionalType function parameter.name parameter.label level)
  | _, _, _ => .ok ()

-- The levels in `above` have been checked already, so the induction moves one value there.
theorem on_stack_check_levels (function : String) (parameters : List Parameter)
    (above values below : List Value) (length : values.length = parameters.length) :
    (checkLevels function above.length parameters).onStack ⟨above ++ (values ++ below)⟩ =
      (checkValues function above.length parameters values, ⟨above ++ (values ++ below)⟩) := by
  induction parameters generalizing above values with
  | nil => rw [checkLevels, StackM.on_stack_pure]; cases values <;> rfl
  | cons parameter parameters ih =>
      cases values with
      | nil => exact nomatch length
      | cons value values =>
          have found : Stack.get above.length ⟨above ++ (value :: values ++ below)⟩ = .ok value := by
            simp [Stack.get]
          rw [checkLevels, checkValues, StackM.on_stack_bind, StackM.on_stack_get, found]
          by_cases accepted : parameter.accepts value = true
          · rw [if_pos accepted]
            have step := ih (above ++ [value]) values (Nat.succ.inj length)
            simpa [accepted] using step
          · rw [if_neg accepted]
            simp only [if_neg accepted, StackM.on_stack_throw]

theorem check_values_eq_ok_iff (function : String) (level : Nat) (parameters : List Parameter)
    (values : List Value) (length : values.length = parameters.length) :
    checkValues function level parameters values = .ok () ↔ Fits parameters values := by
  induction parameters generalizing level values with
  | nil =>
      rw [List.eq_nil_of_length_eq_zero length]
      exact iff_of_true rfl .nil
  | cons parameter parameters ih =>
      cases values with
      | nil => exact nomatch length
      | cons value values =>
          rw [Fits, List.forall₂_cons, checkValues]
          by_cases accepted : parameter.accepts value = true
          · rw [if_pos accepted, ih (level + 1) values (Nat.succ.inj length), Fits]
            simp only [accepted, true_and]
          · rw [if_neg accepted]
            simp only [accepted, false_and, reduceCtorEq]

namespace Declaration

variable (declaration : Declaration)

theorem on_stack_check_positional_short (before : Stack)
    (few : before.depth < declaration.required.length) :
    declaration.checkPositional.onStack before =
      (.error (.underflow declaration.function declaration.required.length before.depth),
        before) := by
  rw [checkPositional, StackM.on_stack_bind, StackM.on_stack_depth]
  simp only [if_pos few, StackM.on_stack_throw]

theorem on_stack_check_positional (values below : List Value)
    (length : values.length = declaration.required.length) :
    declaration.checkPositional.onStack ⟨values ++ below⟩ =
      (checkValues declaration.function 0 declaration.required.reverse values,
        ⟨values ++ below⟩) := by
  have enough : ¬ Stack.depth ⟨values ++ below⟩ < declaration.required.length := by
    rw [Stack.depth, List.length_append]
    omega
  have reversed : values.length = declaration.required.reverse.length := by
    rw [length, List.length_reverse]
  rw [checkPositional, StackM.on_stack_bind, StackM.on_stack_depth]
  simp only [if_neg enough]
  exact on_stack_check_levels declaration.function declaration.required.reverse [] values below
    reversed

theorem check_positional_eq_ok_iff (levels : List Value) :
    (declaration.checkPositional.onStack ⟨levels⟩).1 = .ok () ↔
      declaration.required.length ≤ levels.length ∧
        Fits declaration.required.reverse (levels.take declaration.required.length) := by
  by_cases few : levels.length < declaration.required.length
  · rw [declaration.on_stack_check_positional_short ⟨levels⟩ few]
    simp [Nat.not_le.mpr few]
  · have enough := Nat.le_of_not_lt few
    have length := List.length_take_of_le enough
    have split := List.take_append_drop declaration.required.length levels
    have checks := declaration.on_stack_check_positional _
      (levels.drop declaration.required.length) length
    rw [split] at checks
    rw [checks, check_values_eq_ok_iff _ _ _ _ (by rw [length, List.length_reverse])]
    simp [enough]

end Declaration

theorem check_required_eq_ok_iff (function : String) (entries : Dict Value)
    (required : List Parameter) :
    checkRequired function entries required = .ok () ↔
      ∀ parameter ∈ required, ∃ value,
        entries.get? parameter.name = some value ∧ parameter.accepts value = true := by
  induction required with
  | nil => simp [checkRequired]
  | cons parameter rest ih =>
      rw [checkRequired, List.forall_mem_cons]
      cases found : entries.get? parameter.name with
      | none => simp
      | some value =>
          by_cases accepted : parameter.accepts value = true
          · simp [accepted, ih]
          · simp [accepted]

theorem check_optional_eq_ok_iff (function : String) (entries : Dict Value)
    (optional : List Parameter) :
    checkOptional function entries optional = .ok () ↔
      ∀ parameter ∈ optional, ∀ value,
        entries.get? parameter.name = some value → parameter.accepts value = true := by
  induction optional with
  | nil => simp [checkOptional]
  | cons parameter rest ih =>
      rw [checkOptional, List.forall_mem_cons]
      cases found : entries.get? parameter.name with
      | none => simp [ih]
      | some value =>
          by_cases accepted : parameter.accepts value = true
          · simp [accepted, ih]
          · simp [accepted]

theorem check_named_eq_ok_iff (declaration : Declaration) (entries : Dict Value) :
    declaration.checkNamed entries = .ok () ↔
      (∀ parameter ∈ declaration.required, ∃ value,
        entries.get? parameter.name = some value ∧ parameter.accepts value = true) ∧
      (∀ parameter ∈ declaration.optional, ∀ value,
        entries.get? parameter.name = some value → parameter.accepts value = true) := by
  rw [← check_required_eq_ok_iff declaration.function,
    ← check_optional_eq_ok_iff declaration.function,
    Declaration.checkNamed]
  cases checkRequired declaration.function entries declaration.required with
  | ok _ => simp [bind, Except.bind]
  | error fault => simp [bind, Except.bind]

inductive ArgumentFault (function : String) : Fault → Prop
  | underflow (required available : Nat) :
      ArgumentFault function (.underflow function required available)
  | positionalType (argument expected : String) (level : Nat) :
      ArgumentFault function (.positionalType function argument expected level)
  | missingKey (key expected : String) : ArgumentFault function (.missingKey function key expected)
  | keyType (key expected : String) : ArgumentFault function (.keyType function key expected)
  | expectedMap : ArgumentFault function (.expectedMap function)

theorem argument_fault_function (function : String) (fault : Fault)
    (blame : ArgumentFault function fault) : fault.function? = some function := by
  cases blame <;> rfl

theorem argument_fault_recoverable (function : String) (fault : Fault)
    (blame : ArgumentFault function fault) : fault.isRecoverable = true := by
  cases blame <;> rfl

end StackCall
