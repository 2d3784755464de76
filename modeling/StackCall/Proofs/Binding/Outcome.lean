import StackCall.Proofs.Binding.Checks
import StackCall.Proofs.Stack

set_option autoImplicit false

namespace StackCall

def byName (parameters : List Parameter) (values : List Value) : Dict Value :=
  Dict.ofList ((parameters.map Parameter.name).zip values)

theorem detect_map (entries : Dict Value) (rest : List Value) :
    Convention.detect ⟨.map entries :: rest⟩ = .named entries := rfl

theorem detect_no_map (stack : Stack) (noMap : stack.NoMapOnTop) :
    Convention.detect stack = .positional := by
  obtain ⟨levels⟩ := stack
  cases levels with
  | nil => rfl
  | cons top rest =>
      cases top with
      | map entries => exact absurd rfl (noMap entries)
      | _ => rfl

theorem on_stack_take_levels (parameters : List Parameter) (values below : List Value)
    (bound : Dict Value) (length : values.length = parameters.length) :
    (takeLevels parameters bound).onStack ⟨values ++ below⟩ =
      (.ok (((parameters.map Parameter.name).zip values).foldl
        (fun dict entry => dict.insert entry.1 entry.2) bound), ⟨below⟩) := by
  induction parameters generalizing values bound with
  | nil =>
      rw [List.eq_nil_of_length_eq_zero length]
      rfl
  | cons parameter parameters ih =>
      cases values with
      | nil => exact nomatch length
      | cons value values =>
          rw [takeLevels, StackM.on_stack_bind, StackM.on_stack_pop]
          exact ih values (bound.insert parameter.name value) (Nat.succ.inj length)

namespace Signature

inductive Outcome (signature : Signature) : Stack → Except Fault Arguments → Stack → Prop
  | nothing {before : Stack} (empty : signature.isEmpty = true) :
      Outcome signature before (.ok ⟨signature.function, .empty⟩) before
  | named {entries : Dict Value} {rest : List Value} (nonempty : signature.isEmpty = false)
      (checked : signature.checkNamed entries = .ok ()) :
      Outcome signature ⟨.map entries :: rest⟩
        (.ok ⟨signature.function, fillDefaults entries signature.optional⟩) ⟨rest⟩
  | misnamed {entries : Dict Value} {rest : List Value} {fault : Fault}
      (nonempty : signature.isEmpty = false)
      (refused : signature.checkNamed entries = .error fault) :
      Outcome signature ⟨.map entries :: rest⟩ (.error fault) ⟨.map entries :: rest⟩
  | unnamed {before : Stack} (nonempty : signature.isEmpty = false)
      (optionalOnly : signature.required = []) (noMap : before.NoMapOnTop) :
      Outcome signature before (.error (.expectedMap signature.function)) before
  | short {before : Stack} (noMap : before.NoMapOnTop)
      (few : before.depth < signature.required.length) :
      Outcome signature before
        (.error (.underflow signature.function signature.required.length before.depth)) before
  | positional {values below : List Value} (needed : signature.required ≠ [])
      (noMap : Stack.NoMapOnTop ⟨values ++ below⟩)
      (length : values.length = signature.required.length)
      (checked : checkValues signature.function 0 signature.required.reverse values = .ok ()) :
      Outcome signature ⟨values ++ below⟩
        (.ok ⟨signature.function,
          fillDefaults (byName signature.required.reverse values) signature.optional⟩) ⟨below⟩
  | misfit {values below : List Value} {fault : Fault} (needed : signature.required ≠ [])
      (noMap : Stack.NoMapOnTop ⟨values ++ below⟩)
      (length : values.length = signature.required.length)
      (refused : checkValues signature.function 0 signature.required.reverse values =
        .error fault) :
      Outcome signature ⟨values ++ below⟩ (.error fault) ⟨values ++ below⟩

variable (signature : Signature)

theorem is_empty_of_required (needed : signature.required ≠ []) : signature.isEmpty = false := by
  simp [Declaration.isEmpty, needed]

theorem values_ne_nil {values : List Value} (needed : signature.required ≠ [])
    (length : values.length = signature.required.length) : values ≠ [] := by
  apply List.ne_nil_of_length_pos
  rw [length]
  exact List.length_pos_iff.mpr needed

theorem on_stack_bind_nothing (empty : signature.isEmpty = true) (before : Stack) :
    signature.bind.onStack before = (.ok ⟨signature.function, .empty⟩, before) := by
  rw [bind, if_pos empty, StackM.on_stack_pure]

theorem on_stack_bind_some (nonempty : signature.isEmpty = false) (before : Stack) :
    signature.bind.onStack before =
      match (signature.takeArguments (Convention.detect before)).onStack before with
      | (.ok values, after) =>
          (.ok ⟨signature.function, fillDefaults values signature.optional⟩, after)
      | (.error fault, after) => (.error fault, after) := by
  have notEmpty : ¬ signature.isEmpty = true := by simp [nonempty]
  rw [bind, if_neg notEmpty, StackM.on_stack_bind, StackM.on_stack_stack]
  simp only [StackM.on_stack_bind]
  cases (signature.takeArguments (Convention.detect before)).onStack before with
  | mk outcome after => cases outcome <;> rfl

theorem on_stack_bind_map (nonempty : signature.isEmpty = false) (entries : Dict Value)
    (rest : List Value) :
    signature.bind.onStack ⟨.map entries :: rest⟩ =
      match signature.checkNamed entries with
      | .ok () => (.ok ⟨signature.function, fillDefaults entries signature.optional⟩, ⟨rest⟩)
      | .error fault => (.error fault, ⟨.map entries :: rest⟩) := by
  rw [signature.on_stack_bind_some nonempty, detect_map, takeArguments, StackM.on_stack_bind,
    StackM.on_stack_of_except]
  cases signature.checkNamed entries with
  | ok _ => rfl
  | error fault => rfl

theorem on_stack_bind_unnamed (nonempty : signature.isEmpty = false)
    (optionalOnly : signature.required = []) (before : Stack) (noMap : before.NoMapOnTop) :
    signature.bind.onStack before = (.error (.expectedMap signature.function), before) := by
  have none : signature.required.isEmpty = true := by rw [optionalOnly, List.isEmpty_nil]
  rw [signature.on_stack_bind_some nonempty, detect_no_map before noMap, takeArguments, if_pos none,
    StackM.on_stack_throw]

theorem on_stack_bind_levels (needed : signature.required ≠ []) (before : Stack)
    (noMap : before.NoMapOnTop) :
    signature.bind.onStack before =
      match (signature.checkPositional).onStack before with
      | (.ok (), after) =>
          match (takeLevels signature.required.reverse .empty).onStack after with
          | (.ok values, rest) =>
              (.ok ⟨signature.function, fillDefaults values signature.optional⟩, rest)
          | (.error fault, rest) => (.error fault, rest)
      | (.error fault, after) => (.error fault, after) := by
  have some : ¬ signature.required.isEmpty = true := by simp [needed]
  rw [signature.on_stack_bind_some (signature.is_empty_of_required needed),
    detect_no_map before noMap, takeArguments, if_neg some, StackM.on_stack_bind]
  cases signature.checkPositional.onStack before with
  | mk outcome after => cases outcome <;> rfl

theorem on_stack_bind_short (before : Stack) (noMap : before.NoMapOnTop)
    (few : before.depth < signature.required.length) :
    signature.bind.onStack before =
      (.error (.underflow signature.function signature.required.length before.depth), before) := by
  have needed : signature.required ≠ [] := List.ne_nil_of_length_pos (Nat.zero_lt_of_lt few)
  rw [signature.on_stack_bind_levels needed before noMap,
    signature.on_stack_check_positional_short before few]

theorem on_stack_bind_positional (needed : signature.required ≠ []) (values below : List Value)
    (noMap : Stack.NoMapOnTop ⟨values ++ below⟩)
    (length : values.length = signature.required.length) :
    signature.bind.onStack ⟨values ++ below⟩ =
      match checkValues signature.function 0 signature.required.reverse values with
      | .ok () =>
          (.ok ⟨signature.function,
            fillDefaults (byName signature.required.reverse values) signature.optional⟩, ⟨below⟩)
      | .error fault => (.error fault, ⟨values ++ below⟩) := by
  have reversed : values.length = signature.required.reverse.length := by
    rw [length, List.length_reverse]
  rw [signature.on_stack_bind_levels needed _ noMap,
    signature.on_stack_check_positional values below length]
  cases checkValues signature.function 0 signature.required.reverse values with
  | error fault => rfl
  | ok _ =>
      simp only [on_stack_take_levels _ values below .empty reversed]
      rfl

theorem on_stack_bind_outcome (before : Stack) :
    signature.Outcome before (signature.bind.onStack before).1
      (signature.bind.onStack before).2 := by
  cases nonempty : signature.isEmpty with
  | true =>
      rw [signature.on_stack_bind_nothing nonempty]
      exact .nothing nonempty
  | false =>
      by_cases noMap : before.NoMapOnTop
      · by_cases optionalOnly : signature.required = []
        · rw [signature.on_stack_bind_unnamed nonempty optionalOnly before noMap]
          exact .unnamed nonempty optionalOnly noMap
        · by_cases few : before.depth < signature.required.length
          · rw [signature.on_stack_bind_short before noMap few]
            exact .short noMap few
          · obtain ⟨levels⟩ := before
            have length : (levels.take signature.required.length).length =
                signature.required.length := List.length_take_of_le (Nat.le_of_not_lt few)
            rw [← List.take_append_drop signature.required.length levels] at noMap ⊢
            rw [signature.on_stack_bind_positional optionalOnly _ _ noMap length]
            cases checked : checkValues signature.function 0 signature.required.reverse
                (levels.take signature.required.length) with
            | ok _ => exact .positional optionalOnly noMap length checked
            | error fault => exact .misfit optionalOnly noMap length checked
      · obtain ⟨entries, found⟩ := not_forall.mp noMap
        obtain ⟨rest, shape⟩ := List.head?_eq_some_iff.mp (not_not.mp found)
        obtain ⟨levels⟩ := before
        cases shape
        rw [signature.on_stack_bind_map nonempty]
        cases checked : signature.checkNamed entries with
        | ok _ => exact .named nonempty checked
        | error fault => exact .misnamed nonempty checked

theorem on_stack_bind_iff (before after : Stack) (outcome : Except Fault Arguments) :
    signature.bind.onStack before = (outcome, after) ↔ signature.Outcome before outcome after := by
  constructor
  · intro run
    have listed := signature.on_stack_bind_outcome before
    rwa [run] at listed
  · intro listed
    cases listed with
    | nothing empty => exact signature.on_stack_bind_nothing empty before
    | named nonempty checked => rw [signature.on_stack_bind_map nonempty, checked]
    | misnamed nonempty refused => rw [signature.on_stack_bind_map nonempty, refused]
    | unnamed nonempty optionalOnly noMap =>
        exact signature.on_stack_bind_unnamed nonempty optionalOnly before noMap
    | short noMap few => exact signature.on_stack_bind_short before noMap few
    | positional needed noMap length checked =>
        rw [signature.on_stack_bind_positional needed _ _ noMap length, checked]
    | misfit needed noMap length refused =>
        rw [signature.on_stack_bind_positional needed _ _ noMap length, refused]

end Signature

end StackCall
