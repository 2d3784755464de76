import StackCall.Builtin
import StackCall.Proofs.Binding.Bound

set_option autoImplicit false

namespace StackCall

variable (signature : Signature) (stack : Stack)

theorem check_named_by_name_iff (values : List Value)
    (length : values.length = signature.required.length) :
    signature.checkNamed (byName signature.required values) = .ok () ↔
      Fits signature.required values :=
  signature.toDeclaration.check_named_by_name_iff signature.well_formed.distinct values length

theorem on_stack_bind_push_all (values : List Value) (needed : signature.required ≠ [])
    (length : values.length = signature.required.length)
    (noMap : ∀ entries, values.getLast? ≠ some (.map entries)) :
    signature.bind.onStack (stack.pushAll values) =
      match checkValues signature.function 0 signature.required.reverse values.reverse with
      | .ok () => (.ok ⟨signature.function,
          fillDefaults (byName signature.required values) signature.optional⟩, stack)
      | .error fault => (.error fault, stack.pushAll values) := by
  have some := signature.values_ne_nil needed length
  have reversed : values.reverse.length = signature.required.length := by
    rw [List.length_reverse, length]
  have run := signature.on_stack_bind_positional needed values.reverse stack.levels
    ((Stack.no_map_on_top_append values stack.levels some).mpr noMap) reversed
  rw [by_name_reverse signature.required values.reverse signature.well_formed.required_distinct
    reversed, List.reverse_reverse] at run
  rw [Stack.push_all_eq]
  exact run

theorem on_stack_bind_push_all_fits (values : List Value) (needed : signature.required ≠ [])
    (fits : Fits signature.required values)
    (noMap : ∀ entries, values.getLast? ≠ some (.map entries)) :
    signature.bind.onStack (stack.pushAll values) =
      (.ok ⟨signature.function,
        fillDefaults (byName signature.required values) signature.optional⟩, stack) := by
  have length : values.length = signature.required.length := fits.length_eq.symm
  have checked : checkValues signature.function 0 signature.required.reverse values.reverse =
      .ok () := by
    refine (check_values_eq_ok_iff _ _ _ _ ?_).mpr (List.forall₂_reverse_iff.mpr fits)
    rw [List.length_reverse, List.length_reverse, length]
  rw [on_stack_bind_push_all signature stack values needed length noMap, checked]

theorem on_stack_bind_push_map (nonempty : signature.isEmpty = false) (entries : Dict Value)
    (checked : signature.checkNamed entries = .ok ()) :
    signature.bind.onStack (stack.push (.map entries)) =
      (.ok ⟨signature.function, fillDefaults entries signature.optional⟩, stack) := by
  rw [Stack.push, signature.on_stack_bind_map nonempty, checked]

theorem bind_ok_fits (values : List Value) (arguments : Arguments) (after : Stack)
    (needed : signature.required ≠ []) (length : values.length = signature.required.length)
    (noMap : ∀ entries, values.getLast? ≠ some (.map entries))
    (succeeded : signature.bind.onStack (stack.pushAll values) = (.ok arguments, after)) :
    Fits signature.required values := by
  have reversed : values.reverse.length = signature.required.length := by
    rw [List.length_reverse, length]
  rw [on_stack_bind_push_all signature stack values needed length noMap] at succeeded
  cases checked : checkValues signature.function 0 signature.required.reverse values.reverse with
  | error fault =>
      rw [checked] at succeeded
      cases succeeded
  | ok _ =>
      have fits := fits_reverse signature values.reverse reversed checked
      rwa [List.reverse_reverse] at fits

theorem bind_ok_checked (entries : Dict Value) (arguments : Arguments) (after : Stack)
    (nonempty : signature.isEmpty = false)
    (succeeded : signature.bind.onStack (stack.push (.map entries)) = (.ok arguments, after)) :
    signature.checkNamed entries = .ok () := by
  rw [Stack.push, signature.on_stack_bind_map nonempty] at succeeded
  cases checked : signature.checkNamed entries with
  | ok _ => rfl
  | error fault =>
      rw [checked] at succeeded
      cases succeeded

theorem size_of_get?_lt {bound : Option String} (entries : Entries Value bound) (name : String)
    (value : Value) (found : entries.get? name = some value) : sizeOf value < sizeOf entries := by
  cases entries with
  | nil => exact nomatch found
  | cons key above held rest =>
      rw [Entries.cons.sizeOf_spec]
      rw [Entries.get?] at found
      by_cases same : name = key
      · rw [if_pos same] at found
        cases found
        omega
      · rw [if_neg same] at found
        have smaller := size_of_get?_lt rest name value found
        omega

theorem get?_ne_self (entries : Dict Value) (name : String) :
    entries.get? name ≠ some (.map entries) := by
  intro found
  have smaller := size_of_get?_lt entries name (.map entries) found
  rw [Value.map.sizeOf_spec] at smaller
  omega

-- A map as the last value is taken alone and read by name. Either other values are left on the
-- stack, or its only argument is found inside the map and so is not the map.
theorem bind_trailing_map (values : List Value) (entries : Dict Value) (arguments : Arguments)
    (needed : signature.required ≠ []) (length : values.length = signature.required.length)
    (last : values.getLast? = some (.map entries))
    (succeeded : signature.bind.onStack (stack.pushAll values) = (.ok arguments, stack)) :
    ∃ (index : Nat) (declared : index < signature.required.length),
      arguments.get? signature.required[index].name ≠ values[index]? := by
  have nonempty := signature.is_empty_of_required needed
  obtain ⟨front, rfl⟩ := List.getLast?_eq_some_iff.mp last
  have shape : stack.pushAll (front ++ [.map entries]) =
      (⟨front.reverse ++ stack.levels⟩ : Stack).push (.map entries) := by
    rw [Stack.push_all_eq, List.reverse_append]
    rfl
  rw [shape] at succeeded
  have checked := bind_ok_checked signature _ entries arguments stack nonempty succeeded
  have run := on_stack_bind_push_map signature ⟨front.reverse ++ stack.levels⟩ nonempty entries
    checked
  have result := run.symm.trans succeeded
  have alone : front = [] := by
    have sameLevels : (front.reverse ++ stack.levels).length = stack.levels.length :=
      congrArg (fun outcome => outcome.2.levels.length) result
    rw [List.length_append, List.length_reverse] at sameLevels
    apply List.eq_nil_of_length_eq_zero
    omega
  subst front
  have declared : 0 < signature.required.length := by rw [← length]; exact Nat.zero_lt_one
  obtain ⟨required, _⟩ := (check_named_eq_ok_iff signature.toDeclaration entries).mp checked
  obtain ⟨value, found, _⟩ := required signature.required[0] (List.getElem_mem declared)
  refine ⟨0, declared, ?_⟩
  cases Except.ok.inj (congrArg Prod.fst result)
  rw [Arguments.get?, get?_fill_defaults, found, Option.some_or, List.nil_append,
    List.getElem?_cons_zero, ← found]
  exact get?_ne_self entries signature.required[0].name

theorem bind_levels_iff_bind_map (values : List Value) (needed : signature.required ≠ [])
    (length : values.length = signature.required.length)
    (noMap : ∀ entries, values.getLast? ≠ some (.map entries)) :
    let levels := stack.pushAll values
    let named := stack.push (.map (byName signature.required values))
    (∀ arguments after, signature.bind.onStack levels = (.ok arguments, after) ↔
        signature.bind.onStack named = (.ok arguments, after)) ∧
      (∀ arguments after, signature.bind.onStack levels = (.ok arguments, after) →
        after = stack) ∧
      ∀ function : Function, function.signature = signature → ∀ arguments after,
        signature.bind.onStack levels = (.ok arguments, after) →
          function.call.onStack levels = function.call.onStack named := by
  intro levels named
  have nonempty := signature.is_empty_of_required needed
  by_cases fits : Fits signature.required values
  · have runLevels := on_stack_bind_push_all_fits signature stack values needed fits noMap
    have runNamed := on_stack_bind_push_map signature stack nonempty _
      ((check_named_by_name_iff signature values length).mpr fits)
    have same : signature.bind.onStack levels = signature.bind.onStack named :=
      runLevels.trans runNamed.symm
    refine ⟨?_, ?_, ?_⟩
    · intro arguments after
      rw [same]
    · intro arguments after succeeded
      exact (congrArg Prod.snd (runLevels.symm.trans succeeded)).symm
    · rintro function rfl arguments after _
      rw [Function.call, StackM.on_stack_bind, StackM.on_stack_bind, same]
  · have refusedLevels : ∀ arguments after,
        signature.bind.onStack levels ≠ (.ok arguments, after) := fun arguments after succeeded =>
      fits (bind_ok_fits signature stack values arguments after needed length noMap succeeded)
    refine ⟨?_, ?_, ?_⟩
    · intro arguments after
      refine iff_of_false (refusedLevels arguments after) ?_
      intro succeeded
      exact fits ((check_named_by_name_iff signature values length).mp
        (bind_ok_checked signature stack _ arguments after nonempty succeeded))
    · intro arguments after succeeded
      exact absurd succeeded (refusedLevels arguments after)
    · intro function _ arguments after succeeded
      exact absurd succeeded (refusedLevels arguments after)

theorem bind_levels_iff_bind_map_angle :
    let stack : Stack := ⟨[.map .nil]⟩
    let values : List Value := [.long 3, .long (-4)]
    let entries : Dict Value := Dict.ofList [("x", .long (-4)), ("y", .long 3)]
    (∀ other, values.getLast? ≠ some (.map other)) ∧
      Builtin.angleSignature.bind.onStack (stack.pushAll values) =
        (.ok ⟨"ATAN2", entries⟩, stack) ∧
      Builtin.angleSignature.bind.onStack (stack.push (.map entries)) =
        (.ok ⟨"ATAN2", entries⟩, stack) ∧
      Builtin.angle.call.onStack (stack.pushAll values) =
        Builtin.angle.call.onStack (stack.push (.map entries)) := by
  intro stack values entries
  have noMap : ∀ other, values.getLast? ≠ some (.map other) := by
    intro other equal
    exact nomatch equal
  have run : Builtin.angleSignature.bind.onStack (stack.pushAll values) =
      (.ok ⟨"ATAN2", entries⟩, stack) := rfl
  obtain ⟨agree, _, calls⟩ := bind_levels_iff_bind_map Builtin.angleSignature stack values
    (List.cons_ne_nil _ _) rfl noMap
  exact ⟨noMap, run, (agree ⟨"ATAN2", entries⟩ stack).mp run,
    calls Builtin.angle rfl ⟨"ATAN2", entries⟩ stack run⟩

end StackCall
