import StackCall.Builtin
import StackCall.Proofs.Binding.Outcome

set_option autoImplicit false

namespace StackCall

def Stack.hasMapOnTop (stack : Stack) : Bool := stack.levels.head?.any Value.isMap

theorem Stack.no_map_on_top_iff (stack : Stack) :
    stack.NoMapOnTop ↔ stack.hasMapOnTop = false := by
  obtain ⟨levels⟩ := stack
  cases levels with
  | nil => simp [NoMapOnTop, hasMapOnTop]
  | cons top rest => cases top <;> simp [NoMapOnTop, hasMapOnTop, Value.isMap]

theorem Stack.no_map_on_top_front {values rest : List Value} (nonempty : values ≠ [])
    (noMap : NoMapOnTop ⟨values ++ rest⟩) (below : List Value) : NoMapOnTop ⟨values ++ below⟩ := by
  cases values with
  | nil => exact absurd rfl nonempty
  | cons value values => exact noMap

namespace Signature

variable (signature : Signature)

def reach (stack : Stack) : Nat :=
  if signature.isEmpty then 0
  else if signature.required.isEmpty || stack.hasMapOnTop then 1
  else signature.required.length

theorem reach_nothing (empty : signature.isEmpty = true) (stack : Stack) :
    signature.reach stack = 0 := by
  rw [reach, if_pos empty]

theorem reach_map (nonempty : signature.isEmpty = false) (entries : Dict Value)
    (rest : List Value) : signature.reach ⟨.map entries :: rest⟩ = 1 := by
  simp [reach, nonempty, Stack.hasMapOnTop, Value.isMap]

theorem reach_unnamed (nonempty : signature.isEmpty = false)
    (optionalOnly : signature.required = []) (stack : Stack) : signature.reach stack = 1 := by
  simp [reach, nonempty, optionalOnly]

theorem reach_levels (needed : signature.required ≠ []) (stack : Stack)
    (noMap : stack.NoMapOnTop) : signature.reach stack = signature.required.length := by
  have plain := stack.no_map_on_top_iff.mp noMap
  simp [reach, signature.is_empty_of_required needed, needed, plain]

theorem reach_pos (nonempty : signature.isEmpty = false) (stack : Stack) :
    0 < signature.reach stack := by
  by_cases needed : signature.required = []
  · simp [signature.reach_unnamed nonempty needed]
  · have some := List.length_pos_iff.mpr needed
    cases mapped : stack.hasMapOnTop <;> simp [reach, nonempty, needed, mapped, some]

theorem reach_take (levels : List Value) :
    signature.reach ⟨levels.take (signature.reach ⟨levels⟩)⟩ = signature.reach ⟨levels⟩ := by
  cases empty : signature.isEmpty with
  | true => rw [signature.reach_nothing empty, signature.reach_nothing empty]
  | false =>
      cases levels with
      | nil => rw [List.take_nil]
      | cons top rest =>
          have some := signature.reach_pos empty ⟨top :: rest⟩
          obtain ⟨count, positive⟩ := Nat.exists_eq_succ_of_ne_zero (Nat.ne_of_gt some)
          rw [positive, List.take_succ_cons, ← positive]
          rfl

def taken (most : Nat) : Except Fault Arguments → Nat
  | .ok _ => most
  | .error _ => 0

theorem outcome_append {top : List Value} {after : Stack} {outcome : Except Fault Arguments}
    (exact : top.length = signature.reach ⟨top⟩)
    (listed : signature.Outcome ⟨top⟩ outcome after) (below : List Value) :
    signature.Outcome ⟨top ++ below⟩ outcome
      ⟨(top ++ below).drop (taken (signature.reach ⟨top⟩) outcome)⟩ := by
  rw [← exact]
  cases listed with
  | nothing empty =>
      rw [signature.reach_nothing empty] at exact
      rw [List.eq_nil_of_length_eq_zero exact]
      exact .nothing empty
  | @named entries rest nonempty checked =>
      rw [signature.reach_map nonempty] at exact
      rw [List.eq_nil_of_length_eq_zero (Nat.succ.inj exact)]
      exact .named nonempty checked
  | misnamed nonempty refused => exact .misnamed nonempty refused
  | unnamed nonempty optionalOnly noMap =>
      refine .unnamed nonempty optionalOnly ?_
      cases top with
      | nil => cases exact.trans (signature.reach_unnamed nonempty optionalOnly _)
      | cons value rest => exact noMap
  | short noMap few =>
      have needed := List.ne_nil_of_length_pos (Nat.zero_lt_of_lt few)
      rw [signature.reach_levels needed _ noMap] at exact
      exact absurd exact (Nat.ne_of_lt few)
  | @positional values rest needed noMap length checked =>
      rw [signature.reach_levels needed _ noMap, List.length_append, length] at exact
      have nothing : rest = [] := List.eq_nil_of_length_eq_zero (by omega)
      subst nothing
      have some := signature.values_ne_nil needed length
      rw [List.append_nil, taken, List.drop_left]
      exact .positional needed (Stack.no_map_on_top_front some noMap below) length checked
  | @misfit values rest _ needed noMap length refused =>
      have some := signature.values_ne_nil needed length
      rw [List.append_assoc]
      exact .misfit needed (Stack.no_map_on_top_front some noMap _) length refused

theorem on_stack_bind_append (top : List Value) (exact : top.length = signature.reach ⟨top⟩) :
    ∃ outcome, ∀ below, signature.bind.onStack ⟨top ++ below⟩ =
      (outcome, ⟨(top ++ below).drop (taken (signature.reach ⟨top⟩) outcome)⟩) := by
  refine ⟨(signature.bind.onStack ⟨top⟩).1, ?_⟩
  intro below
  rw [on_stack_bind_iff]
  exact signature.outcome_append exact (signature.on_stack_bind_outcome ⟨top⟩) below

end Signature

theorem bind_reads_reach (signature : Signature) (first second : Stack)
    (firstDeep : signature.reach first ≤ first.depth)
    (secondDeep : signature.reach first ≤ second.depth)
    (agree : first.levels.take (signature.reach first) =
      second.levels.take (signature.reach first)) :
    (signature.bind.onStack first).1 = (signature.bind.onStack second).1 ∧
      ∃ taken, taken ≤ signature.reach first ∧
        (signature.bind.onStack first).2.levels = first.levels.drop taken ∧
        (signature.bind.onStack second).2.levels = second.levels.drop taken ∧
        (∀ arguments, (signature.bind.onStack first).1 = .ok arguments →
          taken = signature.reach first) ∧
        ∀ fault, (signature.bind.onStack first).1 = .error fault → taken = 0 := by
  obtain ⟨levels⟩ := first
  obtain ⟨others⟩ := second
  have length : (levels.take (signature.reach ⟨levels⟩)).length = signature.reach ⟨levels⟩ :=
    List.length_take_of_le firstDeep
  have same := signature.reach_take levels
  obtain ⟨outcome, run⟩ := signature.on_stack_bind_append _ (length.trans same.symm)
  have firstRun := run (levels.drop (signature.reach ⟨levels⟩))
  have secondRun := run (others.drop (signature.reach ⟨levels⟩))
  rw [List.take_append_drop, same] at firstRun
  rw [agree, List.take_append_drop, ← agree, same] at secondRun
  rw [firstRun, secondRun]
  refine ⟨rfl, Signature.taken (signature.reach ⟨levels⟩) outcome, ?_, rfl, rfl, ?_, ?_⟩
  · cases outcome with
    | ok arguments => exact Nat.le_refl _
    | error fault => exact Nat.zero_le _
  · rintro arguments rfl
    rfl
  · rintro fault rfl
    rfl

theorem bind_reads_reach_angle :
    let first : Stack := ⟨[.long 1, .string "north", .map .nil, .null]⟩
    let second : Stack := ⟨[.long 1, .string "north"]⟩
    let fault : Fault := .positionalType "ATAN2" "y" "NUMBER" 1
    Builtin.angleSignature.reach first = 2 ∧ first.levels.take 2 = second.levels.take 2 ∧
      Builtin.angleSignature.bind.onStack second = (.error fault, second) ∧
      Builtin.angleSignature.bind.onStack first = (.error fault, first) := by
  intro first second fault
  have run : Builtin.angleSignature.bind.onStack second = (.error fault, second) := rfl
  have deep : 2 ≤ first.depth := by decide
  obtain ⟨same, taken, _, left, _, _, nothing⟩ :=
    bind_reads_reach Builtin.angleSignature first second deep (Nat.le_refl 2) rfl
  rw [run] at same
  rw [nothing fault same, List.drop_zero] at left
  exact ⟨rfl, rfl, run, Prod.ext same (congrArg Stack.mk left)⟩

end StackCall
