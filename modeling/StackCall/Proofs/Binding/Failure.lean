import StackCall.Builtin
import StackCall.Proofs.Binding.Outcome
import StackCall.Proofs.Binding.Violation

set_option autoImplicit false

namespace StackCall

theorem bind_error_blame (signature : Signature) (before after : Stack) (fault : Fault)
    (failed : signature.bind.onStack before = (.error fault, after)) :
    after = before ∧ ArgumentFault signature.function fault := by
  have listed := (signature.on_stack_bind_iff before after (.error fault)).mp failed
  cases listed with
  | misnamed nonempty refused => exact ⟨rfl, check_named_fault _ _ _ refused⟩
  | unnamed nonempty optionalOnly noMap => exact ⟨rfl, .expectedMap⟩
  | short noMap few => exact ⟨rfl, .underflow _ _⟩
  | misfit needed noMap length refused => exact ⟨rfl, check_values_fault _ _ _ _ _ refused⟩

theorem bind_error_keeps_stack (signature : Signature) (before after : Stack) (fault : Fault)
    (failed : signature.bind.onStack before = (.error fault, after)) :
    after = before ∧ ArgumentFault signature.function fault ∧
      fault.function? = some signature.function ∧ fault.isRecoverable = true ∧
      (∀ level depth, fault ≠ .emptyStack level depth) ∧
      (∀ trouble, fault ≠ .internal trouble) ∧
      (∀ function defect, fault ≠ .configuration function defect) := by
  obtain ⟨same, blame⟩ := bind_error_blame signature before after fault failed
  refine ⟨same, blame, argument_fault_function _ _ blame, argument_fault_recoverable _ _ blame,
    ?_, ?_, ?_⟩
  · intro level depth equal
    cases blame <;> cases equal
  · intro trouble equal
    cases blame <;> cases equal
  · intro function defect equal
    cases blame <;> cases equal

theorem bind_error_keeps_stack_angle :
    let before : Stack := ⟨[.long 1, .string "north", .map .nil]⟩
    let fault : Fault := .positionalType "ATAN2" "y" "NUMBER" 1
    Builtin.angleSignature.bind.onStack before = (.error fault, before) ∧
      ArgumentFault "ATAN2" fault ∧ fault.function? = some "ATAN2" ∧
      fault.isRecoverable = true := by
  intro before fault
  have run : Builtin.angleSignature.bind.onStack before = (.error fault, before) := rfl
  obtain ⟨_, blame, function, recoverable, _⟩ :=
    bind_error_keeps_stack Builtin.angleSignature before before fault run
  exact ⟨run, blame, function, recoverable⟩

end StackCall
