import StackCall.Builtin
import StackCall.Proofs.Binding.Conventions
import StackCall.Proofs.Binding.Getters

set_option autoImplicit false

namespace StackCall

structure Arguments.Resolve (arguments : Arguments) (signature : Signature) : Prop where
  function : arguments.function = signature.function
  accepted : ∀ parameter ∈ signature.parameters, ∃ value,
    arguments.get? parameter.name = some value ∧ parameter.accepts value = true

theorem bind_ok_resolve (signature : Signature)
    (sound : ∀ parameter ∈ signature.parameters, ∀ value,
      parameter.default? = some value → parameter.accepts value = true)
    (before after : Stack) (arguments : Arguments)
    (succeeded : signature.bind.onStack before = (.ok arguments, after)) :
    arguments.Resolve signature := by
  refine ⟨(bind_ok_bound signature before after arguments succeeded).1, ?_⟩
  intro parameter member
  obtain ⟨_, value, bound, origin⟩ :=
    bind_ok_origin signature parameter member before after arguments succeeded
  refine ⟨value, bound, ?_⟩
  rcases origin with accepted | ⟨default, _⟩
  · exact accepted
  · exact sound parameter member value default

theorem fill_defaults_of_contains (values : Dict Value) (optional : List Parameter)
    (present : ∀ parameter ∈ optional, values.contains parameter.name = true) :
    fillDefaults values optional = values := by
  apply Entries.ext
  intro name
  rw [get?_fill_defaults]
  cases found : values.get? name with
  | some value => rfl
  | none =>
      refine default_of_eq_none optional name ?_
      intro declared
      obtain ⟨parameter, member, rfl⟩ := List.mem_map.mp declared
      have holds := present parameter member
      rw [Entries.contains, found] at holds
      cases holds

section

variable {signature : Signature} {arguments : Arguments} (resolved : arguments.Resolve signature)
include resolved

theorem Arguments.Resolve.checked : signature.checkNamed arguments.values = .ok () := by
  rw [check_named_eq_ok_iff]
  constructor
  · intro parameter required
    exact resolved.accepted parameter (List.mem_append_left _ required)
  · intro parameter optional value found
    obtain ⟨held, holds, accepted⟩ :=
      resolved.accepted parameter (List.mem_append_right _ optional)
    cases found.symm.trans holds
    exact accepted

theorem Arguments.Resolve.contains : ∀ parameter ∈ signature.optional,
    arguments.values.contains parameter.name = true := by
  intro parameter optional
  obtain ⟨value, bound, _⟩ := resolved.accepted parameter (List.mem_append_right _ optional)
  exact Option.isSome_of_eq_some bound

end

theorem bind_resolved (signature : Signature) (nonempty : signature.isEmpty = false)
    (sound : ∀ parameter ∈ signature.parameters, ∀ value,
      parameter.default? = some value → parameter.accepts value = true)
    (before after : Stack) (arguments : Arguments)
    (succeeded : signature.bind.onStack before = (.ok arguments, after)) :
    signature.bind.onStack (after.push (.map arguments.values)) = (.ok arguments, after) ∧
      (∀ parameter ∈ signature.optional, arguments.values.contains parameter.name = true) ∧
      fillDefaults arguments.values signature.optional = arguments.values := by
  have resolved := bind_ok_resolve signature sound before after arguments succeeded
  have filled := fill_defaults_of_contains arguments.values signature.optional resolved.contains
  have again := on_stack_bind_push_map signature after nonempty arguments.values resolved.checked
  rw [filled, ← resolved.function] at again
  exact ⟨again, resolved.contains, filled⟩

theorem bind_resolved_rounding :
    let before : Stack := ⟨[.map (Dict.ofList [("value", .long 7), ("note", .null)]), .null]⟩
    let values : Dict Value :=
      Dict.ofList [("digits", .long 0), ("note", .null), ("value", .long 7)]
    Builtin.roundingSignature.bind.onStack before = (.ok ⟨"ROUND", values⟩, ⟨[.null]⟩) ∧
      Builtin.roundingSignature.bind.onStack ⟨[.map values, .null]⟩ =
        (.ok ⟨"ROUND", values⟩, ⟨[.null]⟩) := by
  intro before values
  have run : Builtin.roundingSignature.bind.onStack before =
      (.ok ⟨"ROUND", values⟩, ⟨[.null]⟩) := rfl
  have sound : ∀ parameter ∈ Builtin.roundingSignature.parameters, ∀ value,
      parameter.default? = some value → parameter.accepts value = true := by
    intro parameter member value default
    simp only [Builtin.roundingSignature, Declaration.parameters, List.cons_append, List.nil_append,
      List.mem_cons, List.not_mem_nil, or_false] at member
    rcases member with rfl | rfl
    · cases default
    · cases default
      rfl
  exact ⟨run, (bind_resolved Builtin.roundingSignature rfl sound before ⟨[.null]⟩ _ run).1⟩

end StackCall
