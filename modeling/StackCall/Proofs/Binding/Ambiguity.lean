import StackCall.Proofs.Binding.Names

set_option autoImplicit false

namespace StackCall

namespace Kind

theorem accepts_map (kind : Kind) (entries : Dict Value) :
    kind.accepts (.map entries) = kind.acceptsMap := by
  cases kind <;> rfl

def sample : Kind → Value
  | .any => .null
  | .number | .long => .long 0
  | .double => .double 0
  | .boolean => .bool false
  | .string => .string ""
  | .list => .list []
  | .map => .map .nil

theorem accepts_sample (kind : Kind) : kind.accepts kind.sample = true := by
  cases kind <;> rfl

end Kind

namespace Declaration

structure Coherent (declaration : Declaration) : Prop where
  named : ∀ parameter ∈ declaration.parameters, parameter.name ≠ ""
  distinct : (declaration.parameters.map Parameter.name).Nodup
  required : ∀ parameter ∈ declaration.required, parameter.default? = none
  optional : ∀ parameter ∈ declaration.optional, ∃ value, parameter.default? = some value

-- The map on top passes as the arguments by name, and the top levels as the arguments in order.
structure ReadBothWays (declaration : Declaration) (stack : Stack) : Prop where
  named : ∃ entries, stack.levels.head? = some (.map entries) ∧
    declaration.checkNamed entries = .ok ()
  positional : (declaration.checkPositional.onStack stack).1 = .ok ()

theorem well_formed_iff (declaration : Declaration) (coherent : declaration.Coherent)
    (several : 1 < declaration.required.length) (choice : declaration.optional ≠ []) :
    declaration.WellFormed ↔
      ∀ last, declaration.required.getLast? = some last → last.kind.acceptsMap = false := by
  constructor
  · intro formed
    exact formed.unambiguous several choice
  · intro unambiguous
    exact ⟨coherent.named, coherent.distinct, coherent.required, coherent.optional,
      fun _ _ => unambiguous⟩

variable {declaration : Declaration}

theorem accepts_map_of_read_both_ways {stack : Stack} {last : Parameter}
    (declared : declaration.required.getLast? = some last)
    (both : declaration.ReadBothWays stack) : last.kind.acceptsMap = true := by
  obtain ⟨levels⟩ := stack
  obtain ⟨entries, top, _⟩ := both.named
  obtain ⟨rest, rfl⟩ := List.head?_eq_some_iff.mp top
  obtain ⟨_, fits⟩ := (declaration.check_positional_eq_ok_iff _).mp both.positional
  obtain ⟨front, split⟩ := List.getLast?_eq_some_iff.mp declared
  rw [split, List.reverse_append, List.length_append, List.length_singleton, List.take_succ_cons,
    List.reverse_singleton, List.singleton_append, Fits, List.forall₂_cons] at fits
  rw [← Kind.accepts_map last.kind entries]
  exact fits.1

def samples (parameters : List Parameter) : List Value :=
  parameters.map fun parameter => parameter.kind.sample

theorem fits_samples (parameters : List Parameter) : Fits parameters (samples parameters) := by
  rw [Fits, samples, List.forall₂_map_right_iff, List.forall₂_same]
  intro parameter _
  exact parameter.kind.accepts_sample

-- Values of all other arguments, and on top a map that has one for every name.
def clash (declaration : Declaration) : Stack :=
  Stack.push (.map (byName declaration.required (samples declaration.required)))
    (Stack.ofList (samples declaration.required.dropLast))

theorem clash_read_both_ways (coherent : declaration.Coherent) {last : Parameter}
    (declared : declaration.required.getLast? = some last)
    (accepted : last.kind.acceptsMap = true) : declaration.ReadBothWays declaration.clash := by
  constructor
  · refine ⟨_, rfl, ?_⟩
    have length : (samples declaration.required).length = declaration.required.length :=
      List.length_map _
    rw [declaration.check_named_by_name_iff coherent.distinct _ length]
    exact fits_samples declaration.required
  · obtain ⟨front, split⟩ := List.getLast?_eq_some_iff.mp declared
    rw [clash, Stack.push, Stack.ofList, check_positional_eq_ok_iff, split]
    have length : (samples front).length = front.length := List.length_map _
    have top : last.accepts (.map (byName (front ++ [last]) (samples (front ++ [last])))) = true :=
      (last.kind.accepts_map _).trans accepted
    have rest : Fits front.reverse (samples front).reverse :=
      List.forall₂_reverse_iff.mpr (fits_samples front)
    have whole : (samples front).reverse.take front.length = (samples front).reverse :=
      List.take_of_length_le (by simp [length])
    rw [Fits] at rest
    simp [length, Fits, top, whole, rest]

theorem validate_iff_not_read_both_ways (declaration : Declaration)
    (several : 1 < declaration.required.length) (choice : declaration.optional ≠ [])
    (coherent : declaration.Coherent) :
    declaration.validate = .ok () ↔ ¬ ∃ stack, declaration.ReadBothWays stack := by
  rw [validate_eq_ok_iff, well_formed_iff declaration coherent several choice]
  constructor
  · rintro unambiguous ⟨stack, both⟩
    have nonempty : declaration.required ≠ [] := List.ne_nil_of_length_pos (by omega)
    have declared := List.getLast?_eq_some_getLast nonempty
    have accepted := accepts_map_of_read_both_ways declared both
    rw [unambiguous _ declared] at accepted
    cases accepted
  · intro none last declared
    cases accepted : last.kind.acceptsMap with
    | false => rfl
    | true => exact absurd ⟨_, clash_read_both_ways coherent declared accepted⟩ none

def extending (required : List Parameter) : Declaration where
  function := "EXTEND"
  required := required
  optional := [⟨"strict", .boolean, "Whether a taken key is an error.", some (.bool false), none⟩]

theorem validate_iff_not_read_both_ways_extending :
    let target : Parameter := ⟨"target", .map, "Map to extend.", none, none⟩
    let key : Parameter := ⟨"key", .string, "Key to add.", none, none⟩
    let sound := extending [target, key]
    let unsound := extending [key, target]
    let stack : Stack := ⟨[.map (Dict.ofList [("target", .map .nil), ("key", .string "a")]),
      .string "b"]⟩
    sound.Coherent ∧ unsound.Coherent ∧ (¬ ∃ other, sound.ReadBothWays other) ∧
      unsound.ReadBothWays stack ∧ unsound.validate ≠ .ok () := by
  intro target key sound unsound stack
  have soundRules : sound.Coherent := by
    constructor <;> simp [parameters, sound, extending, target, key]
  have unsoundRules : unsound.Coherent := by
    constructor <;> simp [parameters, unsound, extending, target, key]
  have several : 1 < 2 := Nat.one_lt_two
  have both : unsound.ReadBothWays stack := ⟨⟨_, rfl, rfl⟩, rfl⟩
  refine ⟨soundRules, unsoundRules, ?_, both, ?_⟩
  · exact (validate_iff_not_read_both_ways sound several (List.cons_ne_nil _ _) soundRules).mp rfl
  · intro accepted
    exact (validate_iff_not_read_both_ways unsound several (List.cons_ne_nil _ _) unsoundRules).mp
      accepted ⟨stack, both⟩

end Declaration

end StackCall
