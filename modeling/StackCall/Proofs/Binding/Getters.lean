import StackCall.Builtin
import StackCall.Proofs.Binding.Bound

set_option autoImplicit false

namespace StackCall

-- What the getter for numbers makes of a LONG; the others give back what they find.
def Kind.widen : Kind → Value → Value
  | .number, .long n => .double (Float.ofInt n.toInt)
  | _, value => value

namespace Arguments

def read (arguments : Arguments) (name : String) : Kind → Except Fault Value
  | .any => arguments.value name
  | .number => .double <$> arguments.number name
  | .long => .long <$> arguments.long name
  | .double => .double <$> arguments.double name
  | .boolean => .bool <$> arguments.boolean name
  | .string => .string <$> arguments.string name
  | .list => .list <$> arguments.list name
  | .map => .map <$> arguments.map name

theorem map_typed_eq {α : Type} (kind : Kind) (read? : Value → Option α) (wrap : α → Value)
    (arguments : Arguments) (name : String) (value : Value)
    (bound : arguments.get? name = some value) :
    wrap <$> typed kind read? arguments name =
      match read? value with
      | some found => .ok (wrap found)
      | none => .error (.eval (.kindMismatch arguments.function name kind value.typeName)) := by
  simp only [typed, Arguments.value, bound, bind, Except.bind]
  cases read? value <;> rfl

theorem read_eq (arguments : Arguments) (name : String) (kind : Kind) (value : Value)
    (bound : arguments.get? name = some value) :
    arguments.read name kind =
      if kind.accepts value then .ok (kind.widen value)
      else .error (.eval (.kindMismatch arguments.function name kind value.typeName)) := by
  cases kind with
  | any => simp only [read, Arguments.value, bound, Kind.accepts, if_true, Kind.widen]
  | number => exact (map_typed_eq _ _ _ _ _ value bound).trans (by cases value <;> rfl)
  | long => exact (map_typed_eq _ _ _ _ _ value bound).trans (by cases value <;> rfl)
  | double => exact (map_typed_eq _ _ _ _ _ value bound).trans (by cases value <;> rfl)
  | boolean => exact (map_typed_eq _ _ _ _ _ value bound).trans (by cases value <;> rfl)
  | string => exact (map_typed_eq _ _ _ _ _ value bound).trans (by cases value <;> rfl)
  | list => exact (map_typed_eq _ _ _ _ _ value bound).trans (by cases value <;> rfl)
  | map => exact (map_typed_eq _ _ _ _ _ value bound).trans (by cases value <;> rfl)

end Arguments

def Stack.NamedOnTop (stack : Stack) (name : String) : Prop :=
  ∃ entries value, stack.levels.head? = some (.map entries) ∧ entries.get? name = some value

section

variable (signature : Signature) (parameter : Parameter) (member : parameter ∈ signature.parameters)
include member

theorem named_origin (entries : Dict Value) (rest : List Value) (arguments : Arguments)
    (bound : BoundByName signature entries arguments)
    (checked : signature.checkNamed entries = .ok ()) :
    ∃ value, arguments.get? parameter.name = some value ∧
      (parameter.accepts value = true ∨ parameter.default? = some value ∧
        ¬ Stack.NamedOnTop ⟨.map entries :: rest⟩ parameter.name) := by
  cases found : entries.get? parameter.name with
  | some value =>
      exact ⟨value, bound.supplied _ value found, .inl (bound.accepted parameter member value found)⟩
  | none =>
      have optional : parameter ∈ signature.optional := by
        refine (List.mem_append.mp member).resolve_left ?_
        intro required
        obtain ⟨value, holds, _⟩ :=
          ((check_named_eq_ok_iff _ entries).mp checked).1 parameter required
        cases found.symm.trans holds
      obtain ⟨value, default, stands⟩ := bound.defaulted parameter optional found
      refine ⟨value, stands, .inr ⟨default, ?_⟩⟩
      rintro ⟨others, held, top, holds⟩
      cases top
      cases found.symm.trans holds

theorem positional_origin (levels : List Value) (arguments : Arguments)
    (noMap : Stack.NoMapOnTop ⟨levels⟩) (bound : BoundByLevel signature levels arguments) :
    ∃ value, arguments.get? parameter.name = some value ∧
      (parameter.accepts value = true ∨ parameter.default? = some value ∧
        ¬ Stack.NamedOnTop ⟨levels⟩ parameter.name) := by
  rcases List.mem_append.mp member with required | optional
  · obtain ⟨index, declared, rfl⟩ := List.mem_iff_getElem.mp required
    obtain ⟨value, _, accepted, stands⟩ := bound.supplied index declared
    exact ⟨value, stands, .inl accepted⟩
  · obtain ⟨value, default, stands⟩ := bound.defaulted parameter optional
    refine ⟨value, stands, .inr ⟨default, ?_⟩⟩
    rintro ⟨entries, _, top, _⟩
    exact noMap entries top

theorem bind_ok_origin (before after : Stack) (arguments : Arguments)
    (succeeded : signature.bind.onStack before = (.ok arguments, after)) :
    arguments.function = signature.function ∧
      ∃ value, arguments.get? parameter.name = some value ∧
        (parameter.accepts value = true ∨
          parameter.default? = some value ∧ ¬ before.NamedOnTop parameter.name) := by
  have listed := (signature.on_stack_bind_iff before after (.ok arguments)).mp succeeded
  cases listed with
  | nothing empty =>
      obtain ⟨required, optional⟩ := (signature.is_empty_iff).mp empty
      rw [Declaration.parameters, required, optional, List.append_nil] at member
      exact absurd member List.not_mem_nil
  | @named entries rest _ checked =>
      exact ⟨rfl, named_origin signature parameter member entries rest _
        (bound_by_name signature entries checked) checked⟩
  | @positional values below _ noMap length checked =>
      exact ⟨rfl, positional_origin signature parameter member _ _ noMap
        (bound_by_level signature values below length checked)⟩

end

theorem bind_ok_readable (signature : Signature) (before after : Stack) (arguments : Arguments)
    (succeeded : signature.bind.onStack before = (.ok arguments, after)) :
    ∀ parameter ∈ signature.parameters, ∃ value,
      arguments.get? parameter.name = some value ∧
      (parameter.accepts value = true ∨
        parameter.default? = some value ∧ ¬ before.NamedOnTop parameter.name) ∧
      ((∀ default, parameter.default? = some default → parameter.accepts default = true) →
        parameter.accepts value = true) ∧
      (parameter.accepts value = true →
        arguments.read parameter.name parameter.kind = .ok (parameter.kind.widen value)) ∧
      (parameter.accepts value = false →
        arguments.read parameter.name parameter.kind = .error (.eval (.kindMismatch
          signature.function parameter.name parameter.kind value.typeName))) := by
  intro parameter member
  obtain ⟨function, value, bound, origin⟩ :=
    bind_ok_origin signature parameter member before after arguments succeeded
  have read := arguments.read_eq parameter.name parameter.kind value bound
  rw [function] at read
  refine ⟨value, bound, origin, ?_, ?_, ?_⟩
  · intro sound
    rcases origin with accepted | ⟨default, _⟩
    · exact accepted
    · exact sound value default
  · intro accepted
    exact read.trans (if_pos accepted)
  · intro refused
    exact read.trans (if_neg (Bool.eq_false_iff.mp refused))

theorem bind_ok_readable_padding :
    let before : Stack := ⟨[.map (Dict.ofList [("width", .long 3)])]⟩
    let arguments : Arguments := ⟨"PAD",
      Dict.ofList [("fill", .string " "), ("text", .string ""), ("width", .long 3)]⟩
    let width : Parameter := ⟨"width", .long, "Minimum width in characters.", some (.long 8), none⟩
    let fill : Parameter := ⟨"fill", .string, "Single fill character.", some (.string " "), none⟩
    Builtin.paddingSignature.bind.onStack before = (.ok arguments, ⟨[]⟩) ∧
      width ∈ Builtin.paddingSignature.parameters ∧ fill ∈ Builtin.paddingSignature.parameters ∧
      arguments.read "width" .long = .ok (.long 3) ∧
      arguments.read "fill" .string = .ok (.string " ") := by
  intro before arguments width fill
  have run : Builtin.paddingSignature.bind.onStack before = (.ok arguments, ⟨[]⟩) := rfl
  have declaredWidth : width ∈ Builtin.paddingSignature.parameters := .tail _ (.head _)
  have declaredFill : fill ∈ Builtin.paddingSignature.parameters := .tail _ (.tail _ (.head _))
  have readable := bind_ok_readable Builtin.paddingSignature before ⟨[]⟩ arguments run
  refine ⟨run, declaredWidth, declaredFill, ?_, ?_⟩
  · obtain ⟨value, bound, _, _, accepted, _⟩ := readable width declaredWidth
    cases bound
    exact accepted rfl
  · obtain ⟨value, bound, _, _, accepted, _⟩ := readable fill declaredFill
    cases bound
    exact accepted rfl

def lenientSignature : Signature where
  function := "REPEAT"
  required := []
  optional := [⟨"count", .long, "Number of repetitions.", some (.string "10"), none⟩]
  sound := rfl

-- A declaration may give a parameter a default of another kind. Binding succeeds with it, and only
-- the getter of the declared kind refuses it.
theorem default_of_another_kind :
    let before : Stack := ⟨[.map .nil]⟩
    let arguments : Arguments := ⟨"REPEAT", Dict.ofList [("count", .string "10")]⟩
    lenientSignature.bind.onStack before = (.ok arguments, ⟨[]⟩) ∧
      ∃ parameter ∈ lenientSignature.parameters, parameter.name = "count" ∧
        parameter.kind = .long ∧
        (¬ ∃ value, arguments.get? "count" = some value ∧ parameter.accepts value = true) ∧
        arguments.long "count" = .error (.eval (.kindMismatch "REPEAT" "count" .long "STRING")) := by
  intro before arguments
  refine ⟨rfl, _, .head _, rfl, rfl, ?_, rfl⟩
  rintro ⟨value, bound, accepted⟩
  cases bound
  cases accepted

end StackCall
