import StackCall.Proofs.Binding.Failure
import StackCall.Proofs.Binding.Resolution
import StackCall.Registry

set_option autoImplicit false

namespace StackCall

def Refusal.IsMismatch : Refusal → Prop
  | .kindMismatch .. => True
  | _ => False

namespace Function

def MayRefuse (function : Function) : Prop := function.name = "ROUND" ∨ function.name = "PAD"

inductive Answers (function : Function) (stack : Stack) : Except Fault Unit × Stack → Prop
  | pushed {output : Parameter} {value : Value} (declared : function.outputs = [output])
      (accepted : output.accepts value = true) : Answers function stack (.ok (), stack.push value)
  | refused {refusal : Refusal} (allowed : function.MayRefuse) (own : ¬ refusal.IsMismatch) :
      Answers function stack (.error (.eval refusal), stack)

-- The three ways in which a call can end, told apart by its outcome.
def Kept (function : Function) (before : Stack) : Except Fault Unit × Stack → Prop
  | (.ok (), after) => ∃ arguments rest output value,
      function.signature.bind.onStack before = (.ok arguments, rest) ∧
        function.outputs = [output] ∧ output.accepts value = true ∧ after = rest.push value
  | (.error (.eval refusal), after) => function.MayRefuse ∧ ¬ refusal.IsMismatch ∧
      ∃ arguments, function.signature.bind.onStack before = (.ok arguments, after)
  | (.error fault, after) => ArgumentFault function.signature.function fault ∧ after = before

theorem on_stack_call_map (function : Function) (stack : Stack)
    (nonempty : function.signature.isEmpty = false) (entries : Dict Value)
    (checked : function.signature.checkNamed entries = .ok ()) :
    function.call.onStack (stack.push (.map entries)) =
      (function.body ⟨function.signature.function,
        fillDefaults entries function.signature.optional⟩).onStack stack := by
  rw [call, StackM.on_stack_bind,
    on_stack_bind_push_map function.signature stack nonempty entries checked]

theorem Kept.faults {function : Function} {before after : Stack} {fault : Fault}
    (kept : function.Kept before (.error fault, after)) :
    (∀ trouble, fault ≠ .internal trouble) ∧ (∀ level depth, fault ≠ .emptyStack level depth) ∧
      (∀ name defect, fault ≠ .configuration name defect) ∧
      ∀ name argument kind found, fault ≠ .eval (.kindMismatch name argument kind found) := by
  refine ⟨?_, ?_, ?_, ?_⟩
  · rintro trouble rfl
    cases kept.1
  · rintro level depth rfl
    cases kept.1
  · rintro name defect rfl
    cases kept.1
  · rintro name argument kind found rfl
    exact kept.2.1 trivial

theorem call_kept (function : Function)
    (sound : ∀ parameter ∈ function.signature.parameters, ∀ value,
      parameter.default? = some value → parameter.accepts value = true)
    (answers : ∀ arguments, arguments.Resolve function.signature → ∀ stack,
      function.Answers stack ((function.body arguments).onStack stack))
    (before : Stack) : function.Kept before (function.call.onStack before) := by
  rw [call, StackM.on_stack_bind]
  cases bound : function.signature.bind.onStack before with
  | mk outcome rest =>
      cases outcome with
      | error fault =>
          obtain ⟨rfl, blame⟩ := bind_error_blame function.signature before rest fault bound
          cases blame with
          | underflow required available => exact ⟨.underflow required available, rfl⟩
          | positionalType argument expected level =>
              exact ⟨.positionalType argument expected level, rfl⟩
          | missingKey key expected => exact ⟨.missingKey key expected, rfl⟩
          | keyType key expected => exact ⟨.keyType key expected, rfl⟩
          | expectedMap => exact ⟨.expectedMap, rfl⟩
      | ok arguments =>
          have resolved := bind_ok_resolve function.signature sound before rest arguments bound
          have answer := answers arguments resolved rest
          change function.Kept before ((function.body arguments).onStack rest)
          generalize (function.body arguments).onStack rest = result at answer
          cases answer with
          | pushed declared accepted =>
              exact ⟨arguments, rest, _, _, bound, declared, accepted, rfl⟩
          | refused allowed own => exact ⟨allowed, own, arguments, bound⟩

end Function

namespace Arguments

variable (arguments : Arguments) (name : String) (value : Value)
  (bound : arguments.get? name = some value)
include bound

theorem value_eq : arguments.value name = .ok value := by
  rw [Arguments.value, bound]

theorem typed_eq {α : Type} (kind : Kind) (read? : Value → Option α) (found : α)
    (reads : read? value = some found) : typed kind read? arguments name = .ok found := by
  simp only [typed, arguments.value_eq name value bound, reads, bind, Except.bind]
  rfl

theorem number_eq (accepted : Kind.number.accepts value = true) :
    ∃ x, arguments.number name = .ok x := by
  cases value with
  | long n => exact ⟨_, arguments.typed_eq name _ bound .number Value.number? _ rfl⟩
  | double x => exact ⟨_, arguments.typed_eq name _ bound .number Value.number? _ rfl⟩
  | _ => cases accepted

theorem long_eq (accepted : Kind.long.accepts value = true) :
    ∃ n, arguments.long name = .ok n := by
  cases value with
  | long n => exact ⟨_, arguments.typed_eq name _ bound .long Value.long? _ rfl⟩
  | _ => cases accepted

theorem string_eq (accepted : Kind.string.accepts value = true) :
    ∃ text, arguments.string name = .ok text := by
  cases value with
  | string text => exact ⟨_, arguments.typed_eq name _ bound .string Value.string? _ rfl⟩
  | _ => cases accepted

end Arguments

namespace Builtin

theorem angle_answers (arguments : Arguments) (resolved : arguments.Resolve angleSignature)
    (stack : Stack) : angle.Answers stack ((angle.body arguments).onStack stack) := by
  obtain ⟨ordinate, boundY, acceptedY⟩ := resolved.accepted _ (.head _)
  obtain ⟨abscissa, boundX, acceptedX⟩ := resolved.accepted _ (.tail _ (.head _))
  obtain ⟨y, readY⟩ := arguments.number_eq "y" ordinate boundY acceptedY
  obtain ⟨x, readX⟩ := arguments.number_eq "x" abscissa boundX acceptedX
  have ran : (angle.body arguments).onStack stack =
      (.ok (), stack.push (.double (Float.atan2 y x))) := by
    simp only [angle, StackM.on_stack_bind, StackM.on_stack_of_except, StackM.on_stack_push, readY,
      readX]
  rw [ran]
  exact .pushed rfl rfl

def Yields (kind : Kind) : Except Refusal Value → Prop
  | .ok value => kind.accepts value = true
  | .error refusal => ¬ refusal.IsMismatch

theorem answer_answers {function : Function} {output : Parameter}
    (declared : function.outputs = [output]) (allowed : function.MayRefuse)
    {result : Except Refusal Value} (yields : Yields output.kind result) (stack : Stack) :
    function.Answers stack ((answer result).onStack stack) := by
  cases result with
  | ok value => exact .pushed declared yields
  | error refusal => exact .refused allowed yields

theorem fit_long_yields (function : String) (x rounded : Float) :
    Yields .number (fitLong function x rounded) := by
  rw [fitLong]
  split
  case isTrue => exact id
  case isFalse => rfl

theorem round_finite_yields (function : String) (x : Float) (digits : Int64) :
    Yields .number (roundFinite function x digits) := by
  rw [roundFinite]
  by_cases positive : 0 < digits.toInt
  · rw [if_pos positive]
    rfl
  · rw [if_neg positive]
    exact fit_long_yields function x _

theorem round_number_yields (function : String) (x : Float) (digits : Int64) :
    Yields .number (roundNumber function x digits) := by
  rw [roundNumber]
  by_cases finite : x.isFinite = true
  · rw [if_pos finite]
    exact round_finite_yields function x digits
  · rw [if_neg finite]
    exact id

theorem rounding_body {arguments : Arguments} {value : Value} {x : Float} {digits : Int64}
    (bound : arguments.get? "value" = some value) (readNumber : arguments.number "value" = .ok x)
    (readDigits : arguments.long "digits" = .ok digits) (stack : Stack) :
    (rounding.body arguments).onStack stack =
      if 15 < digits.abs.toInt then
        (.error (.eval (.digitCount roundingSignature.function 15 digits)), stack)
      else if value.long?.isSome ∧ 0 ≤ digits.toInt then (.ok (), stack.push value)
      else (answer (roundNumber roundingSignature.function x digits)).onStack stack := by
  simp only [rounding, StackM.on_stack_bind, StackM.on_stack_of_except, readDigits]
  by_cases many : 15 < digits.abs.toInt
  · rw [if_pos many, if_pos many, StackM.on_stack_throw]
  · rw [if_neg many, if_neg many]
    simp only [StackM.on_stack_bind, StackM.on_stack_of_except,
      arguments.value_eq "value" value bound]
    by_cases whole : value.long?.isSome ∧ 0 ≤ digits.toInt
    · rw [if_pos whole, if_pos whole, StackM.on_stack_push]
    · rw [if_neg whole, if_neg whole]
      simp only [StackM.on_stack_bind, StackM.on_stack_of_except, readNumber]

theorem rounding_answers (arguments : Arguments) (resolved : arguments.Resolve roundingSignature)
    (stack : Stack) : rounding.Answers stack ((rounding.body arguments).onStack stack) := by
  obtain ⟨value, bound, accepted⟩ := resolved.accepted _ (.head _)
  obtain ⟨count, boundCount, acceptedCount⟩ := resolved.accepted _ (.tail _ (.head _))
  obtain ⟨x, readNumber⟩ := arguments.number_eq "value" value bound accepted
  obtain ⟨digits, readDigits⟩ := arguments.long_eq "digits" count boundCount acceptedCount
  rw [rounding_body bound readNumber readDigits stack]
  by_cases many : 15 < digits.abs.toInt
  · rw [if_pos many]
    exact .refused (.inl rfl) id
  · rw [if_neg many]
    by_cases whole : value.long?.isSome ∧ 0 ≤ digits.toInt
    · rw [if_pos whole]
      exact .pushed rfl accepted
    · rw [if_neg whole]
      exact answer_answers rfl (.inl rfl) (round_number_yields _ x digits) stack

theorem pad_text_yields (function text : String) (width : Int64) (fill : String) :
    Yields .string ((padText function text width fill).map .string) := by
  rw [padText]
  split
  case h_1 =>
    by_cases negative : width.toInt < 0
    · rw [if_pos negative]
      exact id
    · rw [if_neg negative]
      rfl
  case h_2 => exact id

theorem padding_body {arguments : Arguments} {text fill : String} {width : Int64}
    (readText : arguments.string "text" = .ok text)
    (readWidth : arguments.long "width" = .ok width)
    (readFill : arguments.string "fill" = .ok fill) (stack : Stack) :
    (padding.body arguments).onStack stack =
      (answer ((padText paddingSignature.function text width fill).map .string)).onStack stack := by
  simp only [padding, StackM.on_stack_bind, StackM.on_stack_of_except, readText, readWidth,
    readFill]

theorem padding_answers (arguments : Arguments) (resolved : arguments.Resolve paddingSignature)
    (stack : Stack) : padding.Answers stack ((padding.body arguments).onStack stack) := by
  obtain ⟨heldText, boundText, acceptedText⟩ := resolved.accepted _ (.head _)
  obtain ⟨heldWidth, boundWidth, acceptedWidth⟩ := resolved.accepted _ (.tail _ (.head _))
  obtain ⟨heldFill, boundFill, acceptedFill⟩ := resolved.accepted _ (.tail _ (.tail _ (.head _)))
  obtain ⟨text, readText⟩ := arguments.string_eq "text" heldText boundText acceptedText
  obtain ⟨width, readWidth⟩ := arguments.long_eq "width" heldWidth boundWidth acceptedWidth
  obtain ⟨fill, readFill⟩ := arguments.string_eq "fill" heldFill boundFill acceptedFill
  rw [padding_body readText readWidth readFill stack]
  exact answer_answers rfl (.inr rfl) (pad_text_yields _ text width fill) stack

theorem depth_answers (arguments : Arguments) (stack : Stack) :
    depth.Answers stack ((depth.body arguments).onStack stack) := by
  have accepted : Kind.long.accepts (.long (Int64.ofNat stack.depth)) = true := rfl
  exact .pushed rfl accepted

end Builtin

namespace Registry

theorem builtins_sound : ∀ function ∈ builtins, ∀ parameter ∈ function.signature.parameters,
    ∀ value, parameter.default? = some value → parameter.accepts value = true := by
  have checked : (builtins.all fun function => function.signature.parameters.all fun parameter =>
      parameter.default?.all parameter.accepts) = true := rfl
  intro function member parameter declared value default
  have fits := List.all_eq_true.mp (List.all_eq_true.mp checked function member) parameter declared
  rwa [default] at fits

theorem builtins_answer (function : Function) (member : function ∈ builtins)
    (arguments : Arguments) (resolved : arguments.Resolve function.signature) (stack : Stack) :
    function.Answers stack ((function.body arguments).onStack stack) := by
  simp only [builtins, List.mem_cons, List.not_mem_nil, or_false] at member
  rcases member with rfl | rfl | rfl | rfl
  · exact Builtin.angle_answers arguments resolved stack
  · exact Builtin.rounding_answers arguments resolved stack
  · exact Builtin.padding_answers arguments resolved stack
  · exact Builtin.depth_answers arguments stack

theorem standard_get? (function : Function) (member : function ∈ builtins) :
    standard.get? function.name = some function ∧
      function.signature.function = function.name := by
  simp only [builtins, List.mem_cons, List.not_mem_nil, or_false] at member
  rcases member with rfl | rfl | rfl | rfl <;> exact ⟨rfl, rfl⟩

theorem standard_call_kept (name : String) (member : name ∈ ["ATAN2", "ROUND", "PAD", "DEPTH"])
    (before : Stack) : ∃ function, standard.get? name = some function ∧ function.name = name ∧
      function.signature.function = name ∧
      function.Kept before ((standard.call name).onStack before) ∧
      ∀ fault, ((standard.call name).onStack before).1 = .error fault →
        (∀ trouble, fault ≠ .internal trouble) ∧ (∀ level depth, fault ≠ .emptyStack level depth) ∧
          (∀ name defect, fault ≠ .configuration name defect) ∧
          ∀ name argument kind found, fault ≠ .eval (.kindMismatch name argument kind found) := by
  have names : builtins.map Function.name = ["ATAN2", "ROUND", "PAD", "DEPTH"] := rfl
  rw [← names] at member
  obtain ⟨function, builtin, rfl⟩ := List.mem_map.mp member
  obtain ⟨found, own⟩ := standard_get? function builtin
  have kept : function.Kept before ((standard.call function.name).onStack before) := by
    rw [call, found]
    exact function.call_kept (builtins_sound function builtin) (builtins_answer function builtin)
      before
  refine ⟨function, found, rfl, own, kept, ?_⟩
  intro fault failed
  generalize (standard.call function.name).onStack before = result at kept failed
  obtain ⟨outcome, after⟩ := result
  cases failed
  exact kept.faults

theorem standard_call_kept_rounding :
    let entries := Dict.ofList [("digits", .long 16), ("value", .double 0.5)]
    let before : Stack := ⟨[.map entries, .bool true]⟩
    "ROUND" ∈ ["ATAN2", "ROUND", "PAD", "DEPTH"] ∧
      (standard.call "ROUND").onStack before =
        (.error (.eval (.digitCount "ROUND" 15 16)), ⟨[.bool true]⟩) ∧
      Builtin.rounding.Kept before (.error (.eval (.digitCount "ROUND" 15 16)), ⟨[.bool true]⟩) := by
  intro entries before
  have listed : "ROUND" ∈ ["ATAN2", "ROUND", "PAD", "DEPTH"] := .tail _ (.head _)
  have run : (standard.call "ROUND").onStack before =
      (.error (.eval (.digitCount "ROUND" 15 16)), ⟨[.bool true]⟩) := rfl
  obtain ⟨function, found, -, -, kept, -⟩ := standard_call_kept "ROUND" listed before
  cases found
  exact ⟨listed, run, run ▸ kept⟩

end Registry

end StackCall
