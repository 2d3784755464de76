import StackCall.Fault

set_option autoImplicit false

namespace StackCall

structure Arguments where
  function : String
  values : Dict Value

namespace Arguments

def get? (arguments : Arguments) (name : String) : Option Value := arguments.values.get? name

def value (arguments : Arguments) (name : String) : Except Fault Value :=
  match arguments.get? name with
  | some value => .ok value
  | none => .error (.internal (.unboundArgument arguments.function name))

def typed {α : Type} (kind : Kind) (read? : Value → Option α) (arguments : Arguments)
    (name : String) : Except Fault α := do
  let value ← arguments.value name
  match read? value with
  | some found => return found
  | none => throw (.eval (.kindMismatch arguments.function name kind value.typeName))

def number : Arguments → String → Except Fault Float := typed .number Value.number?

def long : Arguments → String → Except Fault Int64 := typed .long Value.long?

def double : Arguments → String → Except Fault Float := typed .double Value.double?

def boolean : Arguments → String → Except Fault Bool := typed .boolean Value.bool?

def string : Arguments → String → Except Fault String := typed .string Value.string?

def list : Arguments → String → Except Fault (List Value) := typed .list Value.list?

def map : Arguments → String → Except Fault (Dict Value) := typed .map Value.map?

end Arguments

end StackCall
