import StackCall.Builtin
import StackCall.Text

set_option autoImplicit false

namespace StackCall

structure Registry where
  functions : Dict Function

namespace Registry

def empty : Registry := ⟨.empty⟩

def get? (registry : Registry) (name : String) : Option Function := registry.functions.get? name

def has (registry : Registry) (name : String) : Bool := registry.functions.contains name

def names (registry : Registry) : List String := registry.functions.keys

def size (registry : Registry) : Nat := registry.functions.size

def isEmpty (registry : Registry) : Bool := registry.functions.isEmpty

def register (registry : Registry) (function : Function) : Except Fault Registry :=
  if registry.has function.name then .error (.configuration function.name .nameTaken)
  else .ok ⟨registry.functions.insert function.name function⟩

-- Adds functions in order, up to the first whose name is taken; those before it stay.
def registerAll (registry : Registry) : List Function → Except Fault Unit × Registry
  | [] => (.ok (), registry)
  | function :: rest =>
      match registry.register function with
      | .ok larger => larger.registerAll rest
      | .error fault => (.error fault, registry)

def remove (registry : Registry) (name : String) : Option Function × Registry :=
  (registry.functions.get? name, ⟨registry.functions.erase name⟩)

def builtins : List Function :=
  [Builtin.angle, Builtin.rounding, Builtin.padding, Builtin.depth]

def registerBuiltins (registry : Registry) : Except Fault Unit × Registry :=
  registry.registerAll builtins

def standard : Registry := (registerBuiltins empty).2

def summary (registry : Registry) : String :=
  "FunctionRegistry \x7b functions: [" ++ ", ".intercalate (registry.names.map Text.Quoted.encode)
    ++ "] \x7d"

def call (registry : Registry) (name : String) : StackM Unit :=
  match registry.get? name with
  | some function => function.call
  | none => throw (.unknownFunction name)

end Registry

end StackCall
