import StackCall.Arguments
import StackCall.Signature
import StackCall.Stack

set_option autoImplicit false

namespace StackCall

inductive Convention where
  | positional
  | named (entries : Dict Value)

def Convention.detect (stack : Stack) : Convention :=
  match stack.peek with
  | .ok (.map entries) => .named entries
  | _ => .positional

def checkRequired (function : String) (entries : Dict Value) :
    List Parameter → Except Fault Unit
  | [] => .ok ()
  | parameter :: rest =>
      match entries.get? parameter.name with
      | none => .error (.missingKey function parameter.name parameter.label)
      | some value =>
          if parameter.accepts value then checkRequired function entries rest
          else .error (.keyType function parameter.name parameter.label)

def checkOptional (function : String) (entries : Dict Value) :
    List Parameter → Except Fault Unit
  | [] => .ok ()
  | parameter :: rest =>
      match entries.get? parameter.name with
      | none => checkOptional function entries rest
      | some value =>
          if parameter.accepts value then checkOptional function entries rest
          else .error (.keyType function parameter.name parameter.label)

def Declaration.checkNamed (declaration : Declaration) (entries : Dict Value) :
    Except Fault Unit := do
  checkRequired declaration.function entries declaration.required
  checkOptional declaration.function entries declaration.optional

def checkLevels (function : String) : Nat → List Parameter → StackM Unit
  | _, [] => pure ()
  | level, parameter :: rest => do
      let candidate ← StackM.get level
      if parameter.accepts candidate then checkLevels function (level + 1) rest
      else throw (.positionalType function parameter.name parameter.label level)

def Declaration.checkPositional (declaration : Declaration) : StackM Unit := do
  let depth ← StackM.depth
  if depth < declaration.required.length then
    throw (.underflow declaration.function declaration.required.length depth)
  else checkLevels declaration.function 0 declaration.required.reverse

def takeLevels : List Parameter → Dict Value → StackM (Dict Value)
  | [], values => pure values
  | parameter :: rest, values => do
      let value ← StackM.pop
      takeLevels rest (values.insert parameter.name value)

def takeMap (function : String) : StackM (Dict Value) := do
  let top ← StackM.pop
  match top with
  | .map entries => return entries
  | other => throw (.internal (.notAMap function other.typeName))

def fillDefaults (values : Dict Value) (optional : List Parameter) : Dict Value :=
  optional.foldl
    (fun values parameter =>
      match parameter.default? with
      | some value => values.insertNew parameter.name value
      | none => values)
    values

namespace Signature

def takeArguments (signature : Signature) (convention : Convention) : StackM (Dict Value) :=
  match convention with
  | .named entries => do
      StackM.ofExcept (signature.checkNamed entries)
      takeMap signature.function
  | .positional =>
      if signature.required.isEmpty then throw (.expectedMap signature.function)
      else do
        signature.checkPositional
        takeLevels signature.required.reverse .empty

def bind (signature : Signature) : StackM Arguments :=
  if signature.isEmpty then return ⟨signature.function, .empty⟩
  else do
    let stack ← StackM.stack
    let values ← signature.takeArguments (Convention.detect stack)
    return ⟨signature.function, fillDefaults values signature.optional⟩

end Signature

end StackCall
