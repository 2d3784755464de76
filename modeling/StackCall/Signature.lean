import StackCall.Fault

set_option autoImplicit false

namespace StackCall

-- A parameter of a function. It is optional exactly when it has a default.
structure Parameter where
  name : String
  kind : Kind
  doc : String
  default? : Option Value := none
  display? : Option String := none

namespace Parameter

def isOptional (parameter : Parameter) : Bool := parameter.default?.isSome

def accepts (parameter : Parameter) (value : Value) : Bool := parameter.kind.accepts value

def label (parameter : Parameter) : String := parameter.display?.getD parameter.kind.name

def entry (parameter : Parameter) : String := parameter.name ++ ":" ++ parameter.label

end Parameter

-- The parameters of a function, of which the last required one is expected on top of the stack.
structure Declaration where
  function : String
  required : List Parameter
  optional : List Parameter

namespace Declaration

def parameters (declaration : Declaration) : List Parameter :=
  declaration.required ++ declaration.optional

def isEmpty (declaration : Declaration) : Bool :=
  declaration.required.isEmpty && declaration.optional.isEmpty

def get? (declaration : Declaration) (name : String) : Option Parameter :=
  declaration.parameters.find? fun parameter => parameter.name == name

def nameDefect? (seen : List String) : List Parameter → Option Defect
  | [] => none
  | parameter :: rest =>
      if parameter.name = "" then some .emptyName
      else if parameter.name ∈ seen then some (.repeatedName parameter.name)
      else nameDefect? (parameter.name :: seen) rest

def requiredDefect? (required : List Parameter) : Option Defect :=
  (required.find? Parameter.isOptional).map fun parameter => .requiredDefault parameter.name

def optionalDefect? (optional : List Parameter) : Option Defect :=
  (optional.find? fun parameter => !parameter.isOptional).map fun parameter =>
    .missingDefault parameter.name

-- A map on top of the stack holds the arguments by name. When it could as well be the last of
-- several required arguments, the optional ones would make the call ambiguous.
def ambiguity? (declaration : Declaration) : Option Defect :=
  if 1 < declaration.required.length ∧ declaration.optional ≠ [] then
    match declaration.required.getLast? with
    | some last => if last.kind.acceptsMap then some (.ambiguousMap last.name) else none
    | none => none
  else none

def defect? (declaration : Declaration) : Option Defect :=
  (nameDefect? [] declaration.parameters)
    |>.or (requiredDefect? declaration.required)
    |>.or (optionalDefect? declaration.optional)
    |>.or declaration.ambiguity?

def validate (declaration : Declaration) : Except Fault Unit :=
  match declaration.defect? with
  | none => .ok ()
  | some defect => .error (.configuration declaration.function defect)

end Declaration

structure Signature extends Declaration where
  sound : toDeclaration.defect? = none

namespace Signature

def empty (function : String) : Signature := ⟨⟨function, [], []⟩, rfl⟩

end Signature

def Declaration.build (declaration : Declaration) : Except Fault Signature :=
  match sound : declaration.defect? with
  | none => .ok ⟨declaration, sound⟩
  | some defect => .error (.configuration declaration.function defect)

end StackCall
