import StackCall.Literal

set_option autoImplicit false

namespace StackCall

def levelText : Nat → String
  | 0 => "on top of the stack"
  | 1 => "below the top of the stack"
  | 2 => "on 3rd position counting from the top of the stack"
  | level => "on " ++ toString (level + 1) ++ "th position counting from the top of the stack"

inductive Defect where
  | emptyName
  | repeatedName (name : String)
  | requiredDefault (name : String)
  | missingDefault (name : String)
  | ambiguousMap (name : String)
  | nameTaken
  | described (text : String)

inductive Refusal where
  | kindMismatch (function argument : String) (expected : Kind) (found : String)
  | digitCount (function : String) (limit : Nat) (digits : Int64)
  | notFinite (function : String) (x : Float)
  | doesNotFit (function : String) (x : Float)
  | notOneCharacter (function fill : String)
  | negativeWidth (function : String) (width : Int64)
  | described (text : String)

inductive SettingsTrouble where
  | unreadable (path : String)
  | invalid (reason : String)
  | described (text : String)

inductive EngineTrouble where
  | unboundArgument (function argument : String)
  | notAMap (function found : String)
  | described (text : String)

inductive Fault where
  | configuration (function : String) (defect : Defect)
  | underflow (function : String) (required available : Nat)
  | positionalType (function argument expected : String) (level : Nat)
  | missingKey (function key expected : String)
  | keyType (function key expected : String)
  | expectedMap (function : String)
  | emptyStack (level depth : Nat)
  | unknownFunction (name : String)
  | eval (refusal : Refusal)
  | settings (trouble : SettingsTrouble)
  | internal (trouble : EngineTrouble)

inductive FaultClass where
  | configuration
  | script
  | settings
  | internal
  deriving DecidableEq

namespace FaultClass

def name : FaultClass → String
  | .configuration => "Configuration"
  | .script => "Script"
  | .settings => "Settings"
  | .internal => "Internal"

def phase : FaultClass → String
  | .configuration => "declaration"
  | .script => "bind"
  | .settings => "settings"
  | .internal => "internal"

end FaultClass

def Defect.message : Defect → String
  | .emptyName => "argument names must not be empty"
  | .repeatedName name => "argument name '" ++ name ++ "' is declared more than once"
  | .requiredDefault name =>
      "required argument '" ++ name ++ "' must not declare a default value"
  | .missingDefault name => "optional argument '" ++ name ++ "' must declare a default value"
  | .ambiguousMap name =>
      "the last required argument '" ++ name
        ++ "' accepts a MAP, which is ambiguous when optional arguments are declared"
  | .nameTaken => "a function with this name is already registered"
  | .described text => text

def Refusal.message : Refusal → String
  | .kindMismatch function argument expected found =>
      function ++ " expects the argument '" ++ argument ++ "' to be a " ++ expected.name
        ++ ", found a " ++ found ++ "."
  | .digitCount function limit digits =>
      function ++ " expects 'digits' between -" ++ toString limit ++ " and " ++ toString limit
        ++ ", got " ++ (Value.long digits).literal ++ "."
  | .notFinite function x =>
      function ++ " expects a finite 'value', got " ++ (Value.double x).literal ++ "."
  | .doesNotFit function x =>
      function ++ " cannot fit " ++ (Value.double x).literal ++ " in a LONG."
  | .notOneCharacter function fill =>
      function ++ " expects 'fill' to be a single character, got '" ++ fill ++ "'."
  | .negativeWidth function width =>
      function ++ " expects a non-negative 'width', got " ++ (Value.long width).literal ++ "."
  | .described text => text

def SettingsTrouble.message : SettingsTrouble → String
  | .unreadable path => "cannot read " ++ path
  | .invalid reason => "invalid settings: " ++ reason
  | .described text => text

def EngineTrouble.message : EngineTrouble → String
  | .unboundArgument function argument =>
      function ++ " has no bound argument named '" ++ argument ++ "'"
  | .notAMap function found => function ++ " popped a " ++ found ++ " where a MAP was checked"
  | .described text => text

namespace Fault

def message : Fault → String
  | .configuration function defect => function ++ " is incorrectly declared: " ++ defect.message
  | .underflow function required available =>
      function ++ " expects to find " ++ toString required
        ++ " arguments off the top of the stack, but the stack contains only "
        ++ toString available ++ " levels."
  | .positionalType function argument expected level =>
      function ++ " expects to find a '" ++ argument ++ "' (a " ++ expected ++ ") "
        ++ levelText level ++ "."
  | .missingKey function key expected =>
      "The MAP that is on top of the stack does not have the argument '" ++ key ++ "' (of type "
        ++ expected ++ ") that is required by " ++ function ++ "."
  | .keyType function key expected =>
      function ++ " expects the argument '" ++ key ++ "' to be a " ++ expected ++ "."
  | .expectedMap function =>
      function ++ " expects a MAP on top of the stack. "
        ++ "To use default argument values, an empty MAP is expected."
  | .emptyStack level depth =>
      "Empty stack: nothing " ++ levelText level ++ ", the stack contains " ++ toString depth
        ++ " levels."
  | .unknownFunction name => "Unknown function '" ++ name ++ "'."
  | .eval refusal => "Evaluation error: " ++ refusal.message
  | .settings trouble => "Settings error: " ++ trouble.message
  | .internal trouble => "Internal error: " ++ trouble.message

def suffix : Fault → String
  | .configuration .. => "configuration"
  | .underflow .. => "underflow"
  | .positionalType .. => "positional_type"
  | .missingKey .. => "missing_key"
  | .keyType .. => "key_type"
  | .expectedMap .. => "expected_map"
  | .emptyStack .. => "empty_stack"
  | .unknownFunction .. => "unknown_function"
  | .eval .. => "eval"
  | .settings .. => "settings"
  | .internal .. => "internal"

def family : Fault → FaultClass
  | .configuration .. => .configuration
  | .settings .. => .settings
  | .internal .. => .internal
  | _ => .script

def isRecoverable (fault : Fault) : Bool := fault.family == .script

def function? : Fault → Option String
  | .configuration function _ => some function
  | .underflow function _ _ => some function
  | .positionalType function _ _ _ => some function
  | .missingKey function _ _ => some function
  | .keyType function _ _ => some function
  | .expectedMap function => some function
  | .unknownFunction name => some name
  | _ => none

def code (fault : Fault) : String := "stackbind::" ++ fault.family.phase ++ "::" ++ fault.suffix

def help? : Fault → Option String
  | .underflow _ required _ =>
      some ("push " ++ toString required ++ " values, or a MAP holding every argument by name")
  | .expectedMap _ => some "push a MAP of named arguments, e.g. \x7b\x7d for all defaults"
  | .missingKey _ key _ => some ("add the key '" ++ key ++ "' to the MAP")
  | .configuration .. =>
      some "this is a defect in the function's declaration, not in the calling script"
  | .internal .. => some "This is an internal engine error. Please report this as a bug."
  | _ => none

end Fault

end StackCall
