set_option autoImplicit false

namespace StackCall.CommandLine

inductive Command where
  | list
  | info (name : String) (json : Bool)
  | doc (name : String)
  | call (name : String) (values : List String)
  deriving DecidableEq

structure Invocation where
  config : Option String
  command : Command
  deriving DecidableEq

inductive Usage where
  | help
  | version
  | nothingGiven
  | missingCommand
  | unknownCommand
  | missingOperand
  | unknownArgument
  | missingValue
  | unexpectedValue
  | repeatedOption
  deriving DecidableEq

def Usage.exitCode : Usage → Nat
  | .help | .version => 0
  | _ => 2

inductive Scope where
  | root
  | list
  | info
  | doc
  | call
  deriving DecidableEq

def Scope.ofCommand? (word : String) : Option Scope :=
  match word with
  | "list" => some .list
  | "info" => some .info
  | "doc" => some .doc
  | "call" => some .call
  | _ => none

inductive Flag where
  | help
  | version
  | json
  deriving DecidableEq

def Scope.flag? (scope : Scope) (name : String) : Option Flag :=
  match name with
  | "help" => some .help
  | "version" => if scope = .root then some .version else none
  | "json" => if scope = .info then some .json else none
  | _ => none

def Scope.shortFlag? (scope : Scope) (letter : Char) : Option Flag :=
  match letter with
  | 'h' => some .help
  | 'V' => if scope = .root then some .version else none
  | _ => none

inductive Pending where
  | none
  | open
  | given (value : String)

structure Progress where
  config : Option String := none
  pending : Pending := .none
  json : Bool := false
  operands : List String := []
  trailing : Bool := false

inductive Word where
  | long (name : String) (value : Option String)
  | short (letter : Char)
  | plain

def Word.ofString (word : String) : Word :=
  match word.toList with
  | '-' :: '-' :: rest =>
      let name := String.ofList (rest.takeWhile (· ≠ '='))
      match rest.dropWhile (· ≠ '=') with
      | [] => .long name none
      | _ :: value => .long name (some (String.ofList value))
  | '-' :: letter :: _ => .short letter
  | _ => .plain

namespace Progress

def setConfig (progress : Progress) (value : String) : Except Usage Progress :=
  if progress.config.isSome then .error .repeatedOption
  else if value = "" then .error .missingValue
  else .ok { progress with config := some value, pending := .none }

def settle (progress : Progress) : Except Usage Progress :=
  match progress.pending with
  | .none => .ok progress
  | .open => .error .missingValue
  | .given value => progress.setConfig value

def flag (progress : Progress) (flag : Flag) : Except Usage Progress := do
  let progress ← progress.settle
  match flag with
  | .help => throw .help
  | .version => throw .version
  | .json => if progress.json then throw .repeatedOption else return { progress with json := true }

def long (progress : Progress) (scope : Scope) (name : String) (value : Option String) :
    Except Usage Progress :=
  if name = "config" then do
    let progress ← progress.settle
    match value with
    | some value => progress.setConfig value
    | none => return { progress with pending := .open }
  else
    match scope.flag? name, value with
    | some flag, none => progress.flag flag
    | some _, some _ => .error .unexpectedValue
    | none, _ => .error .unknownArgument

def operand (progress : Progress) (scope : Scope) (word : String) : Except Usage Progress :=
  let add : Except Usage Progress := do
    let progress ← progress.settle
    return { progress with operands := word :: progress.operands }
  match scope with
  | .root =>
      let command := (Scope.ofCommand? word).isSome || word == "help"
      .error (if progress.trailing && command then .unknownArgument else .unknownCommand)
  | .list => .error .unknownArgument
  | .info | .doc => if progress.operands.isEmpty then add else .error .unknownArgument
  | .call => add

def read (progress : Progress) (scope : Scope) (word : String) : Except Usage Progress :=
  if progress.trailing then progress.operand scope word
  else if word = "--" then .ok { progress with trailing := true }
  else
    match Word.ofString word with
    | .long name value => progress.long scope name value
    | .short letter =>
        match scope.shortFlag? letter with
        | some flag => progress.flag flag
        | none => .error .unknownArgument
    | .plain =>
        match progress.pending with
        | .open => .ok { progress with pending := .given word }
        | _ => progress.operand scope word

def readAll (progress : Progress) (scope : Scope) : List String → Except Usage Progress
  | [] => progress.settle
  | word :: rest => do
      let progress ← progress.read scope word
      progress.readAll scope rest

def command (progress : Progress) (scope : Scope) : Except Usage Command :=
  match scope, progress.operands.reverse with
  | .root, _ => .error .missingCommand
  | .list, _ => .ok .list
  | .info, name :: _ => .ok (.info name progress.json)
  | .doc, name :: _ => .ok (.doc name)
  | .call, name :: values => .ok (.call name values)
  | _, [] => .error .missingOperand

def atCommand (progress : Progress) : Bool :=
  !progress.trailing && match progress.pending with
    | .open => false
    | _ => true

end Progress

def readHelp : List String → Usage
  | [] => .help
  | [topic] => if (Scope.ofCommand? topic).isSome || topic == "help" then .help else .unknownCommand
  | _ => .unknownCommand

-- The words from the command on, after what was read before it. A settings file that is named after
-- the command takes precedence.
def readCommand (before : Progress) (scope : Scope) (words : List String) :
    Except Usage Invocation := do
  let progress ← Progress.readAll {} scope words
  let command ← progress.command scope
  let before ← before.settle
  return ⟨progress.config <|> before.config, command⟩

def readRoot (progress : Progress) : List String → Except Usage Invocation
  | [] => do
      let progress ← progress.settle
      throw (if progress.config.isNone then .nothingGiven else .missingCommand)
  | word :: rest =>
      match progress.atCommand, Scope.ofCommand? word with
      | true, some scope => readCommand progress scope rest
      | true, none =>
          if word = "help" then .error (readHelp rest)
          else do readRoot (← progress.read .root word) rest
      | false, _ => do readRoot (← progress.read .root word) rest

def Invocation.ofWords (words : List String) : Except Usage Invocation := readRoot {} words

end StackCall.CommandLine
