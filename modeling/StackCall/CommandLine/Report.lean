import StackCall.CommandLine.Invocation
import StackCall.Documentation
import StackCall.Json.Reader
import StackCall.Json.Writer
import StackCall.Registry
import StackCall.Settings

set_option autoImplicit false

namespace StackCall.CommandLine

structure Report where
  exitCode : Nat
  output : String
  fault : Option Fault
  notice : String

namespace Command

def find (registry : Registry) (name : String) : Except Fault Function :=
  match registry.get? name with
  | some function => .ok function
  | none => .error (.unknownFunction name)

def listing (stack : Stack) : String :=
  String.join (stack.levels.zipIdx.reverse.map fun (value, level) =>
    toString (level + 1) ++ ":" ++ (" " ++ value.literal ++ "\n"))

def callOutput (registry : Registry) (name : String) (values : List String) :
    Except Fault String :=
  let operands := Stack.ofList (values.map Value.ofOperand)
  let (outcome, stack) := (registry.call name).onStack operands
  outcome.map fun _ => listing stack

def output (registry : Registry) (settings : Settings) : Command → Except Fault String
  | .list => .ok (String.join (registry.names.map (· ++ "\n")))
  | .info name json => do
      let function ← find registry name
      let record := function.record settings.doc
      return (if json then record.toJson.text Json.indented else record.literal) ++ "\n"
  | .doc name => do
      let function ← find registry name
      return function.macroText settings.doc
  | .call name values => callOutput registry name values

end Command

def versionText : String := "stackbind 0.1.0\n"

def helpText : String :=
  String.join (List.map (· ++ "\n") [
    "Inspect, document and call the built-in functions of a stack engine.",
    "",
    "Usage: stackbind [--config FILE] COMMAND",
    "",
    "Commands:",
    "  list                     List all functions",
    "  info NAME [--json]       Print the record of a function",
    "  doc NAME                 Print the documentation macro of a function",
    "  call NAME [VALUES]...    Push the values, call a function and print the stack",
    "  help [COMMAND]           Print this text",
    "",
    "Options:",
    "  --config FILE            Read settings from a file",
    "  -h, --help               Print this text",
    "  -V, --version            Print the version"])

def Usage.message : Usage → String
  | .help => ""
  | .version => ""
  | .nothingGiven => helpText
  | .missingCommand => "error: a command is required\n"
  | .unknownCommand => "error: there is no such command\n"
  | .missingOperand => "error: the name of a function is required\n"
  | .unknownArgument => "error: unexpected argument\n"
  | .missingValue => "error: an option requires a value\n"
  | .unexpectedValue => "error: an option takes no value\n"
  | .repeatedOption => "error: an option is given more than once\n"

def Usage.report (usage : Usage) : Report :=
  let output :=
    match usage with
    | .help => helpText
    | .version => versionText
    | _ => ""
  ⟨usage.exitCode, output, none, usage.message⟩

def Report.ofFault (exitCode : Nat) (fault : Fault) : Report :=
  let help :=
    match fault.help? with
    | some help => "help: " ++ help ++ "\n"
    | none => ""
  ⟨exitCode, "", some fault, fault.code ++ ": " ++ fault.message ++ "\n" ++ help⟩

def Invocation.settings (invocation : Invocation) (readFile : String → Option String) :
    Except Fault Settings :=
  match invocation.config with
  | some path => Settings.load path (readFile path)
  | none => .ok {}

def Invocation.run (invocation : Invocation) (readFile : String → Option String) : Report :=
  match invocation.settings readFile with
  | .error fault => Report.ofFault 2 fault
  | .ok settings =>
      match invocation.command.output Registry.standard settings with
      | .ok output => ⟨0, output, none, ""⟩
      | .error fault => Report.ofFault 1 fault

def run (words : List String) (readFile : String → Option String) : Report :=
  match Invocation.ofWords words with
  | .error usage => usage.report
  | .ok invocation => invocation.run readFile

end StackCall.CommandLine
