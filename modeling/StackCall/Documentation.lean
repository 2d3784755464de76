import StackCall.Function
import StackCall.Settings

set_option autoImplicit false

namespace StackCall.Documentation

def texts (items : List String) : Value := .list (items.map .string)

def params (declaration : Declaration) (outputs : List Parameter) : Dict Value :=
  Dict.ofList ((declaration.parameters ++ outputs).map fun parameter =>
    (parameter.name, .string parameter.doc))

-- The levels of a positional call. A function that has only optional arguments takes a map.
def positionalInput (declaration : Declaration) : List Value :=
  let map : List Value :=
    if declaration.required.isEmpty && !declaration.optional.isEmpty then [.map .nil] else []
  map ++ declaration.required.map fun parameter => .string parameter.entry

def namedInput (declaration : Declaration) : Dict Value :=
  Dict.ofList (declaration.parameters.map fun parameter =>
    (parameter.name, .string parameter.entry))

def forms (declaration : Declaration) (outputs : List Parameter) : Value :=
  let output : Value := .list (outputs.map fun parameter => .string parameter.entry)
  .list [.list [.list (positionalInput declaration), output],
    .list [.list [.map (namedInput declaration)], output]]

def record (settings : DocSettings) (function : Function) (profile : Profile)
    (outputs : List Parameter) : Value :=
  let declaration := function.signature.toDeclaration
  let version := if profile.version = "" then settings.version else profile.version
  .map (Dict.ofList [
    ("name", .string function.name),
    ("since", .string profile.since),
    ("deprecated", .string profile.deprecated),
    ("deleted", .string profile.deleted),
    ("version", .string version),
    ("tags", texts profile.tags),
    ("desc", .string function.description),
    ("related", texts profile.related),
    ("examples", texts profile.examples),
    ("conf", texts profile.conf),
    ("params", .map (params declaration outputs)),
    ("sig", forms declaration outputs)])

def lines (settings : DocSettings) (function : Function) (profile : Profile)
    (outputs : List Parameter) : List String :=
  ["<%", (record settings function profile outputs).literal, "INFO", function.name, "%>",
    "'" ++ settings.macroSymbol ++ "' STORE", "// Unit tests"]
    ++ function.unitTests ++ ["$" ++ settings.macroSymbol]

def macroText (settings : DocSettings) (function : Function) (profile : Profile)
    (outputs : List Parameter) : String :=
  String.join ((lines settings function profile outputs).map (· ++ settings.lineSeparator))

end StackCall.Documentation

namespace StackCall.Function

def record (settings : DocSettings) (function : Function) : Value :=
  Documentation.record settings function function.profile function.outputs

def macroText (settings : DocSettings) (function : Function) : String :=
  Documentation.macroText settings function function.profile function.outputs

end StackCall.Function
