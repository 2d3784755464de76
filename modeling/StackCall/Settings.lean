import StackCall.Fault
import StackCall.Text
import StackCall.Yaml.Node

set_option autoImplicit false

namespace StackCall

structure DocSettings where
  lineSeparator : String := "\n"
  macroSymbol : String := "macro"
  version : String := ""
  deriving DecidableEq

structure Settings where
  doc : DocSettings := {}
  logFilter : Option String := none
  deriving DecidableEq

open Yaml (Node)

structure Fields where
  entries : List (String × Node)

namespace Fields

def get? (fields : Fields) (name : String) : Option Node := fields.entries.lookup name

def collect (document : Node) (known : List String) :
    List (Node × Node) → List (String × Node) → Except String (List (String × Node))
  | [], found => .ok found
  | (key, node) :: rest, found =>
      match document.resolve key with
      | .scalar _ _ name =>
          if !known.contains name then .error ("unknown field '" ++ name ++ "'")
          else if (found.lookup name).isSome then .error ("duplicate field '" ++ name ++ "'")
          else collect document known rest ((name, document.resolve node) :: found)
      | _ => .error "a field name is not a text"

def ofNode (document : Node) (known : List String) : Node → Except String Fields
  | .mapping _ entries => (collect document known entries []).map Fields.mk
  | .scalar _ true "" => .ok ⟨[]⟩
  | _ => .error "expected a mapping"

def text (fields : Fields) (name standard : String) : Except String String :=
  match fields.get? name with
  | none => .ok standard
  | some (.scalar _ _ text) => .ok text
  | some _ => .error ("field '" ++ name ++ "' is not a text")

def isNull (text : String) : Bool := ["~", "null", "Null", "NULL"].contains text

def nullTag : String := "tag:yaml.org,2002:null"

-- The text of a field that may be null, which only plain scalars can say. A tag settles whether
-- they do.
def nullable (fields : Fields) (name : String) : Except String (Option String) :=
  match fields.get? name with
  | none => .ok none
  | some (.scalar ⟨_, none⟩ true text) =>
      if text.isEmpty || isNull text then .ok none else .ok (some text)
  | some (.scalar ⟨_, some tag⟩ true text) =>
      if tag != nullTag then .ok (some text)
      else if isNull text then .ok none
      else .error ("field '" ++ name ++ "' is not null")
  | some (.scalar _ false text) => .ok (some text)
  | some _ => .error ("field '" ++ name ++ "' is not a text")

def section? {α : Type} (fields : Fields) (name : String) (standard : α)
    (read : Node → Except String α) : Except String α :=
  match fields.get? name with
  | none => .ok standard
  | some node => read node

end Fields

def DocSettings.ofNode (document node : Node) : Except String DocSettings := do
  let standard : DocSettings := {}
  let fields ← Fields.ofNode document ["line_separator", "macro_symbol", "version"] node
  let lineSeparator ← fields.text "line_separator" standard.lineSeparator
  let macroSymbol ← fields.text "macro_symbol" standard.macroSymbol
  let version ← fields.text "version" standard.version
  return ⟨lineSeparator, macroSymbol, version⟩

def logFilterOfNode (document node : Node) : Except String (Option String) := do
  let fields ← Fields.ofNode document ["filter"] node
  fields.nullable "filter"

namespace Settings

def ofDocument (document : Node) : Except String Settings := do
  let fields ← Fields.ofNode document ["doc", "log"] document
  let doc ← fields.section? "doc" {} (DocSettings.ofNode document)
  let logFilter ← fields.section? "log" none (logFilterOfNode document)
  return ⟨doc, logFilter⟩

def parse (text : String) : Except Fault Settings :=
  if text.toList.all Text.isWhiteSpace then .ok {}
  else
    match Node.parse? text with
    | none => .error (.settings (.invalid "not a document of mappings and scalars"))
    | some none => .ok {}
    | some (some node) => (ofDocument node).mapError fun reason => .settings (.invalid reason)

def load (path : String) (content : Option String) : Except Fault Settings :=
  match content with
  | none => .error (.settings (.unreadable path))
  | some text => parse text

end Settings

end StackCall
