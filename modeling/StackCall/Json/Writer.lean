import StackCall.Text
import StackCall.Json
import StackCall.Number.Layout

set_option autoImplicit false

namespace StackCall.Json

-- Doubles from `0.00001` up to `10 ^ 16` are written positionally, the others with a signed
-- exponent, and of two equally near decimals the even one is taken.
def layout : Layout := ⟨-5, 15, true, .even⟩

structure Spacing where
  afterColon : List Char
  beforeItem : Nat → List Char

def compact : Spacing := ⟨[], fun _ => []⟩

def indented : Spacing := ⟨[' '], fun depth => '\n' :: List.replicate (2 * depth) ' '⟩

def escape (c : Char) : List Char :=
  if c == '"' then ['\\', '"']
  else if c == '\\' then ['\\', '\\']
  else if c == '\n' then ['\\', 'n']
  else if c == '\t' then ['\\', 't']
  else if c == '\r' then ['\\', 'r']
  else if c.toNat == 8 then ['\\', 'b']
  else if c.toNat == 12 then ['\\', 'f']
  else if c.toNat < 32 then
    ['\\', 'u', '0', '0', Text.Hex.lower (c.toNat / 16), Text.Hex.lower (c.toNat % 16)]
  else [c]

def quote (text : String) : List Char :=
  '"' :: text.toList.flatMap escape ++ ['"']

def enclose (spacing : Spacing) (depth : Nat) (first last : Char) (items : List Char) : List Char :=
  if items.isEmpty then [first, last]
  else first :: items ++ spacing.beforeItem depth ++ [last]

mutual
def write (spacing : Spacing) (depth : Nat) : Json → List Char
  | .null => "null".toList
  | .bool true => "true".toList
  | .bool false => "false".toList
  | .integer n => integerText n
  | .real x => layout.text x
  | .string text => quote text
  | .array items => enclose spacing depth '[' ']' (writeItems spacing (depth + 1) [] items)
  | .object members =>
      enclose spacing depth '\x7b' '\x7d' (writeMembers spacing (depth + 1) [] members)
def writeItems (spacing : Spacing) (depth : Nat) (separator : List Char) :
    List Json → List Char
  | [] => []
  | item :: rest =>
      separator ++ spacing.beforeItem depth ++ write spacing depth item
        ++ writeItems spacing depth [','] rest
def writeMembers (spacing : Spacing) (depth : Nat) (separator : List Char)
    {bound : Option String} : Entries Json bound → List Char
  | .nil => []
  | .cons key _ value rest =>
      separator ++ spacing.beforeItem depth ++ quote key ++ ':' :: spacing.afterColon
        ++ write spacing depth value ++ writeMembers spacing depth [','] rest
end

def text (spacing : Spacing) (json : Json) : String := String.ofList (json.write spacing 0)

end StackCall.Json
