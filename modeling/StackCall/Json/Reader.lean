import StackCall.Text
import StackCall.Json.Number

set_option autoImplicit false

namespace StackCall.Json

def isBlank (c : Char) : Bool := c == ' ' || c == '\n' || c == '\t' || c == '\r'

def skipBlanks (input : List Char) : List Char := input.dropWhile isBlank

def unescape? (c : Char) : Option Char :=
  match c with
  | '"' => some '"'
  | '\\' => some '\\'
  | '/' => some '/'
  | 'b' => some (Char.ofNat 8)
  | 'f' => some (Char.ofNat 12)
  | 'n' => some '\n'
  | 'r' => some '\r'
  | 't' => some '\t'
  | _ => none

-- The rest of a string after its opening quote. Characters beyond `U+FFFF` may be escaped as two
-- surrogates, which stand in that order and never alone.
def readString : List Char → Option (List Char × List Char)
  | '"' :: rest => some ([], rest)
  | '\\' :: 'u' :: a :: b :: c :: d :: rest =>
      match Text.Hex.value? [a, b, c, d] with
      | none => none
      | some unit =>
          if unit < 0xD800 ∨ 0xE000 ≤ unit then
            (readString rest).map fun (text, rest) => (Char.ofNat unit :: text, rest)
          else if 0xDC00 ≤ unit then none
          else
            match rest with
            | '\\' :: 'u' :: e :: f :: g :: h :: rest =>
                match Text.Hex.value? [e, f, g, h] with
                | none => none
                | some low =>
                    if 0xDC00 ≤ low ∧ low < 0xE000 then
                      let point := 0x10000 + (unit - 0xD800) * 0x400 + (low - 0xDC00)
                      (readString rest).map fun (text, rest) => (Char.ofNat point :: text, rest)
                    else none
            | _ => none
  | '\\' :: c :: rest =>
      match unescape? c with
      | none => none
      | some meant => (readString rest).map fun (text, rest) => (meant :: text, rest)
  | c :: rest =>
      if c == '\\' || c.toNat < 32 then none
      else (readString rest).map fun (text, rest) => (c :: text, rest)
  | [] => none

def readNumber (input : List Char) : Option (Json × List Char) := do
  let (numeral, rest) ← Numeral.read input
  let json ← numeral.toJson?
  return (json, rest)

def readScalar : List Char → Option (Json × List Char)
  | 'n' :: 'u' :: 'l' :: 'l' :: rest => some (.null, rest)
  | 't' :: 'r' :: 'u' :: 'e' :: rest => some (.bool true, rest)
  | 'f' :: 'a' :: 'l' :: 's' :: 'e' :: rest => some (.bool false, rest)
  | '"' :: rest => (readString rest).map fun (text, rest) => (.string (String.ofList text), rest)
  | input => readNumber input

-- Items set off by commas, up to the closing bracket. The count bounds their number.
def readItems (readItem : List Char → Option (Json × List Char)) :
    Nat → List Char → Option (List Json × List Char)
  | 0, _ => none
  | count + 1, input => do
      let (item, rest) ← readItem input
      match skipBlanks rest with
      | ']' :: rest => return ([item], rest)
      | ',' :: rest =>
          let (items, rest) ← readItems readItem count rest
          return (item :: items, rest)
      | _ => none

def readMember (readItem : List Char → Option (Json × List Char)) (input : List Char) :
    Option ((String × Json) × List Char) :=
  match skipBlanks input with
  | '"' :: rest => do
      let (name, rest) ← readString rest
      match skipBlanks rest with
      | ':' :: rest =>
          let (value, rest) ← readItem rest
          return ((String.ofList name, value), rest)
      | _ => none
  | _ => none

def readMembers (readItem : List Char → Option (Json × List Char)) :
    Nat → List Char → Option (List (String × Json) × List Char)
  | 0, _ => none
  | count + 1, input => do
      let (member, rest) ← readMember readItem input
      match skipBlanks rest with
      | '\x7d' :: rest => return ([member], rest)
      | ',' :: rest =>
          let (members, rest) ← readMembers readItem count rest
          return (member :: members, rest)
      | _ => none

def readArray (readItem : List Char → Option (Json × List Char)) (input : List Char) :
    Option (Json × List Char) :=
  match skipBlanks input with
  | ']' :: rest => some (.array [], rest)
  | _ => (readItems readItem input.length input).map fun (items, rest) => (.array items, rest)

def readObject (readItem : List Char → Option (Json × List Char)) (input : List Char) :
    Option (Json × List Char) :=
  match skipBlanks input with
  | '\x7d' :: rest => some (.object .nil, rest)
  | _ =>
      (readMembers readItem input.length input).map fun (members, rest) =>
        (.object (Dict.ofList members), rest)

def readValue : Nat → List Char → Option (Json × List Char)
  | 0, input => readScalar (skipBlanks input)
  | depth + 1, input =>
      match skipBlanks input with
      | '[' :: rest => readArray (readValue depth) rest
      | '\x7b' :: rest => readObject (readValue depth) rest
      | other => readScalar other

def parse? (text : String) : Option Json :=
  match readValue 127 text.toList with
  | some (json, rest) => if (skipBlanks rest).isEmpty then some json else none
  | none => none

end StackCall.Json

namespace StackCall

-- An operand is read as JSON; a text that is not JSON stands for itself.
def Value.ofOperand (text : String) : Value :=
  match Json.parse? text with
  | some json => json.toValue
  | none => .string text

end StackCall
