import StackCall.Text
import StackCall.Number.Layout
import StackCall.Value

set_option autoImplicit false

namespace StackCall.Literal

-- Doubles from `0.0001` up to `10 ^ 16` are written positionally, the others with a bare exponent,
-- and of two equally near decimals the larger one is taken.
def layout : Layout := ⟨-4, 15, false, .larger⟩

def double (x : Float) : List Char :=
  if x.isNaN then "NaN".toList
  else if x.isFinite then layout.text x
  else if x < 0 then "-Infinity".toList
  else "Infinity".toList

def isControl (c : Char) : Bool :=
  c.toNat < 32 || (127 ≤ c.toNat && c.toNat < 160)

def percent (byte : UInt8) : List Char :=
  ['%', Text.Hex.upper (byte.toNat / 16), Text.Hex.upper (byte.toNat % 16)]

-- A character of a string: percent signs, quotes and control characters are written as percent
-- signs with the bytes of their encoding.
def character (c : Char) : List Char :=
  if c == '%' || c == '\'' || isControl c then
    (String.utf8EncodeChar c).flatMap percent
  else [c]

def string (text : String) : List Char :=
  '\'' :: text.toList.flatMap character ++ ['\'']

mutual
def chars : Value → List Char
  | .null => "NULL".toList
  | .long n => integerText n.toInt
  | .double x => double x
  | .bool true => "true".toList
  | .bool false => "false".toList
  | .string text => string text
  | .list items => '[' :: ' ' :: itemChars items ++ [']']
  | .map entries => '\x7b' :: ' ' :: entryChars entries ++ ['\x7d']
def itemChars : List Value → List Char
  | [] => []
  | item :: rest => chars item ++ ' ' :: itemChars rest
def entryChars {bound : Option String} : Entries Value bound → List Char
  | .nil => []
  | .cons key _ value rest => string key ++ ' ' :: chars value ++ ' ' :: entryChars rest
end

end StackCall.Literal

namespace StackCall

def Value.literal (value : Value) : String := String.ofList (Literal.chars value)

end StackCall
