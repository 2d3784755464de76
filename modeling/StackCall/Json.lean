import StackCall.Value

set_option autoImplicit false

namespace StackCall

-- A JSON number keeps whether it was written as an integer.
inductive Json where
  | null
  | bool (b : Bool)
  | integer (n : Int)
  | real (x : Float)
  | string (text : String)
  | array (items : List Json)
  | object (members : Entries Json none)

mutual
def Value.toJson : Value → Json
  | .null => .null
  | .long n => .integer n.toInt
  | .double x => if x.isFinite then .real x else .null
  | .bool b => .bool b
  | .string text => .string text
  | .list items => .array (itemsToJson items)
  | .map entries => .object (entriesToJson entries)
def itemsToJson : List Value → List Json
  | [] => []
  | item :: rest => item.toJson :: itemsToJson rest
def entriesToJson {bound : Option String} : Entries Value bound → Entries Json bound
  | .nil => .nil
  | .cons key above value rest => .cons key above value.toJson (entriesToJson rest)
end

def Value.ofInt (n : Int) : Value := (Value.ofInt? n).getD (.double (Float.ofInt n))

mutual
def Json.toValue : Json → Value
  | .null => .null
  | .bool b => .bool b
  | .integer n => Value.ofInt n
  | .real x => .double x
  | .string text => .string text
  | .array items => .list (itemsToValue items)
  | .object members => .map (membersToValue members)
def itemsToValue : List Json → List Value
  | [] => []
  | item :: rest => item.toValue :: itemsToValue rest
def membersToValue {bound : Option String} : Entries Json bound → Entries Value bound
  | .nil => .nil
  | .cons key above value rest => .cons key above value.toValue (membersToValue rest)
end

end StackCall
