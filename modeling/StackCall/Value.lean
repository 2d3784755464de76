import StackCall.Dict

set_option autoImplicit false

namespace StackCall

inductive Value where
  | null
  | long (n : Int64)
  | double (x : Float)
  | bool (b : Bool)
  | string (text : String)
  | list (items : List Value)
  | map (entries : Entries Value none)

namespace Value

def typeName : Value → String
  | .null => "NULL"
  | .long _ => "LONG"
  | .double _ => "DOUBLE"
  | .bool _ => "BOOLEAN"
  | .string _ => "STRING"
  | .list _ => "LIST"
  | .map _ => "MAP"

def isNull : Value → Bool
  | .null => true
  | _ => false

def isMap : Value → Bool
  | .map _ => true
  | _ => false

def isNumber : Value → Bool
  | .long _ | .double _ => true
  | _ => false

def long? : Value → Option Int64
  | .long n => some n
  | _ => none

def double? : Value → Option Float
  | .double x => some x
  | _ => none

def number? : Value → Option Float
  | .long n => some (Float.ofInt n.toInt)
  | .double x => some x
  | _ => none

def bool? : Value → Option Bool
  | .bool b => some b
  | _ => none

def string? : Value → Option String
  | .string text => some text
  | _ => none

def list? : Value → Option (List Value)
  | .list items => some items
  | _ => none

def map? : Value → Option (Dict Value)
  | .map entries => some entries
  | _ => none

def ofInt? (n : Int) : Option Value :=
  if h : Int64.minValue.toInt ≤ n ∧ n ≤ Int64.maxValue.toInt then
    some (.long (Int64.ofIntLE n h.1 h.2))
  else none

end Value

mutual
-- Equality as scripts see it: doubles compare as numbers, so a NaN differs from itself and the two
-- zeros are equal, and a LONG never equals a DOUBLE. An entry that two maps share is the same in
-- both whatever it holds, without a comparison; `shared` gives the names of those entries.
def Value.same (shared : Dict Value → Dict Value → List String) : Value → Value → Bool
  | .null, .null => true
  | .long a, .long b => a == b
  | .double a, .double b => a == b
  | .bool a, .bool b => a == b
  | .string a, .string b => a == b
  | .list a, .list b => sameItems shared a b
  | .map a, .map b => sameEntries shared (shared a b) a b
  | _, _ => false
def sameItems (shared : Dict Value → Dict Value → List String) : List Value → List Value → Bool
  | [], [] => true
  | a :: as, b :: bs => a.same shared b && sameItems shared as bs
  | _, _ => false
def sameEntries (shared : Dict Value → Dict Value → List String) (common : List String)
    {left right : Option String} : Entries Value left → Entries Value right → Bool
  | .nil, .nil => true
  | .cons key _ a as, .cons name _ b bs =>
      key == name && (common.contains key || a.same shared b) && sameEntries shared common as bs
  | _, _ => false
end

def nothingShared (_ _ : Dict Value) : List String := []

inductive Kind where
  | any
  | number
  | long
  | double
  | boolean
  | string
  | list
  | map
  deriving DecidableEq

namespace Kind

def name : Kind → String
  | .any => "ANY"
  | .number => "NUMBER"
  | .long => "LONG"
  | .double => "DOUBLE"
  | .boolean => "BOOLEAN"
  | .string => "STRING"
  | .list => "LIST"
  | .map => "MAP"

def accepts : Kind → Value → Bool
  | .any, _ => true
  | .number, .long _ => true
  | .number, .double _ => true
  | .long, .long _ => true
  | .double, .double _ => true
  | .boolean, .bool _ => true
  | .string, .string _ => true
  | .list, .list _ => true
  | .map, .map _ => true
  | _, _ => false

def acceptsMap : Kind → Bool
  | .any | .map => true
  | _ => false

end Kind

end StackCall
