import StackCall.Dict
import StackCall.Text
import StackCall.Yaml.Cursor

set_option autoImplicit false

namespace StackCall.Yaml

def isNameChar (c : Char) : Bool := c.isAlphanum || c == '_' || c == '-'

def endsName : List Char → Bool
  | [] => true
  | c :: _ => isGap c || "?:,]\x7d%@\x60".toList.contains c

def Cursor.anchorName? (cursor : Cursor) : Option (String × Cursor) :=
  let (name, after) := (cursor.skip 1).word isNameChar
  if name.isEmpty || !endsName after.rest then none else some (String.ofList name, after)

def isTagChar (free : Bool) (c : Char) : Bool :=
  isNameChar c || ";/?:@&=+$.!~*'()".toList.contains c || (free && ",[]".toList.contains c)

def followers? (octet : Nat) : Option Nat :=
  if octet < 0x80 then some 0
  else if octet < 0xC0 then none
  else if octet < 0xE0 then some 1
  else if octet < 0xF0 then some 2
  else if octet < 0xF8 then some 3
  else none

-- The octets of a tag and the number of characters read. An octet may be written as a percent sign
-- and two digits, and those of one character are then all written so; `due` of them are to come.
def readTag (free : Bool) : Nat → List Char → Option (List Char × Nat)
  | due, '%' :: high :: low :: rest => do
      let octet ← Text.Hex.value? [high, low]
      let due ←
        if due == 0 then followers? octet
        else if decide (0x80 ≤ octet) && decide (octet < 0xC0) then some (due - 1)
        else none
      let (found, length) ← readTag free due rest
      return (Char.ofNat octet :: found, length + 3)
  | due, c :: rest =>
      if due != 0 || c == '%' then none
      else if isTagChar free c then
        (readTag free 0 rest).map fun (found, length) => (c :: found, length + 1)
      else some ([], 0)
  | due, [] => if due == 0 then some ([], 0) else none

def Cursor.tagText? (cursor : Cursor) (free : Bool) : Option (List Char × Cursor) :=
  (readTag free 0 cursor.rest).map fun (found, length) => (found, cursor.skip length)

def untilZero (octets : List Char) : String := String.ofList (octets.takeWhile (·.toNat != 0))

def Cursor.handle? (cursor : Cursor) : Option (String × Cursor) :=
  let (name, after) := (cursor.skip 1).word isNameChar
  if cursor.rest.head? == some '!' && after.rest.head? == some '!' then
    some ("!" ++ String.ofList name ++ "!", after.skip 1)
  else none

structure TagName where
  handle : String
  suffix : String

def Cursor.writtenTag? (cursor : Cursor) : Option (TagName × Cursor) :=
  if cursor.rest.take 2 == ['!', '<'] then do
    let (octets, after) ← (cursor.skip 2).tagText? true
    if !octets.isEmpty && after.rest.head? == some '>' then
      some (⟨"", untilZero octets⟩, after.skip 1)
    else none
  else
    match cursor.handle? with
    | some (handle, after) => do
        let (octets, after) ← after.tagText? false
        if octets.isEmpty then none else some (⟨handle, untilZero octets⟩, after)
    | none => do
        let (octets, after) ← (cursor.skip 1).tagText? false
        let suffix := untilZero octets
        some (if suffix.isEmpty then ⟨"", "!"⟩ else ⟨"!", suffix⟩, after)

def Cursor.tag? (cursor : Cursor) (flow : Bool) : Option (TagName × Cursor) := do
  let (name, after) ← cursor.writtenTag?
  if startsGap after.rest || (flow && after.rest.head? == some ',') then some (name, after)
  else none

inductive Directive where
  | version
  | abbreviation (handle stem : String)

def Cursor.number? (cursor : Cursor) : Option (Nat × Cursor) :=
  let (digits, after) := cursor.word Char.isDigit
  if digits.isEmpty || decide (9 < digits.length) then none
  else some (digits.foldl (fun n digit => 10 * n + (digit.toNat - 48)) 0, after)

def Cursor.version? (cursor : Cursor) : Option Cursor := do
  let (major, after) ← cursor.number?
  if major == 1 && after.rest.head? == some '.' then
    let (minor, last) ← (after.skip 1).number?
    if minor == 1 || minor == 2 then some last else none
  else none

def Cursor.abbreviation? (cursor : Cursor) : Option (Directive × Cursor) := do
  let (handle, after) ←
    match cursor.handle? with
    | some found => some found
    | none => if cursor.rest.head? == some '!' then some ("!", cursor.skip 1) else none
  let stem := after.skipWhile isBlank
  let (octets, last) ← stem.tagText? true
  if stem.offset == after.offset || octets.isEmpty || !startsGap last.rest then none
  else some (.abbreviation handle (untilZero octets), last)

def Cursor.directive? (cursor : Cursor) : Option (Directive × Cursor) := do
  let (name, after) := (cursor.skip 1).word isNameChar
  let operand := after.skipWhile isBlank
  let (found, last) ←
    if !startsGap after.rest then none
    else if name == "YAML".toList then operand.version?.map fun last => (.version, last)
    else if name == "TAG".toList then operand.abbreviation?
    else none
  let next ← last.endLine?
  return (found, next)

structure Directives where
  versioned : Bool
  stems : Dict String

namespace Directives

def empty : Directives := ⟨false, .empty⟩

def add? (directives : Directives) : Directive → Option Directives
  | .version => if directives.versioned then none else some { directives with versioned := true }
  | .abbreviation handle stem =>
      if directives.stems.contains handle then none
      else some { directives with stems := directives.stems.insert handle stem }

-- The handles of local tags and of common ones need no directive.
def stem? (directives : Directives) (handle : String) : Option String :=
  match directives.stems.get? handle with
  | some stem => some stem
  | none =>
      if handle == "!" then some "!"
      else if handle == "!!" then some "tag:yaml.org,2002:"
      else none

def expand? (directives : Directives) (name : TagName) : Option String :=
  if name.handle.isEmpty then some name.suffix
  else (directives.stem? name.handle).map (· ++ name.suffix)

end Directives

end StackCall.Yaml
