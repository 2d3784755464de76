import StackCall.Yaml.Token

set_option autoImplicit false

namespace StackCall.Yaml

structure Properties where
  anchor : Option Nat := none
  tag : Option String := none

inductive Node where
  | scalar (properties : Properties) (plain : Bool) (text : String)
  | mapping (properties : Properties) (entries : List (Node × Node))
  | reference (number : Nat)

def Node.absent (properties : Properties) : Node := .scalar properties true ""

mutual
def Node.anchored? (number : Nat) : Node → Option Node
  | .scalar properties plain text =>
      if properties.anchor == some number then some (.scalar properties plain text) else none
  | .mapping properties entries =>
      match anchoredIn? number entries with
      | some node => some node
      | none =>
          if properties.anchor == some number then some (.mapping properties entries) else none
  | .reference _ => none
def anchoredIn? (number : Nat) : List (Node × Node) → Option Node
  | [] => none
  | (key, value) :: rest =>
      match anchoredIn? number rest with
      | some node => some node
      | none =>
          match value.anchored? number with
          | some node => some node
          | none => key.anchored? number
end

def Node.resolve (document : Node) : Node → Node
  | .reference number => (document.anchored? number).getD (.reference number)
  | node => node

def readProperties : List Token → Properties × List Token
  | .anchor number :: .tag text :: rest => (⟨some number, some text⟩, rest)
  | .tag text :: .anchor number :: rest => (⟨some number, some text⟩, rest)
  | .anchor number :: rest => (⟨some number, none⟩, rest)
  | .tag text :: rest => (⟨none, some text⟩, rest)
  | tokens => ({}, tokens)

def isAbsent (ends : List Token) : List Token → Bool
  | [] => true
  | token :: _ => ends.contains token

mutual
-- A node; outside braces it may be a mapping by indentation. After its properties it may be left
-- out. The count bounds the nesting.
def readNode : Nat → Bool → List Token → Option (Node × List Token)
  | 0, _, _ => none
  | count + 1, indented, tokens =>
      let (properties, content) := readProperties tokens
      match indented, content with
      | _, .braceOpen :: rest => do
          let (entries, rest) ← readBraces count true rest
          return (.mapping properties entries, rest)
      | true, .mappingStart :: rest => do
          let (entries, rest) ← readEntries count rest
          return (.mapping properties entries, rest)
      | _, .scalar plain text :: rest => some (.scalar properties plain text, rest)
      | _, rest =>
          match tokens with
          | .reference number :: rest => some (.reference number, rest)
          | _ =>
              if properties.anchor.isSome || properties.tag.isSome then
                some (.absent properties, rest)
              else none
def readOptional : Nat → Bool → List Token → List Token → Option (Node × List Token)
  | 0, _, _, _ => none
  | count + 1, indented, ends, tokens =>
      if isAbsent ends tokens then some (.absent {}, tokens) else readNode count indented tokens
def readValue : Nat → Bool → List Token → List Token → Option (Node × List Token)
  | count + 1, indented, ends, .value :: rest => readOptional count indented ends rest
  | _, _, _, tokens => some (.absent {}, tokens)
def readEntries : Nat → List Token → Option (List (Node × Node) × List Token)
  | _, .mappingEnd :: rest => some ([], rest)
  | count + 1, .key :: rest => do
      let (key, rest) ← readOptional count true [.key, .value, .mappingEnd] rest
      let (value, rest) ← readValue count true [.key, .value, .mappingEnd] rest
      let (entries, rest) ← readEntries count rest
      return ((key, value) :: entries, rest)
  | _, _ => none
def readBraces : Nat → Bool → List Token → Option (List (Node × Node) × List Token)
  | _, _, .braceClose :: rest => some ([], rest)
  | count + 1, true, .key :: rest => do
      let (key, rest) ← readOptional count false [.value, .comma, .braceClose] rest
      let (value, rest) ← readValue count false [.comma, .braceClose] rest
      let (entries, rest) ← readBraces count false rest
      return ((key, value) :: entries, rest)
  | count + 1, true, tokens => do
      let (key, rest) ← readNode count false tokens
      let (entries, rest) ← readBraces count false rest
      return ((key, .absent {}) :: entries, rest)
  | count + 1, false, .comma :: rest => readBraces count true rest
  | _, _, _ => none
end

-- The document at the start of the tokens. After its mark, which has to follow directives, it may
-- be left out.
def readDocument (tokens : List Token) : Option (Node × List Token) :=
  let count := 3 * tokens.length + 3
  match tokens.dropWhile (· == .directive) with
  | .documentStart :: rest => readOptional count true [.documentStart, .documentEnd] rest
  | _ => readNode count true tokens

def isPrintable (c : Char) : Bool :=
  c == '\t' || c == '\n' || c == '\r' || (0x20 ≤ c.toNat && c.toNat ≤ 0x7E) || c.toNat == 0x85
    || (0xA0 ≤ c.toNat && c.toNat ≤ 0xFFFD) || 0x10000 ≤ c.toNat

def Node.parse? (text : String) : Option (Option Node) := do
  let chars := text.toList
  if chars.all isPrintable then
    match ← Token.scan? chars with
    | [] => return none
    | tokens =>
        let (node, rest) ← readDocument tokens
        if rest.all (· == .documentEnd) then return some node else none
  else none

end StackCall.Yaml
