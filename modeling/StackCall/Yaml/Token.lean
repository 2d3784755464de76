import StackCall.Yaml.Property
import StackCall.Yaml.Scalar

set_option autoImplicit false

namespace StackCall.Yaml

-- The start and the end of a mapping that is shown by indentation only, and the start of a key, are
-- tokens that have no characters of their own.
inductive Token where
  | documentStart
  | documentEnd
  | mappingStart
  | mappingEnd
  | braceOpen
  | braceClose
  | comma
  | key
  | value
  | anchor (number : Nat)
  | reference (number : Nat)
  | tag (text : String)
  | scalar (plain : Bool) (text : String)
  | directive
  deriving DecidableEq

-- A token that becomes a key when a colon follows it on its line.
structure Candidate where
  -- It stands at the indentation of its mapping, so that it has to be a key.
  required : Bool
  position : Nat
  offset : Nat
  line : Nat
  column : Nat

-- A key ends on the line on which it starts, and within 1024 characters.
def Candidate.isStale (candidate : Candidate) (cursor : Cursor) : Bool :=
  decide (candidate.line < cursor.line) || decide (candidate.offset + 1024 < cursor.offset)

structure Scanner where
  cursor : Cursor
  tokens : List Token
  indents : List Nat
  candidate : Option Candidate
  outer : List (Option Candidate)
  keyAllowed : Bool
  directives : Directives
  anchors : Dict Nat

namespace Scanner

def start (text : List Char) : Scanner :=
  ⟨Cursor.start text, [], [], none, [], true, .empty, .empty⟩

def inBraces (scanner : Scanner) : Bool := !scanner.outer.isEmpty

def indent (scanner : Scanner) : Int :=
  match scanner.indents with
  | [] => -1
  | column :: _ => column

def emit (scanner : Scanner) (token : Token) : Scanner :=
  { scanner with tokens := token :: scanner.tokens }

def insert (scanner : Scanner) (position : Nat) (token : Token) : Scanner :=
  let later := scanner.tokens.length - position
  { scanner with tokens := scanner.tokens.take later ++ token :: scanner.tokens.drop later }

def dropCandidate (scanner : Scanner) : Option Scanner :=
  match scanner.candidate with
  | some candidate =>
      if candidate.required then none else some { scanner with candidate := none }
  | none => some scanner

def saveCandidate (scanner : Scanner) : Option Scanner :=
  if scanner.keyAllowed then do
    let scanner ← scanner.dropCandidate
    let cursor := scanner.cursor
    let required := !scanner.inBraces && scanner.indent == (cursor.column : Int)
    return { scanner with
      candidate :=
        some ⟨required, scanner.tokens.length, cursor.offset, cursor.line, cursor.column⟩ }
  else some scanner

def refresh (cursor : Cursor) : Option Candidate → Option (Option Candidate)
  | none => some none
  | some candidate =>
      if candidate.isStale cursor then
        if candidate.required then none else some none
      else some (some candidate)

def dropStale (scanner : Scanner) : Option Scanner := do
  let candidate ← refresh scanner.cursor scanner.candidate
  let outer ← scanner.outer.mapM (refresh scanner.cursor)
  return { scanner with candidate := candidate, outer := outer }

def unroll (scanner : Scanner) (column : Int) : Scanner :=
  if scanner.inBraces then scanner
  else
    let ended := scanner.indents.takeWhile fun (indent : Nat) => decide (column < indent)
    { scanner with
      tokens := List.replicate ended.length .mappingEnd ++ scanner.tokens
      indents := scanner.indents.drop ended.length }

def roll (scanner : Scanner) (column position : Nat) : Scanner :=
  if scanner.inBraces || decide ((column : Int) ≤ scanner.indent) then scanner
  else
    let started := scanner.insert position .mappingStart
    { started with indents := column :: started.indents }

-- Passes over blanks, comments and line breaks. Tabs may not stand where a key may start. A byte
-- order mark may start a line, of which it takes the first column.
def skipGaps : Nat → Scanner → Scanner
  | 0, scanner => scanner
  | count + 1, scanner =>
      let cursor := scanner.cursor
      let cursor :=
        if cursor.column == 0 && cursor.rest.head? == some (Char.ofNat 0xFEFF) then cursor.skip 1
        else cursor
      let tabs := scanner.inBraces || !scanner.keyAllowed
      let cursor := cursor.skipWhile fun c => c == ' ' || (tabs && c == '\t')
      let cursor :=
        if cursor.rest.head? == some '#' then cursor.skipWhile fun c => !isBreak c else cursor
      match cursor.lineBreak? with
      | some (_, next) =>
          let keyAllowed := scanner.keyAllowed || !scanner.inBraces
          skipGaps count { scanner with cursor := next, keyAllowed := keyAllowed }
      | none => { scanner with cursor := cursor }

def mark (scanner : Scanner) (token : Token) (length : Nat) (keyAllowed : Bool) : Scanner :=
  { scanner.emit token with cursor := scanner.cursor.skip length, keyAllowed := keyAllowed }

def documentMark (scanner : Scanner) (token : Token) : Option Scanner := do
  let scanner ← (scanner.unroll (-1)).dropCandidate
  return scanner.mark token 3 false

def openBrace (scanner : Scanner) : Option Scanner := do
  let scanner ← scanner.saveCandidate
  let inner := { scanner with candidate := none, outer := scanner.candidate :: scanner.outer }
  return inner.mark .braceOpen 1 true

def closeBrace (scanner : Scanner) : Option Scanner := do
  let scanner ← scanner.dropCandidate
  let around :=
    match scanner.outer with
    | [] => scanner
    | candidate :: outer => { scanner with candidate := candidate, outer := outer }
  return around.mark .braceClose 1 false

def comma (scanner : Scanner) : Option Scanner := do
  let scanner ← scanner.dropCandidate
  return scanner.mark .comma 1 true

def rollHere? (scanner : Scanner) : Option Scanner :=
  if scanner.inBraces then some scanner
  else if scanner.keyAllowed then some (scanner.roll scanner.cursor.column scanner.tokens.length)
  else none

def explicitKey (scanner : Scanner) : Option Scanner := do
  let scanner ← scanner.rollHere?
  let scanner ← scanner.dropCandidate
  return scanner.mark .key 1 (!scanner.inBraces)

def colon (scanner : Scanner) : Option Scanner :=
  match scanner.candidate with
  | some candidate =>
      let keyed := scanner.insert candidate.position .key
      let rolled := keyed.roll candidate.column candidate.position
      some ({ rolled with candidate := none }.mark .value 1 false)
  | none => do
      let scanner ← scanner.rollHere?
      return scanner.mark .value 1 (!scanner.inBraces)

-- The number of an anchor is the number of names in use before it. When a name is used again, the
-- number that it gets may be given once more to a later anchor.
def anchor (scanner : Scanner) : Option Scanner := do
  let scanner ← scanner.saveCandidate
  let (name, cursor) ← scanner.cursor.anchorName?
  let number := scanner.anchors.size
  let found := scanner.emit (.anchor number)
  let anchors := scanner.anchors.insert name number
  return { found with cursor := cursor, keyAllowed := false, anchors := anchors }

def reference (scanner : Scanner) : Option Scanner := do
  let scanner ← scanner.saveCandidate
  let (name, cursor) ← scanner.cursor.anchorName?
  let number ← scanner.anchors.get? name
  let found := scanner.emit (.reference number)
  return { found with cursor := cursor, keyAllowed := false }

def tag (scanner : Scanner) : Option Scanner := do
  let scanner ← scanner.saveCandidate
  let (name, cursor) ← scanner.cursor.tag? scanner.inBraces
  let text ← scanner.directives.expand? name
  let found := scanner.emit (.tag text)
  return { found with cursor := cursor, keyAllowed := false }

def directive (scanner : Scanner) : Option Scanner := do
  let scanner ← (scanner.unroll (-1)).dropCandidate
  let (stated, cursor) ← scanner.cursor.directive?
  let directives ← scanner.directives.add? stated
  let found := scanner.emit .directive
  return { found with cursor := cursor, keyAllowed := false, directives := directives }

def blockScalar (scanner : Scanner) (folded : Bool) : Option Scanner := do
  let scanner ← scanner.dropCandidate
  let (text, cursor) ← scanner.cursor.block folded scanner.indent
  let found := scanner.emit (.scalar false (String.ofList text))
  return { found with cursor := cursor, keyAllowed := true }

def quotedScalar (scanner : Scanner) (double : Bool) : Option Scanner := do
  let scanner ← scanner.saveCandidate
  let (text, cursor) ← scanner.cursor.quoted double
  let found := scanner.emit (.scalar false (String.ofList text))
  return { found with cursor := cursor, keyAllowed := false }

-- A key may start after a plain scalar that has reached the end of its line.
def plainScalar (scanner : Scanner) : Option Scanner := do
  let scanner ← scanner.saveCandidate
  let plain ← scanner.cursor.plain scanner.inBraces (scanner.indent + 1).toNat
  let found := scanner.emit (.scalar true (String.ofList plain.text))
  return { found with cursor := plain.cursor, keyAllowed := plain.broken }

def isReserved (c : Char) : Bool :=
  isGap c || c == '[' || c == ']' || c == '#' || c == '|' || c == '>' || c == '%' || c == '@'
    || c.toNat == 0x60

def token (scanner : Scanner) (c : Char) (rest : List Char) : Option Scanner :=
  let loose := scanner.inBraces || startsGap rest
  if c == '%' && scanner.cursor.column == 0 then scanner.directive
  else if scanner.cursor.atMark '-' then scanner.documentMark .documentStart
  else if scanner.cursor.atMark '.' then scanner.documentMark .documentEnd
  else if c == '\x7b' then scanner.openBrace
  else if c == '\x7d' then scanner.closeBrace
  else if c == ',' then scanner.comma
  else if c == '-' && startsGap rest then none
  else if c == '?' && loose then scanner.explicitKey
  else if c == ':' && loose then scanner.colon
  else if c == '*' then scanner.reference
  else if c == '&' then scanner.anchor
  else if c == '!' then scanner.tag
  else if c == '|' && !scanner.inBraces then scanner.blockScalar false
  else if c == '>' && !scanner.inBraces then scanner.blockScalar true
  else if c == '\'' then scanner.quotedScalar false
  else if c == '"' then scanner.quotedScalar true
  else if isReserved c then none
  else scanner.plainScalar

def run : Nat → Scanner → Option (List Token)
  | 0, _ => none
  | count + 1, scanner => do
      let scanner ← (scanner.skipGaps (scanner.cursor.rest.length + 1)).dropStale
      let scanner := scanner.unroll scanner.cursor.column
      match scanner.cursor.rest with
      | [] =>
          let scanner ← (scanner.unroll (-1)).dropCandidate
          return scanner.tokens.reverse
      | c :: rest =>
          let scanner ← scanner.token c rest
          run count scanner

end Scanner

def Token.scan? (text : List Char) : Option (List Token) :=
  (Scanner.start text).run (text.length + 1)

end StackCall.Yaml
