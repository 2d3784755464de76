set_option autoImplicit false

namespace StackCall.Yaml

def isBlank (c : Char) : Bool := c == ' ' || c == '\t'

-- The line separators of two bytes or more are `U+0085`, `U+2028` and `U+2029`.
def isBreak (c : Char) : Bool :=
  c == '\n' || c == '\r' || c.toNat == 0x85 || c.toNat == 0x2028 || c.toNat == 0x2029

def isGap (c : Char) : Bool := isBlank c || isBreak c

def startsGap : List Char → Bool
  | [] => true
  | c :: _ => isGap c

structure Cursor where
  rest : List Char
  offset : Nat
  line : Nat
  column : Nat

namespace Cursor

def start (text : List Char) : Cursor := ⟨text, 0, 0, 0⟩

def skip (cursor : Cursor) (count : Nat) : Cursor :=
  { cursor with
    rest := cursor.rest.drop count
    offset := cursor.offset + count
    column := cursor.column + count }

def word (test : Char → Bool) (cursor : Cursor) : List Char × Cursor :=
  let found := cursor.rest.takeWhile test
  (found, cursor.skip found.length)

def skipWhile (test : Char → Bool) (cursor : Cursor) : Cursor := (cursor.word test).2

def nextLine (cursor : Cursor) (rest : List Char) (count : Nat) : Cursor :=
  ⟨rest, cursor.offset + count, cursor.line + 1, 0⟩

-- The line break at the cursor as it is read, and the start of the next line. All breaks but
-- `U+2028` and `U+2029` are read as line feeds.
def lineBreak? (cursor : Cursor) : Option (Char × Cursor) :=
  match cursor.rest with
  | '\r' :: '\n' :: rest => some ('\n', cursor.nextLine rest 2)
  | c :: rest =>
      if isBreak c then
        some (if c.toNat < 0x2028 then '\n' else c, cursor.nextLine rest 1)
      else none
  | [] => none

def endLine? (cursor : Cursor) : Option Cursor :=
  let cursor := cursor.skipWhile isBlank
  let cursor :=
    if cursor.rest.head? == some '#' then cursor.skipWhile fun c => !isBreak c else cursor
  if cursor.rest.isEmpty then some cursor else cursor.lineBreak?.map Prod.snd

def atMark (mark : Char) (cursor : Cursor) : Bool :=
  cursor.column == 0 && cursor.rest.take 3 == [mark, mark, mark] && startsGap (cursor.rest.drop 3)

def atDocumentMark (cursor : Cursor) : Bool := cursor.atMark '-' || cursor.atMark '.'

end Cursor

end StackCall.Yaml
