import StackCall.Text
import StackCall.Yaml.Cursor

set_option autoImplicit false

namespace StackCall.Yaml

structure Gap where
  blanks : List Char
  breaks : List Char
  tabbed : Bool := false

namespace Gap

def folded (gap : Gap) : List Char :=
  match gap.breaks with
  | [] => gap.blanks
  | ['\n'] => [' ']
  | '\n' :: more => more
  | breaks => breaks

-- Reads blanks and breaks. Blanks after a break are indentation and are not kept; tabs may not
-- stand in it before the given column. The count bounds the characters read.
def read (column : Nat) : Nat → Cursor → Gap → Gap × Cursor
  | 0, cursor, gap => (gap, cursor)
  | count + 1, cursor, gap =>
      match cursor.lineBreak? with
      | some (c, next) => read column count next { gap with breaks := gap.breaks ++ [c] }
      | none =>
          match cursor.rest with
          | c :: _ =>
              if isBlank c then
                if gap.breaks.isEmpty then
                  read column count (cursor.skip 1) { gap with blanks := gap.blanks ++ [c] }
                else
                  let misplaced := c == '\t' && decide (cursor.column < column)
                  read column count (cursor.skip 1)
                    { gap with tabbed := gap.tabbed || misplaced }
              else (gap, cursor)
          | [] => (gap, cursor)

end Gap

def Cursor.gap (cursor : Cursor) (column : Nat) : Gap × Cursor :=
  Gap.read column (cursor.rest.takeWhile isGap).length cursor ⟨[], [], false⟩

def isFlowIndicator (c : Char) : Bool :=
  c == ',' || c == '[' || c == ']' || c == '\x7b' || c == '\x7d'

def endsColon : List Char → Bool
  | c :: _ => isFlowIndicator c || c == '?'
  | [] => false

def wordLength? (flow : Bool) : List Char → Option Nat
  | [] => some 0
  | c :: rest =>
      if isGap c then some 0
      else if flow && c == ':' && endsColon rest then none
      else if c == ':' && startsGap rest then some 0
      else if flow && isFlowIndicator c then some 0
      else (wordLength? flow rest).map (· + 1)

structure PlainScalar where
  text : List Char
  cursor : Cursor
  broken : Bool

-- Words and gaps up to a comment, a document mark, an indicator, or a line that is indented less
-- than the given column. The gap is written only when another word follows it.
def readPlain (flow : Bool) (column : Nat) : Nat → Cursor → Gap → Option PlainScalar
  | 0, cursor, gap => some ⟨[], cursor, !gap.breaks.isEmpty⟩
  | count + 1, cursor, gap =>
      if cursor.atDocumentMark || cursor.rest.head? == some '#' then
        some ⟨[], cursor, !gap.breaks.isEmpty⟩
      else
        match wordLength? flow cursor.rest with
        | none => none
        | some 0 => some ⟨[], cursor, !gap.breaks.isEmpty⟩
        | some (length + 1) =>
            let written := gap.folded ++ cursor.rest.take (length + 1)
            let (gap, next) := (cursor.skip (length + 1)).gap column
            if gap.tabbed then none
            else if !flow && decide (next.column < column) then
              some ⟨written, next, !gap.breaks.isEmpty⟩
            else
              (readPlain flow column count next gap).map fun scalar =>
                { scalar with text := written ++ scalar.text }

def Cursor.plain (cursor : Cursor) (flow : Bool) (column : Nat) : Option PlainScalar :=
  readPlain flow column (cursor.rest.length + 1) cursor ⟨[], [], false⟩

def namedEscape? (c : Char) : Option Char :=
  match c with
  | '0' => some (Char.ofNat 0)
  | 'a' => some (Char.ofNat 7)
  | 'b' => some (Char.ofNat 8)
  | 't' | '\t' => some '\t'
  | 'n' => some '\n'
  | 'v' => some (Char.ofNat 11)
  | 'f' => some (Char.ofNat 12)
  | 'r' => some '\r'
  | 'e' => some (Char.ofNat 27)
  | ' ' => some ' '
  | '"' => some '"'
  | '/' => some '/'
  | '\\' => some '\\'
  | 'N' => some (Char.ofNat 0x85)
  | '_' => some (Char.ofNat 0xA0)
  | 'L' => some (Char.ofNat 0x2028)
  | 'P' => some (Char.ofNat 0x2029)
  | _ => none

def codeLength? (c : Char) : Option Nat :=
  match c with
  | 'x' => some 2
  | 'u' => some 4
  | 'U' => some 8
  | _ => none

def codePoint? (digits : List Char) : Option Char := do
  let code ← Text.Hex.value? digits
  if code.isValidChar then some (Char.ofNat code) else none

def readEscape? : List Char → Option (Char × Nat)
  | [] => none
  | c :: rest =>
      match namedEscape? c with
      | some meant => some (meant, 1)
      | none =>
          match codeLength? c with
          | none => none
          | some length =>
              if rest.length < length then none
              else (codePoint? (rest.take length)).map fun meant => (meant, length + 1)

def readQuoted (double : Bool) : Nat → Cursor → Option (List Char × Cursor)
  | 0, _ => none
  | count + 1, cursor =>
      if cursor.atDocumentMark then none
      else
        match cursor.rest with
        | [] => none
        | c :: rest =>
            if isGap c then
              let (gap, next) := cursor.gap 0
              (readQuoted double count next).map fun (text, last) => (gap.folded ++ text, last)
            else if !double && c == '\'' then
              match rest with
              | '\'' :: _ =>
                  (readQuoted double count (cursor.skip 2)).map fun (text, last) =>
                    ('\'' :: text, last)
              | _ => some ([], cursor.skip 1)
            else if double && c == '"' then some ([], cursor.skip 1)
            else if double && c == '\\' then
              match (cursor.skip 1).lineBreak? with
              | some (_, line) =>
                  let (gap, next) := line.gap 0
                  (readQuoted double count next).map fun (text, last) =>
                    (gap.breaks ++ text, last)
              | none =>
                  match readEscape? rest with
                  | none => none
                  | some (meant, length) =>
                      (readQuoted double count (cursor.skip (length + 1))).map
                        fun (text, last) => (meant :: text, last)
            else
              (readQuoted double count (cursor.skip 1)).map fun (text, last) => (c :: text, last)

def Cursor.quoted (cursor : Cursor) (double : Bool) : Option (List Char × Cursor) :=
  readQuoted double (cursor.rest.length + 1) (cursor.skip 1)

inductive Chomp where
  | strip
  | clip
  | keep
  deriving DecidableEq

structure BlockHeader where
  chomp : Chomp
  width : Option Nat

def chomp? (c : Char) : Option Chomp :=
  match c with
  | '+' => some .keep
  | '-' => some .strip
  | _ => none

def width? (c : Char) : Option Nat := if c.isDigit then some (c.toNat - 48) else none

def readBlockHeader (input : List Char) : Option (BlockHeader × Nat) :=
  let found : BlockHeader × Nat :=
    match input with
    | [] => (⟨.clip, none⟩, 0)
    | first :: rest =>
        match chomp? first, width? first with
        | some chomp, _ =>
            match rest.head?.bind width? with
            | some width => (⟨chomp, some width⟩, 2)
            | none => (⟨chomp, none⟩, 1)
        | none, some width =>
            match rest.head?.bind chomp? with
            | some chomp => (⟨chomp, some width⟩, 2)
            | none => (⟨.clip, some width⟩, 1)
        | none, none => (⟨.clip, none⟩, 0)
  if found.1.width == some 0 then none else some found

-- Empty lines before a line of a block: their breaks, the widest indentation seen, and the cursor.
-- Without a width all spaces are indentation; tabs may never stand in it.
def readEmptyLines (width : Option Nat) :
    Nat → Cursor → List Char → Nat → Option (List Char × Nat × Cursor)
  | 0, cursor, breaks, widest => some (breaks, widest, cursor)
  | count + 1, cursor, breaks, widest =>
      let open? (column : Nat) : Bool :=
        match width with
        | some width => decide (column < width)
        | none => true
      let spaces := (cursor.rest.takeWhile (· == ' ')).length
      let indent :=
        match width with
        | some width => min spaces (width - cursor.column)
        | none => spaces
      let cursor := cursor.skip indent
      let widest := max widest cursor.column
      if open? cursor.column && cursor.rest.head? == some '\t' then none
      else
        match cursor.lineBreak? with
        | some (c, next) => readEmptyLines width count next (breaks ++ [c]) widest
        | none => some (breaks, widest, cursor)

def Cursor.emptyLines (cursor : Cursor) (width : Option Nat) :
    Option (List Char × Nat × Cursor) :=
  readEmptyLines width ((cursor.rest.takeWhile isGap).length + 1) cursor [] 0

-- The lines of a block that are indented to the given width. A folded block joins two lines by a
-- space unless one of them starts with a blank; `last` is the break after the line before, and
-- `breaks` are those of the empty lines since.
def readBlockLines (folded : Bool) (width : Nat) (chomp : Chomp) :
    Nat → Cursor → List Char → List Char → Bool → Option (List Char × Cursor)
  | 0, _, _, _, _ => none
  | count + 1, cursor, last, breaks, afterBlank =>
      if cursor.column = width ∧ cursor.rest ≠ [] then do
        let blank := (cursor.rest.head?.map isBlank).getD false
        let joint :=
          if folded && last == ['\n'] && !afterBlank && !blank then
            if breaks.isEmpty then [' '] else breaks
          else last ++ breaks
        let line := cursor.rest.takeWhile fun c => !isBreak c
        let after := cursor.skip line.length
        let (last, next) :=
          match after.lineBreak? with
          | some (c, next) => ([c], next)
          | none => ([], after)
        let (breaks, _, start) ← next.emptyLines (some width)
        let (text, final) ← readBlockLines folded width chomp count start last breaks blank
        return (joint ++ line ++ text, final)
      else
        let ending :=
          match chomp with
          | .strip => []
          | .clip => last
          | .keep => last ++ breaks
        some (ending, cursor)

-- The block scalar at the cursor, which stands on its mark. Its lines are indented at least by one
-- space, and more than the mapping that it stands in, whose indentation is given.
def Cursor.block (cursor : Cursor) (folded : Bool) (outer : Int) :
    Option (List Char × Cursor) := do
  let (header, length) ← readBlockHeader (cursor.rest.drop 1)
  let cursor ← (cursor.skip (1 + length)).endLine?
  let width := header.width.map fun width => (max outer 0).toNat + width
  let (breaks, widest, cursor) ← cursor.emptyLines width
  let width := width.getD (max (max widest (outer + 1).toNat) 1)
  readBlockLines folded width header.chomp (cursor.rest.length + 1) cursor [] breaks false

end StackCall.Yaml
