/-!
Reading position in the text of a document: what is left to read, and where
that is.  Line ends are carriage returns, line feeds, both in a row, and the
three further line ends of Unicode.
-/

namespace Signpost.Yaml

/-- The characters that a document may hold at all. -/
def isAllowed (c : Char) : Bool :=
  let n := c.toNat
  n == 0x09 || n == 0x0A || n == 0x0D || (0x20 ≤ n && n ≤ 0x7E) || n == 0x85
    || (0xA0 ≤ n && n ≤ 0xD7FF) || (0xE000 ≤ n && n ≤ 0xFFFD) || 0x10000 ≤ n

/-- A character that ends a line. -/
def isBreak (c : Char) : Bool :=
  c == '\n' || c == '\r' || c.toNat == 0x85 || c.toNat == 0x2028 || c.toNat == 0x2029

/-- A blank within a line. -/
def isGap (c : Char) : Bool :=
  c == ' ' || c == '\t'

/-- A letter, digit or dash of a name. -/
def isWordChar (c : Char) : Bool :=
  c.isAlphanum || c == '_' || c == '-'

/-- The value of a hexadecimal digit. -/
def hexDigit? (c : Char) : Option Nat :=
  if c.isDigit then some (c.toNat - 48)
  else if 'a' ≤ c ∧ c ≤ 'f' then some (c.toNat - 87)
  else if 'A' ≤ c ∧ c ≤ 'F' then some (c.toNat - 55)
  else none

/-- A place in the text. -/
structure Cursor where
  rest : List Char
  /-- How many bytes lie before it. -/
  index : Nat
  line : Nat
  column : Nat
deriving Repr

namespace Cursor

/-- The start of a text. -/
def start (text : List Char) : Cursor := ⟨text, 0, 0, 0⟩

/-- The character `n` places ahead. -/
def ahead (c : Cursor) (n : Nat) : Option Char := c.rest[n]?

/-- The next character is `x`. -/
def sees (c : Cursor) (x : Char) : Bool := c.ahead 0 == some x

/-- The next character lies in a set. -/
def seesAny (c : Cursor) (xs : List Char) : Bool :=
  (c.ahead 0).any xs.contains

/-- A line end lies next. -/
def atBreak (c : Cursor) : Bool := (c.ahead 0).any isBreak

/-- A blank within the line lies next. -/
def atGap (c : Cursor) : Bool := (c.ahead 0).any isGap

/-- The text is over. -/
def atEnd (c : Cursor) : Bool := c.rest.isEmpty

/-- The place `n` ahead holds no ink: a blank, a line end, or nothing. -/
def bareAt (c : Cursor) (n : Nat) : Bool :=
  match c.ahead n with
  | none => true
  | some x => isGap x || isBreak x

/-- How many bytes the encoding of characters takes. -/
def width (cs : List Char) : Nat := cs.foldl (fun n x => n + x.utf8Size) 0

/-- Past `n` characters of one line. -/
def skip (c : Cursor) (n : Nat) : Cursor :=
  ⟨c.rest.drop n, c.index + width (c.rest.take n), c.line, c.column + n⟩

/-- Past one line end, whose text is a line feed unless it is one of the
separators that keep their identity. -/
def takeBreak (c : Cursor) : List Char × Cursor :=
  match c.rest with
  | '\r' :: '\n' :: rest => (['\n'], ⟨rest, c.index + 2, c.line + 1, 0⟩)
  | x :: rest =>
      let after : Cursor := ⟨rest, c.index + x.utf8Size, c.line + 1, 0⟩
      if x == '\n' || x == '\r' || x.toNat == 0x85 then (['\n'], after)
      else if isBreak x then ([x], after)
      else ([], c)
  | [] => ([], c)

/-- The characters of one line for which `p` holds, and the place behind them. -/
def takeWhile (c : Cursor) (p : Char → Bool) : List Char × Cursor :=
  let taken := c.rest.takeWhile p
  (taken, c.skip taken.length)

/-- The rest of the line. -/
def takeLine (c : Cursor) : List Char × Cursor :=
  c.takeWhile fun x => !isBreak x

/-- Past blanks, and past a comment if one follows. -/
def skipComment (c : Cursor) : Cursor :=
  let c := (c.takeWhile isGap).2
  if c.sees '#' then c.takeLine.2 else c

/-- A marker of three equal characters stands alone at the start of the line. -/
def atMarker (c : Cursor) (x : Char) : Bool :=
  c.column == 0 && c.ahead 0 == some x && c.ahead 1 == some x && c.ahead 2 == some x
    && c.bareAt 3

/-- The start or the end of a document is marked here. -/
def atDocumentMarker (c : Cursor) : Bool := c.atMarker '-' || c.atMarker '.'

end Cursor

end Signpost.Yaml
