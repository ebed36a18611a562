import Signpost.Yaml.Property
import Signpost.Yaml.Scalar

/-!
The tokens of a document.  Indentation opens and closes block collections; a
colon makes a key of the node before it on its line, so the place where that
node began is remembered as a candidate, one for every level of brackets.
-/

namespace Signpost.Yaml

/-- Where a node began that a colon may turn into a key. -/
structure KeyCandidate where
  /-- At this indentation nothing but a key may stand. -/
  required : Bool
  /-- How many tokens came before. -/
  place : Nat
  index : Nat
  line : Nat
  column : Nat
deriving Repr

/-- The state between two tokens.  Tokens are held last first, and there is one
candidate for the block level and one for every open bracket, innermost first. -/
structure Lexer where
  cursor : Cursor
  tokens : List Token
  count : Nat
  indent : Int
  outerIndents : List Int
  candidates : List (Option KeyCandidate)
  keyAllowed : Bool
deriving Repr

namespace Lexer

/-- The state before the first token. -/
def start (text : List Char) : Lexer :=
  ⟨Cursor.start text, [], 0, -1, [], [none], true⟩

/-- Whether brackets are open. -/
def inFlow (s : Lexer) : Bool :=
  match s.candidates with
  | _ :: _ :: _ => true
  | _ => false

/-- Add a token. -/
def push (s : Lexer) (t : Token) : Lexer :=
  { s with tokens := t :: s.tokens, count := s.count + 1 }

/-- Insert a token before all but the first `place` ones. -/
def insert (s : Lexer) (place : Nat) (t : Token) : Lexer :=
  { s with tokens := s.tokens.insertIdx (s.count - place) t, count := s.count + 1 }

/-- Go on from another place of the text. -/
def moveTo (s : Lexer) (c : Cursor) : Lexer := { s with cursor := c }

/-- The candidate of the innermost level. -/
def candidate? (s : Lexer) : Option KeyCandidate := s.candidates.head?.join

/-- Forget the candidate of the innermost level; a required one must not be lost. -/
def dropCandidate (s : Lexer) : Option Lexer :=
  match s.candidates with
  | some k :: rest => if k.required then none else some { s with candidates := none :: rest }
  | _ => some s

/-- Remember this place as the start of a possible key. -/
def saveCandidate (s : Lexer) : Option Lexer :=
  if s.keyAllowed then do
    let k : KeyCandidate :=
      ⟨!s.inFlow && s.indent == (s.cursor.column : Int), s.count, s.cursor.index, s.cursor.line,
        s.cursor.column⟩
    let s ← s.dropCandidate
    return { s with candidates := some k :: s.candidates.drop 1 }
  else some s

/-- The longest text of a key, in bytes. -/
def maxKeyLength : Nat := 1024

/-- Whether a candidate is out of reach: on an earlier line or too far back. -/
def isStale (s : Lexer) (k : KeyCandidate) : Bool :=
  k.line < s.cursor.line || k.index + maxKeyLength < s.cursor.index

/-- Forget the candidates that are out of reach; a required one must not be. -/
def dropStale (s : Lexer) : Option Lexer :=
  if !s.candidates.any fun k => k.any s.isStale then some s
  else if s.candidates.any fun k => k.any fun k => s.isStale k && k.required then none
  else some { s with candidates := s.candidates.map fun k => k.filter fun k => !s.isStale k }

/-- Open a block collection if the column is deeper than the indentation. -/
def rollIndent (s : Lexer) (column : Nat) (place : Option Nat) (t : Token) : Lexer :=
  if s.inFlow || (column : Int) ≤ s.indent then s
  else
    let s := { s with indent := column, outerIndents := s.indent :: s.outerIndents }
    match place with
    | some n => s.insert n t
    | none => s.push t

/-- Close the block collections that are deeper than the column. -/
def unrollIndent (s : Lexer) (column : Int) : Lexer :=
  if s.inFlow then s
  else
    let open_ := (s.indent :: s.outerIndents).takeWhile (column < ·)
    let rest := (s.indent :: s.outerIndents).drop open_.length
    let s := open_.foldl (fun s _ => s.push .blockEnd) s
    { s with indent := rest.headD (-1), outerIndents := rest.drop 1 }

/-- The mark that may start a line. -/
def byteOrderMark : Char := '\ufeff'

/-- Past blanks, comments and line ends.  A byte order mark may start a line, of
which it takes a column.  A tab is no blank where a key could start.  Each round
takes a line. -/
def skipToInk : Nat → Lexer → Lexer
  | 0, s => s
  | rounds + 1, s =>
      let c :=
        if s.cursor.column == 0 && s.cursor.sees byteOrderMark then s.cursor.skip 1 else s.cursor
      let tabs := s.inFlow || !s.keyAllowed
      let c := (c.takeWhile fun x => x == ' ' || (tabs && x == '\t')).2
      let c := if c.sees '#' then c.takeLine.2 else c
      if c.atBreak then
        skipToInk rounds
          { s with cursor := c.takeBreak.2, keyAllowed := s.keyAllowed || !s.inFlow }
      else s.moveTo c

/-- A token of `width` characters that begins something new at block level. -/
def takeDocumentMark (s : Lexer) (t : Token) : Option Lexer := do
  let s ← (s.unrollIndent (-1)).dropCandidate
  return ({ s with keyAllowed := false }.moveTo (s.cursor.skip 3)).push t

/-- A directive. -/
def takeDirective (s : Lexer) (rounds : Nat) : Option Lexer := do
  let s ← (s.unrollIndent (-1)).dropCandidate
  let (t, c) ← s.cursor.takeDirective rounds
  return ({ s with keyAllowed := false }.moveTo c).push t

/-- An opening bracket. -/
def openFlow (s : Lexer) (t : Token) : Option Lexer := do
  let s ← s.saveCandidate
  return ({ s with candidates := none :: s.candidates, keyAllowed := true }.moveTo
    (s.cursor.skip 1)).push t

/-- A closing bracket. -/
def closeFlow (s : Lexer) (t : Token) : Option Lexer := do
  let s ← s.dropCandidate
  let candidates := if s.inFlow then s.candidates.drop 1 else s.candidates
  return ({ s with candidates, keyAllowed := false }.moveTo (s.cursor.skip 1)).push t

/-- The comma between items in brackets. -/
def takeFlowEntry (s : Lexer) : Option Lexer := do
  let s ← s.dropCandidate
  return ({ s with keyAllowed := true }.moveTo (s.cursor.skip 1)).push .flowEntry

/-- The dash before an item. -/
def takeEntry (s : Lexer) : Option Lexer := do
  guard (s.inFlow || s.keyAllowed)
  let s ← (s.rollIndent s.cursor.column none .sequenceStart).dropCandidate
  return ({ s with keyAllowed := true }.moveTo (s.cursor.skip 1)).push .entry

/-- The question mark before a key. -/
def takeKey (s : Lexer) : Option Lexer := do
  guard (s.inFlow || s.keyAllowed)
  let s ← (s.rollIndent s.cursor.column none .mappingStart).dropCandidate
  return ({ s with keyAllowed := !s.inFlow }.moveTo (s.cursor.skip 1)).push .key

/-- The colon before a value; it makes a key of the candidate, if there is one. -/
def takeValue (s : Lexer) : Option Lexer :=
  match s.candidate? with
  | some k =>
      let s := (s.insert k.place .key).rollIndent k.column (some k.place) .mappingStart
      let s := { s with candidates := none :: s.candidates.drop 1, keyAllowed := false }
      some ((s.moveTo (s.cursor.skip 1)).push .value)
  | none => do
      guard (s.inFlow || s.keyAllowed)
      let s := s.rollIndent s.cursor.column none .mappingStart
      return ({ s with keyAllowed := !s.inFlow }.moveTo (s.cursor.skip 1)).push .value

/-- A token that may begin a key, read by `take`. -/
def takeInline (s : Lexer) (take : Cursor → Option (Token × Cursor)) : Option Lexer := do
  let s ← s.saveCandidate
  let (t, c) ← take s.cursor
  return ({ s with keyAllowed := false }.moveTo c).push t

/-- A tag, which a blank or, between items, a comma must follow. -/
def takeTag (s : Lexer) (rounds : Nat) : Option Lexer :=
  s.takeInline fun c => do
    let (t, after) ← c.takeTag rounds
    guard (after.bareAt 0 || (s.inFlow && after.sees ','))
    return (t, after)

/-- A block scalar. -/
def takeBlock (s : Lexer) (rounds : Nat) : Option Lexer := do
  let s ← s.dropCandidate
  let (text, c) ← s.cursor.takeBlock rounds s.indent
  return ({ s with keyAllowed := true }.moveTo c).push (.scalar false text)

/-- A plain scalar; behind a line end a key may follow. -/
def takePlain (s : Lexer) (rounds : Nat) : Option Lexer := do
  let s ← s.saveCandidate
  let (text, lineEnded, c) ← s.cursor.takePlain rounds s.inFlow (s.indent + 1)
  return ({ s with keyAllowed := lineEnded }.moveTo c).push (.scalar true text)

/-- The characters that begin no plain scalar. -/
def indicators : List Char :=
  ['-', '?', ':', ',', '[', ']', '\x7b', '\x7d', '#', '&', '*', '!', '|', '>', '\x27', '\x22',
    '%', '@', '\x60']

/-- Whether a plain scalar begins with `x`, the next character. -/
def beginsPlain (s : Lexer) (x : Char) : Bool :=
  (!isGap x && !indicators.contains x)
    || (x == '-' && !(s.cursor.ahead 1).any isGap)
    || (!s.inFlow && (x == '?' || x == ':') && !s.cursor.bareAt 1)

/-- The token that begins with `x`, the next character.  More rounds than there
are characters left are enough for it. -/
def takeToken (s : Lexer) (rounds : Nat) (x : Char) : Option Lexer :=
  let c := s.cursor
  if c.column == 0 && x == '%' then s.takeDirective rounds
  else if c.atMarker '-' then s.takeDocumentMark .documentStart
  else if c.atMarker '.' then s.takeDocumentMark .documentEnd
  else if x == '[' then s.openFlow .flowSequenceStart
  else if x == '\x7b' then s.openFlow .flowMappingStart
  else if x == ']' then s.closeFlow .flowSequenceEnd
  else if x == '\x7d' then s.closeFlow .flowMappingEnd
  else if x == ',' then s.takeFlowEntry
  else if x == '-' && c.bareAt 1 then s.takeEntry
  else if x == '?' && (s.inFlow || c.bareAt 1) then s.takeKey
  else if x == ':' && (s.inFlow || c.bareAt 1) then s.takeValue
  else if x == '*' then s.takeInline fun c => c.takeAnchorName.map fun (n, c) => (.aliasOf n, c)
  else if x == '&' then s.takeInline fun c => c.takeAnchorName.map fun (n, c) => (.anchor n, c)
  else if x == '!' then s.takeTag rounds
  else if (x == '|' || x == '>') && !s.inFlow then s.takeBlock rounds
  else if x == '\x27' || x == '\x22' then
    s.takeInline fun c => (c.takeQuoted rounds).map fun (t, c) => (.scalar false t, c)
  else if s.beginsPlain x then s.takePlain rounds
  else none

/-- The end of the text, which closes every block collection. -/
def finish (s : Lexer) : Option Lexer :=
  (s.unrollIndent (-1)).dropCandidate

/-- All tokens of the rest of the text.  Each round takes at least one character,
so that more rounds than there are characters left are enough at every moment. -/
def run : Nat → Lexer → Option Lexer
  | 0, _ => none
  | rounds + 1, s => do
      let s ← (skipToInk (rounds + 1) s).dropStale
      let s := s.unrollIndent s.cursor.column
      match s.cursor.ahead 0 with
      | none => s.finish
      | some x => run rounds (← s.takeToken (rounds + 1) x)

end Lexer

/-- The tokens of a text, or nothing where it is ill-formed. -/
def tokens? (text : List Char) : Option (List Token) := do
  guard (text.all isAllowed)
  let s ← Lexer.run (text.length + 1) (Lexer.start text)
  return s.tokens.reverse

end Signpost.Yaml
