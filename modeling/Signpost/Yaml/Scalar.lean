import Signpost.Yaml.Cursor

/-!
The three ways to write a scalar: plain, between quotes, and as a block of
lines.  In each, single line ends between lines of text become blanks, except
in a literal block, which keeps its lines.  Whoever asks for a scalar says how
many rounds may be made, and more than there are characters left are enough.
-/

namespace Signpost.Yaml

/-- The blanks met between two words: those before the first line end, the
text of that line end, and the texts of the line ends after it. -/
structure Spacing where
  blanks : List Char
  firstBreak : Option (List Char)
  moreBreaks : List Char

namespace Spacing

def none : Spacing := ⟨[], .none, []⟩

/-- What folding makes of the space between two words: one line end becomes a
blank, several lose the first, and the separators that keep their identity
stay. -/
def folded (s : Spacing) : List Char :=
  match s.firstBreak with
  | .none => s.blanks
  | some first =>
      if first = ['\n'] then if s.moreBreaks = [] then [' '] else s.moreBreaks
      else first ++ s.moreBreaks

/-- The texts of the line ends up to the next ink.  `stop` says where a blank
makes the text ill-formed.  Each round takes a character. -/
def takeBreaks (stop : Cursor → Bool) : Nat → Cursor → Option (List Char × Cursor)
  | 0, c => some ([], c)
  | rounds + 1, c =>
      if c.atGap then if stop c then .none else takeBreaks stop rounds (c.skip 1)
      else if c.atBreak then do
        let (text, after) := c.takeBreak
        let (more, last) ← takeBreaks stop rounds after
        return (text ++ more, last)
      else some ([], c)

/-- Blanks and line ends up to the next ink, behind what was met before.  `stop`
says where a blank behind a line end makes the text ill-formed. -/
def take (stop : Cursor → Bool) (rounds : Nat) (s : Spacing) (c : Cursor) :
    Option (Spacing × Cursor) :=
  match s.firstBreak with
  | some _ => do
      let (more, last) ← takeBreaks stop rounds c
      return ({ s with moreBreaks := s.moreBreaks ++ more }, last)
  | .none =>
      let (blanks, after) := c.takeWhile isGap
      if after.atBreak then do
        let (text, after) := after.takeBreak
        let (more, last) ← takeBreaks stop rounds after
        return (⟨[], some text, s.moreBreaks ++ more⟩, last)
      else some ({ s with blanks := s.blanks ++ blanks }, after)

end Spacing

namespace Cursor

/-- The character for the letter behind a backslash. -/
def namedEscape? : Char → Option Char
  | '0' => some '\x00'
  | 'a' => some '\x07'
  | 'b' => some '\x08'
  | 't' => some '\t'
  | '\t' => some '\t'
  | 'n' => some '\n'
  | 'v' => some '\x0b'
  | 'f' => some '\x0c'
  | 'r' => some '\r'
  | 'e' => some '\x1b'
  | ' ' => some ' '
  | '\x22' => some '\x22'
  | '/' => some '/'
  | '\\' => some '\\'
  | 'N' => some (Char.ofNat 0x85)
  | '_' => some (Char.ofNat 0xA0)
  | 'L' => some (Char.ofNat 0x2028)
  | 'P' => some (Char.ofNat 0x2029)
  | _ => none

/-- The number that hexadecimal digits spell. -/
def hexNumber? (digits : List Char) : Option Nat :=
  digits.foldlM (fun n d => (hexDigit? d).map (n * 16 + ·)) 0

/-- The character of an escape by number, of `width` digits. -/
def takeNumbered (c : Cursor) (width : Nat) : Option (Char × Cursor) := do
  let digits := c.rest.take width
  guard (digits.length == width)
  let n ← hexNumber? digits
  guard (n.isValidChar)
  return (Char.ofNat n, c.skip width)

/-- The character of an escape; the place is behind the backslash. -/
def takeEscape (c : Cursor) : Option (Char × Cursor) :=
  match c.ahead 0 with
  | none => none
  | some 'x' => (c.skip 1).takeNumbered 2
  | some 'u' => (c.skip 1).takeNumbered 4
  | some 'U' => (c.skip 1).takeNumbered 8
  | some x => (namedEscape? x).map fun y => (y, c.skip 1)

/-- The inside of a quoted scalar up to the closing quote.  Each round takes
one character, one escape, or the space between two words. -/
def takeQuotedText (quote : Char) : Nat → Cursor → Option (List Char × Cursor)
  | 0, _ => none
  | rounds + 1, c =>
      if c.atDocumentMarker then none
      else
        match c.ahead 0 with
        | none => none
        | some x =>
            if quote = '\x27' ∧ x = quote ∧ c.ahead 1 = some quote then do
              let (more, after) ← takeQuotedText quote rounds (c.skip 2)
              return (quote :: more, after)
            else if x = quote then some ([], c.skip 1)
            else if isGap x || isBreak x then do
              let (spacing, after) ← Spacing.take (fun _ => false) rounds .none c
              let (more, last) ← takeQuotedText quote rounds after
              return (spacing.folded ++ more, last)
            else if x = '\\' ∧ quote = '\x22' then
              if (c.skip 1).atBreak then do
                let opened : Spacing := ⟨[], some [], []⟩
                let (spacing, after) ←
                  Spacing.take (fun _ => false) rounds opened (c.skip 1).takeBreak.2
                let (more, last) ← takeQuotedText quote rounds after
                return (spacing.folded ++ more, last)
              else do
                let (y, after) ← (c.skip 1).takeEscape
                let (more, last) ← takeQuotedText quote rounds after
                return (y :: more, last)
            else do
              let (more, last) ← takeQuotedText quote rounds (c.skip 1)
              return (x :: more, last)

/-- A quoted scalar, its quotes included. -/
def takeQuoted (c : Cursor) (rounds : Nat) : Option (List Char × Cursor) :=
  match c.ahead 0 with
  | none => none
  | some quote => takeQuotedText quote rounds (c.skip 1)

/-- The characters that structure bracketed collections. -/
def isFlowMark (x : Char) : Bool :=
  [',', '[', ']', '\x7b', '\x7d'].contains x

/-- A word of a plain scalar: up to a blank, a line end, a colon before a
blank, or, inside brackets, a mark of the collection.  There a colon before
such a mark is ill-formed. -/
def takeWord (flow : Bool) : Nat → Cursor → Option (List Char × Cursor)
  | 0, c => some ([], c)
  | rounds + 1, c =>
      match c.ahead 0 with
      | none => some ([], c)
      | some x =>
          if isGap x || isBreak x then some ([], c)
          else if flow && x == ':' && (c.ahead 1).any (fun y => isFlowMark y || y == '?') then none
          else if (x == ':' && c.bareAt 1) || (flow && isFlowMark x) then some ([], c)
          else do
            let (more, after) ← takeWord flow rounds (c.skip 1)
            return (x :: more, after)

/-- A plain scalar from `spacing` on, and whether it ended behind a line end.
Continuation lines are indented by at least `indent`.  Each round takes a word
with the space behind it. -/
def takePlainText (flow : Bool) (indent : Int) :
    Nat → Spacing → Cursor → Option (List Char × Bool × Cursor)
  | 0, _, _ => none
  | rounds + 1, spacing, c =>
      let lineEnded := spacing.firstBreak.isSome
      if c.atDocumentMarker || c.sees '#' then some ([], lineEnded, c)
      else do
        let (word, after) ← takeWord flow rounds c
        let lineEnded := if word.isEmpty then lineEnded else false
        let text := if word.isEmpty then [] else spacing.folded ++ word
        if !(after.atGap || after.atBreak) then return (text, lineEnded, after)
        else
          let spacing := if word.isEmpty then spacing else .none
          let tabbed := fun here : Cursor => here.sees '\t' && (here.column : Int) < indent
          let (spacing, next) ← Spacing.take tabbed rounds spacing after
          if !flow && (next.column : Int) < indent then
            return (text, spacing.firstBreak.isSome, next)
          else
            let (more, ended, last) ← takePlainText flow indent rounds spacing next
            return (text ++ more, ended, last)

/-- A plain scalar, and whether a line ended behind it. -/
def takePlain (c : Cursor) (rounds : Nat) (flow : Bool) (indent : Int) :
    Option (List Char × Bool × Cursor) :=
  takePlainText flow indent rounds .none c

/-- What the head of a block scalar asks for: to keep all trailing line ends
(`some true`), none (`some false`) or one, and an explicit indentation. -/
structure BlockHead where
  keep : Option Bool
  indent : Option Nat

/-- The head of a block scalar behind its mark. -/
def takeBlockHead (c : Cursor) : Option (BlockHead × Cursor) :=
  let sign (c : Cursor) : Option Bool × Cursor :=
    if c.sees '+' then (some true, c.skip 1)
    else if c.sees '-' then (some false, c.skip 1)
    else (none, c)
  let digit (c : Cursor) : Option (Option Nat × Cursor) :=
    match c.ahead 0 with
    | some d =>
        if d = '0' then none
        else if d.isDigit then some (some (d.toNat - 48), c.skip 1)
        else some (none, c)
    | none => some (none, c)
  match sign c with
  | (some keep, c) => (digit c).map fun (indent, c) => (⟨some keep, indent⟩, c)
  | (none, c) => (digit c).map fun (indent, c) =>
      match indent with
      | some n =>
          let (keep, c) := sign c
          (⟨keep, some n⟩, c)
      | none => (⟨none, none⟩, c)

/-- Empty lines, and the blanks that indent the first full one.  With no
indentation known yet, blanks are taken without limit and the widest run is
returned too.  A tab among them is ill-formed.  Each round takes a line end. -/
def takeEmptyLines (indent : Option Nat) :
    Nat → Nat → Cursor → Option (List Char × Nat × Cursor)
  | 0, _, _ => none
  | rounds + 1, widest, c =>
      let narrow (column : Nat) : Bool := indent.all (column < ·)
      let blanks := c.rest.takeWhile (· == ' ')
      let count :=
        match indent with
        | none => blanks.length
        | some n => min blanks.length (n - c.column)
      let c := c.skip count
      let widest := max widest c.column
      if narrow c.column && c.sees '\t' then none
      else if c.atBreak then do
        let (text, after) := c.takeBreak
        let (more, widest, last) ← takeEmptyLines indent rounds widest after
        return (text ++ more, widest, last)
      else some ([], widest, c)

/-- What stands behind a line of a block scalar. -/
structure BlockGap where
  /-- The end of the line. -/
  lineEnd : List Char
  /-- The ends of the empty lines behind it. -/
  emptyEnds : List Char
  /-- The line began with a blank. -/
  indented : Bool

/-- What becomes of the gap between two lines.  A folded scalar makes a blank of
a line end, and nothing of one before empty lines, but keeps the ends of lines
beside one that begins with a blank. -/
def BlockGap.joined (gap : BlockGap) (literal indented : Bool) : List Char :=
  if !literal && gap.lineEnd == ['\n'] && !gap.indented && !indented then
    if gap.emptyEnds.isEmpty then [' '] else gap.emptyEnds
  else gap.lineEnd ++ gap.emptyEnds

/-- The lines of a block scalar at `indent` behind a gap, and the gap behind the
last of them.  Each round takes a line. -/
def takeBlockLines (literal : Bool) (indent : Nat) :
    Nat → BlockGap → Cursor → Option (List Char × BlockGap × Cursor)
  | 0, _, _ => none
  | rounds + 1, gap, c =>
      if c.column != indent || c.atEnd then some ([], gap, c)
      else do
        let indented := c.atGap
        let (line, c) := c.takeLine
        let (lineEnd, c) := c.takeBreak
        let (emptyEnds, _, c) ← takeEmptyLines (some indent) (rounds + 1) 0 c
        let (more, last, c) ←
          takeBlockLines literal indent rounds ⟨lineEnd, emptyEnds, indented⟩ c
        return (gap.joined literal indented ++ line ++ more, last, c)

/-- A block scalar, its mark included, below a node indented by `parent`. -/
def takeBlock (c : Cursor) (rounds : Nat) (parent : Int) : Option (List Char × Cursor) := do
  let literal := c.sees '|'
  let (head, c) ← (c.skip 1).takeBlockHead
  let c := c.skipComment
  guard (c.atBreak || c.atEnd)
  let c := c.takeBreak.2
  let known := head.indent.map fun n => ((max parent 0) + n).toNat
  let (emptyEnds, widest, c) ← takeEmptyLines known rounds 0 c
  let indent := known.getD (max widest (max (parent + 1).toNat 1))
  let (text, gap, c) ← takeBlockLines literal indent rounds ⟨[], emptyEnds, false⟩ c
  let tail :=
    match head.keep with
    | some false => []
    | none => gap.lineEnd
    | some true => gap.lineEnd ++ gap.emptyEnds
  return (text ++ tail, c)

end Cursor

end Signpost.Yaml
