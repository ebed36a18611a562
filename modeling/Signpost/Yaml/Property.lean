import Signpost.Yaml.Cursor
import Signpost.Yaml.Token

/-!
What may stand before a node or a document: anchors, aliases, tags and
directives.  Whoever asks for a tag says how many rounds may be made, and as many
as there are characters left are enough.
-/

namespace Signpost.Yaml

/-- The characters besides blanks that may follow the name of an anchor. -/
def anchorEnds : List Char :=
  ['?', ':', ',', ']', '\x7d', '%', '@', '\x60']

namespace Cursor

/-- The name behind `&` or `*`. -/
def takeAnchorName (c : Cursor) : Option (List Char × Cursor) :=
  let (name, after) := (c.skip 1).takeWhile isWordChar
  if name.isEmpty then none
  else if after.bareAt 0 || after.seesAny anchorEnds then
    some (name, after)
  else none

/-- The byte that `%` and two digits stand for. -/
def escapedByte? (c : Cursor) : Option Nat := do
  guard (c.sees '%')
  let high ← (c.ahead 1).bind hexDigit?
  let low ← (c.ahead 2).bind hexDigit?
  return high * 16 + low

/-- How many bytes the encoding of a character has that begins with this one. -/
def encodedWidth? (byte : Nat) : Option Nat :=
  if byte < 0x80 then some 1
  else if 0xC0 ≤ byte ∧ byte < 0xE0 then some 2
  else if 0xE0 ≤ byte ∧ byte < 0xF0 then some 3
  else if 0xF0 ≤ byte ∧ byte < 0xF8 then some 4
  else none

/-- The bytes that continue a character. -/
def takeContinuation (c : Cursor) : Nat → Option (List UInt8 × Cursor)
  | 0 => some ([], c)
  | n + 1 => do
      let byte ← c.escapedByte?
      guard (byte / 64 == 2)
      let (more, after) ← (c.skip 3).takeContinuation n
      return (byte.toUInt8 :: more, after)

/-- The bytes of a run of escapes.  The first byte says how many there are; that
they encode a character is not asked. -/
def takeEscapedBytes (c : Cursor) : Option (List UInt8 × Cursor) := do
  let byte ← c.escapedByte?
  let width ← encodedWidth? byte
  let (more, after) ← (c.skip 3).takeContinuation (width - 1)
  return (byte.toUInt8 :: more, after)

/-- The characters a tag may be written with; inside a shorthand the marks of
bracketed collections are not among them. -/
def isTagChar (long : Bool) (c : Char) : Bool :=
  isWordChar c || [';', '/', '?', ':', '@', '&', '=', '+', '$', '.', '%', '!', '~', '*', '\x27',
    '(', ')'].contains c || (long && [',', '[', ']'].contains c)

/-- The bytes of a tag, escapes undone.  Each round takes a character. -/
def takeTagBytes (long : Bool) : Nat → Cursor → Option (List UInt8 × Cursor)
  | 0, c => some ([], c)
  | rounds + 1, c =>
      match c.ahead 0 with
      | none => some ([], c)
      | some x =>
          if !isTagChar long x then some ([], c)
          else do
            let (first, after) ←
              if x = '%' then c.takeEscapedBytes else some ([x.toNat.toUInt8], c.skip 1)
            let (more, last) ← takeTagBytes long rounds after
            return (first ++ more, last)

/-- A tag that must not be written with no character. -/
def takeTagText (c : Cursor) (rounds : Nat) (long : Bool) : Option (Tag × Cursor) := do
  let (bytes, after) ← takeTagBytes long rounds c
  guard (!bytes.isEmpty)
  return (Tag.ended ⟨bytes⟩, after)

/-- A handle: `!`, `!!` or a word between exclamation marks; also what only
begins like one. -/
def takeHandle (c : Cursor) : Option (List Char × Cursor) := do
  guard (c.sees '!')
  let (word, after) := (c.skip 1).takeWhile isWordChar
  if after.sees '!' then return ('!' :: word ++ ['!'], after.skip 1)
  else return ('!' :: word, after)

/-- The handle and the rest of a tag.  The tag `!` alone has no handle. -/
def takeTag (c : Cursor) (rounds : Nat) : Option (Token × Cursor) := do
  if c.ahead 1 == some '<' then
    let (text, after) ← (c.skip 2).takeTagText rounds true
    guard (after.sees '>')
    return (.tag [] text, after.skip 1)
  else
    let (handle, after) ← c.takeHandle
    if 1 < handle.length && handle.getLast? == some '!' then
      let (text, after) ← after.takeTagText rounds false
      return (.tag handle text, after)
    else
      let (bytes, after) ← takeTagBytes false rounds after
      let suffix := (Tag.join (.ofChars (handle.drop 1)) ⟨bytes⟩).ended
      return (if suffix.bytes.isEmpty then .tag [] (.ofChars ['!']) else .tag ['!'] suffix, after)

/-- A number of at most nine digits. -/
def takeVersionNumber (c : Cursor) : Option (Nat × Cursor) :=
  let (digits, after) := c.takeWhile Char.isDigit
  if digits.isEmpty || 9 < digits.length then none
  else some (digits.foldl (fun n d => n * 10 + (d.toNat - 48)) 0, after)

/-- The two numbers of a version. -/
def takeVersion (c : Cursor) : Option (Token × Cursor) := do
  let (major, c) ← (c.takeWhile isGap).2.takeVersionNumber
  guard (c.sees '.')
  let (minor, c) ← (c.skip 1).takeVersionNumber
  return (.version major minor, c)

/-- A handle and what it abbreviates. -/
def takeTagHandle (c : Cursor) (rounds : Nat) : Option (Token × Cursor) := do
  let (handle, c) ← (c.takeWhile isGap).2.takeHandle
  guard (handle == ['!'] || (1 < handle.length && handle.getLast? == some '!'))
  guard c.atGap
  let (meaning, c) ← (c.takeWhile isGap).2.takeTagText rounds true
  guard (c.bareAt 0)
  return (.tagHandle handle meaning, c)

/-- A directive with its line. -/
def takeDirective (c : Cursor) (rounds : Nat) : Option (Token × Cursor) := do
  let (name, c) := (c.skip 1).takeWhile isWordChar
  guard (c.bareAt 0)
  let (token, c) ←
    if name == ['Y', 'A', 'M', 'L'] then c.takeVersion
    else if name == ['T', 'A', 'G'] then c.takeTagHandle rounds
    else none
  let c := c.skipComment
  guard (c.atBreak || c.atEnd)
  return (token, c.takeBreak.2)

end Cursor

end Signpost.Yaml
