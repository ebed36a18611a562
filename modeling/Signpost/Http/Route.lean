import Signpost.Path

/-!
Patterns for request paths.  Between braces stands a name for one segment, or
behind an asterisk a name for all the rest; doubled braces stand for themselves.
-/

namespace Signpost

/-- A part of a pattern. -/
inductive RoutePart where
  | literal (c : Char)
  /-- Everything up to the next slash, which is nothing only where that slash
  stands at once. -/
  | segment
  /-- Everything, and something at least. -/
  | rest
deriving DecidableEq, Repr

/-- A pattern for request paths. -/
structure RoutePattern where
  parts : List RoutePart
deriving DecidableEq, Repr

namespace RoutePattern

/-- The characters of a pattern, and of each whether it is a doubled brace. -/
def unescape : List Char → List (Char × Bool)
  | '\x7b' :: '\x7b' :: rest => ('\x7b', true) :: unescape rest
  | '\x7d' :: '\x7d' :: rest => ('\x7d', true) :: unescape rest
  | c :: rest => (c, false) :: unescape rest
  | [] => []

/-- Where the reading of a pattern stands between two characters. -/
inductive Place where
  | outside
  /-- Behind an opening brace. -/
  | opened
  /-- In the name of a segment. -/
  | segmentName
  /-- Behind a segment. -/
  | segmentEnd
  /-- Behind the asterisk of a rest. -/
  | starred
  /-- In the name of a rest. -/
  | restName
  /-- Behind a rest. -/
  | restEnd
deriving DecidableEq, Repr

/-- The characters that no name holds behind its first. -/
def endsName (c : Char) : Bool := c == '*' || c == '/'

/-- The parts that characters spell. -/
def parts? (place : Place) : List (Char × Bool) → Option (List RoutePart)
  | [] =>
      match place with
      | .outside | .segmentEnd => some []
      | .restEnd => some [.rest]
      | _ => none
  | (c, escaped) :: more =>
      let isClose := c == '\x7d' && !escaped
      match place with
      | .outside =>
          if isClose then none
          else if c = '\x7b' ∧ !escaped then parts? .opened more
          else (.literal c :: ·) <$> parts? .outside more
      | .opened =>
          if c = '\x7d' then none
          else if c = '*' then parts? .starred more
          else parts? .segmentName more
      | .segmentName =>
          if isClose then (.segment :: ·) <$> parts? .segmentEnd more
          else if endsName c then none
          else parts? .segmentName more
      | .segmentEnd =>
          if c = '/' then (.literal c :: ·) <$> parts? .outside more else none
      | .starred =>
          if isClose || endsName c then none else parts? .restName more
      | .restName =>
          if isClose then parts? .restEnd more
          else if endsName c then none
          else parts? .restName more
      | .restEnd => none

/-- How many segments a pattern may name. -/
def maxSegments : Nat := 25

/-- The pattern that a text spells.  It begins with a slash, and no segment
begins with a colon or an asterisk. -/
def parse? (text : String) : Option RoutePattern := do
  let chars := text.toList
  if chars.head? ≠ some '/' then none
  else if (piecesBetween '/' chars).any fun s => s.head? == some ':' || s.head? == some '*' then none
  else
    let parts ← parts? .outside (unescape chars)
    if parts.count .segment ≤ maxSegments then some ⟨parts⟩ else none

/-- A path spells these parts. -/
def matchesParts : List RoutePart → List Char → Bool
  | [], path => path.isEmpty
  | .literal c :: more, d :: path => c == d && matchesParts more path
  | .literal _ :: _, [] => false
  | .segment :: more, path =>
      !path.isEmpty && matchesParts more (path.dropWhile (· != '/'))
  | .rest :: more, path => more.isEmpty && !path.isEmpty

/-- A request path has the form of a pattern. -/
def accepts (pattern : RoutePattern) (path : String) : Bool :=
  matchesParts pattern.parts path.toList

end RoutePattern

end Signpost
