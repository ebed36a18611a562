import Signpost.Text.Blank

/-!
The two modes a server runs in, and what the mode means for files it serves.
-/

namespace Signpost

/-- Whether the server runs in production. -/
inductive Mode where
  | production
  | development
deriving DecidableEq, Repr

namespace Mode

/-- The mode a word names; every word but `production`, in any case and with
any blanks around it, means development. -/
def ofText (raw : String) : Mode :=
  let word := (trimBlanks raw.toList).map Char.toLower
  if String.ofList word = "production" then production else development

/-- The name of a mode. -/
def text : Mode → String
  | production => "production"
  | development => "development"

/-- A week, in seconds. -/
def week : Nat := 7 * 24 * 60 * 60

/-- How long clients may keep what they were served, in seconds. -/
def maxAge : Mode → Nat
  | production => week
  | development => 0

end Mode

end Signpost
