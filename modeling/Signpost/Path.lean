import Signpost.Text.Pieces

/-!
Paths with `/` between names.  A path keeps the text it was written with; its
components are what that text means.  Normal form is reached on a stack of
names, where `.` does nothing and `..` takes the last name away.
-/

namespace Signpost

/-- A path as it was written. -/
structure Path where
  text : String
deriving DecidableEq, Repr, Inhabited

/-- What one piece of a path means. -/
inductive Component where
  | root
  | current
  | parent
  | normal (name : String)
deriving DecidableEq, Repr

/-- The component a piece stands for; empty pieces and `.` stand for none. -/
def Component.ofPiece? (piece : String) : Option Component :=
  if piece = "" ∨ piece = "." then none
  else if piece = ".." then some .parent
  else some (.normal piece)

/-- The spelling of a component. -/
def Component.text : Component → String
  | root => "/"
  | current => "."
  | parent => ".."
  | normal name => name

namespace Path

/-- A path that starts at the root of the file tree. -/
def isAbsolute (p : Path) : Bool :=
  p.text.toList.head? == some '/'

/-- The pieces of the text between slashes. -/
def pieces (p : Path) : List String :=
  (piecesBetween '/' p.text.toList).map String.ofList

/-- The components of a path.  A leading `.` counts, any later one does not. -/
def components (p : Path) : List Component :=
  let first :=
    if p.isAbsolute then [Component.root]
    else if p.pieces.head? = some "." then [Component.current]
    else []
  first ++ p.pieces.filterMap Component.ofPiece?

/-- Two spellings with the same components. -/
def same (p q : Path) : Bool :=
  p.components == q.components

theorem same_refl (p : Path) : p.same p = true := by
  simp [same]

/-- `p` lies at or below `q`, component by component. -/
def isUnder (p q : Path) : Bool :=
  q.components.isPrefixOf p.components

/-- The path made of names below the root, or below nothing. -/
def ofNames (absolute : Bool) (names : List String) : Path :=
  ⟨(if absolute then "/" else "") ++ "/".intercalate names⟩

/-- The path made of components; only the first may be the root. -/
def ofComponents : List Component → Path
  | .root :: rest => ofNames true (rest.map Component.text)
  | parts => ofNames false (parts.map Component.text)

/-- The path without its last component, where there is one to drop. -/
def parent? (p : Path) : Option Path :=
  match p.components.reverse with
  | [] => none
  | .root :: _ => none
  | _ :: rest => some (ofComponents rest.reverse)

/-- The last component, where it is a name. -/
def fileName? (p : Path) : Option String :=
  match p.components.getLast? with
  | some (.normal name) => some name
  | _ => none

/-- `q` as seen from `p`; an absolute `q` stands alone. -/
def join (p q : Path) : Path :=
  if q.isAbsolute then q
  else if p.text = "" ∨ p.text.toList.getLast? = some '/' then ⟨p.text ++ q.text⟩
  else ⟨p.text ++ "/" ++ q.text⟩

/-- One step of normalization on the stack of names, the last name first. -/
def foldComponent (absolute : Bool) (stack : List String) : Component → List String
  | .root => stack
  | .current => stack
  | .parent =>
      match stack with
      | [] => if absolute then [] else [".."]
      | _ :: rest => rest
  | .normal name => name :: stack

/-- The names left once every `..` has taken away the name before it. -/
def normalNames (p : Path) : List String :=
  (p.components.foldl (foldComponent p.isAbsolute) []).reverse

/-- The normal form of a path, found without looking at any file. -/
def normalize (p : Path) : Path :=
  ofNames p.isAbsolute p.normalNames

/-- The normal form of `relative` as seen from the directory that holds `document`. -/
def resolveAgainst (document : Path) (relative : String) : Path :=
  let base := document.parent?.getD ⟨"/"⟩
  (base.join ⟨relative⟩).normalize

/-- A path as seen from the directory `here`, keeping `..` and a trailing slash
but no other odd spelling.  Absolute and empty paths stay as they are. -/
def absolute (p here : Path) : Path :=
  if p.isAbsolute ∨ p.text = "" then p
  else
    let names := p.pieces.filterMap Component.ofPiece? |>.map Component.text
    let base := if names = [] then here else here.join (ofNames false names)
    if p.text.toList.getLast? = some '/' then base.join ⟨""⟩ else base

/-- A path and everything above it, nearest first. -/
def ancestors (p : Path) : List Path :=
  let rec above : Nat → Path → List Path
    | 0, q => [q]
    | n + 1, q =>
        match q.parent? with
        | none => [q]
        | some up => q :: above n up
  above p.components.length p

end Path

end Signpost
