import Signpost.IoError
import Signpost.Path

/-!
A file tree with symbolic links.  A disk says what lies at each location and
which directory is the current one; a path is followed one piece at a time,
and every link met on the way takes one from a budget of forty.
-/

namespace Signpost

/-- A place in the tree: the names on the way down from its root. -/
abbrev Location := List String

/-- What lies at a location. -/
inductive Entry where
  | directory
  /-- A regular file and the second of its last change, counted from 1970. -/
  | file (content : ByteArray) (modified : Int)
  /-- A symbolic link. -/
  | link (target : Path)

/-- One step on the way along a path. -/
inductive Step where
  | stay
  | up
  | down (name : String)
deriving DecidableEq, Repr

namespace Step

/-- The step a piece of a path asks for. -/
def ofPiece? (piece : String) : Option Step :=
  if piece = "" then none
  else if piece = "." then some stay
  else if piece = ".." then some up
  else some (down piece)

/-- The steps of a path.  A slash at its end asks for a directory, which
staying in place makes sure of. -/
def ofPath (p : Path) : List Step :=
  p.pieces.filterMap ofPiece? ++
    if p.text.toList.getLast? = some '/' then [stay] else []

end Step

/-- A file tree as seen from a current directory. -/
structure Disk where
  listed? : Location → Option Entry
  here : Location
  /-- The size that a directory tells of itself, and the second of its last change. -/
  directoryStatus : Location → Nat × Int := fun _ => (0, 0)

namespace Disk

/-- The disk on which there is nothing but its root. -/
def empty (here : Location) : Disk where
  listed? _ := none
  here := here

/-- What lies at a location; the root is always a directory. -/
def at? (disk : Disk) (place : Location) : Option Entry :=
  if place = [] then some .directory else disk.listed? place

/-- The longest name, in bytes. -/
def maxNameSize : Nat := 255

/-- The shortest path that is too long, in bytes. -/
def pathSizeLimit : Nat := 4096

/-- How many links one path may lead through. -/
def linkBudget : Nat := 40

/-- The location that steps from a directory lead to.  Every link is followed,
also one at the end; the last name may be missing. -/
def locate (disk : Disk) (links : Nat) (start : Location) (steps : List Step) :
    Except IoError Location :=
  match steps with
  | [] => .ok start
  | .stay :: rest => disk.locate links start rest
  | .up :: rest => disk.locate links start.dropLast rest
  | .down name :: rest =>
      if maxNameSize < name.utf8ByteSize then .error .nameTooLong
      else
        let next := start ++ [name]
        match disk.at? next with
        | none => if rest.isEmpty then .ok next else .error .notFound
        | some .directory => disk.locate links next rest
        | some (.file _ _) => if rest.isEmpty then .ok next else .error .notADirectory
        | some (.link target) =>
            match links with
            | 0 => .error .tooManyLinks
            | fewer + 1 =>
                let origin := if target.isAbsolute then [] else start
                disk.locate fewer origin (Step.ofPath target ++ rest)
termination_by (links, steps.length)

/-- The location a path leads to; the last name may be missing. -/
def locatePath (disk : Disk) (p : Path) : Except IoError Location :=
  if p.text = "" then .error .notFound
  else if p.text.toList.contains '\x00' then .error .nulInName
  else if pathSizeLimit ≤ p.text.utf8ByteSize then .error .nameTooLong
  else disk.locate linkBudget (if p.isAbsolute then [] else disk.here) (Step.ofPath p)

/-- The location a path leads to, and what lies there. -/
def find (disk : Disk) (p : Path) : Except IoError (Location × Entry) := do
  let place ← disk.locatePath p
  match disk.at? place with
  | some entry => return (place, entry)
  | none => throw .notFound

/-- The size of the text that spells a location, in bytes. -/
def spelledSize (place : Location) : Nat := (Path.ofNames true place).text.utf8ByteSize

/-- The true location that steps from a directory lead to.  Unlike for `locate`, what lies
there must exist, and every location on the way is looked up by its own text, which
must not be too long, with a slash behind that of a directory where steps are left. -/
def trace (disk : Disk) (links : Nat) (start : Location) (steps : List Step) :
    Except IoError Location :=
  match steps with
  | [] => .ok start
  | .stay :: rest => disk.trace links start rest
  | .up :: rest => disk.trace links start.dropLast rest
  | .down name :: rest =>
      let next := start ++ [name]
      if maxNameSize < name.utf8ByteSize ∨ pathSizeLimit ≤ spelledSize next then
        .error .nameTooLong
      else
        match disk.at? next with
        | none => .error .notFound
        | some .directory =>
            if rest = [] ∨ spelledSize next + 1 < pathSizeLimit then disk.trace links next rest
            else .error .nameTooLong
        | some (.file _ _) => if rest.isEmpty then .ok next else .error .notADirectory
        | some (.link target) =>
            match links with
            | 0 => .error .tooManyLinks
            | fewer + 1 =>
                let origin := if target.isAbsolute then [] else start
                disk.trace fewer origin (Step.ofPath target ++ rest)
termination_by (links, steps.length)

/-- The true location of an existing path, all links followed.  The path itself may be as
long as one likes. -/
def realPath (disk : Disk) (p : Path) : Except IoError Location :=
  if p.text = "" then .error .notFound
  else if p.text.toList.contains '\x00' then .error .nulInName
  else disk.trace linkBudget (if p.isAbsolute then [] else disk.here) (Step.ofPath p)

/-- The true location of a path, if it can be told. -/
def canonical? (disk : Disk) (p : Path) : Option Location :=
  (disk.realPath p).toOption

/-- The bytes of a file. -/
def read (disk : Disk) (p : Path) : Except IoError ByteArray := do
  match ← disk.find p with
  | (_, .file content _) => return content
  | _ => throw .isADirectory

/-- The text of bytes that are well-formed UTF-8. -/
def decodeText (content : ByteArray) : Except IoError String :=
  match String.fromUTF8? content with
  | some text => .ok text
  | none => .error .notUtf8

/-- The current directory as a path. -/
def herePath (disk : Disk) : Path :=
  Path.ofNames true disk.here

/-- The disk with `entry` at one location. -/
def put (disk : Disk) (place : Location) (entry : Entry) : Disk :=
  { disk with listed? := fun other => if other = place then some entry else disk.listed? other }

theorem listed?_put_self (disk : Disk) (place : Location) (entry : Entry) :
    (disk.put place entry).listed? place = some entry := by
  simp [put]

theorem listed?_put_of_ne (disk : Disk) {place other : Location} (entry : Entry)
    (h : other ≠ place) : (disk.put place entry).listed? other = disk.listed? other := by
  simp [put, h]

/-- The disk without a location and all that lies below it. -/
def erase (disk : Disk) (place : Location) : Disk :=
  { disk with listed? := fun other => if place.isPrefixOf other then none else disk.listed? other }

/-- Walk along steps, making every missing directory on the way.  The location
is missing where something else stands in the way; what was made before stays. -/
def makeDirectories (disk : Disk) (links : Nat) (start : Location) (steps : List Step) :
    Disk × Option Location :=
  match steps with
  | [] => (disk, some start)
  | .stay :: rest => disk.makeDirectories links start rest
  | .up :: rest => disk.makeDirectories links start.dropLast rest
  | .down name :: rest =>
      let next := start ++ [name]
      match disk.at? next with
      | none =>
          if maxNameSize < name.utf8ByteSize then (disk, none)
          else (disk.put next .directory).makeDirectories links next rest
      | some .directory => disk.makeDirectories links next rest
      | some (.file _ _) => (disk, none)
      | some (.link target) =>
          match links with
          | 0 => (disk, none)
          | fewer + 1 =>
              let origin := if target.isAbsolute then [] else start
              match disk.locate fewer origin (Step.ofPath target) with
              | .error _ => (disk, none)
              | .ok place =>
                  match disk.at? place with
                  | some .directory => disk.makeDirectories fewer place rest
                  | _ => (disk, none)
termination_by (links, steps.length)

/-- The disk with the directory at a path, and the location of that directory. -/
def makeDirectoryPath (disk : Disk) (p : Path) : Disk × Option Location :=
  if p.text.toList.contains '\x00' ∨ pathSizeLimit ≤ p.text.utf8ByteSize then (disk, none)
  else disk.makeDirectories linkBudget (if p.isAbsolute then [] else disk.here) (Step.ofPath p)

/-- The disk with a directory at a path, and every directory above it. -/
def withDirectory (disk : Disk) (p : Path) : Disk :=
  (disk.makeDirectoryPath p).1

/-- The disk with the directory in which a path lies. -/
def withParent (disk : Disk) (p : Path) : Disk :=
  match p.parent? with
  | none => disk
  | some up => disk.withDirectory up

/-- The disk with a file of this content at a path; where no file can stand
the disk stays as it is, the directories above apart. -/
def withFile (disk : Disk) (p : Path) (content : ByteArray) (modified : Int) : Disk :=
  let ready := disk.withParent p
  match ready.locatePath p with
  | .error _ => ready
  | .ok place =>
      match ready.at? place with
      | some .directory => ready
      | _ => ready.put place (.file content modified)

/-- The location of the name a path ends in, that name itself not followed. -/
def nameLocation? (disk : Disk) (p : Path) : Option Location :=
  match p.parent?, p.fileName? with
  | some up, some name =>
      let directory := if up.text = "" then .ok disk.here else disk.locatePath up
      match directory with
      | .ok place =>
          match disk.at? place with
          | some .directory =>
              if maxNameSize < name.utf8ByteSize ∨ name.toList.contains '\x00' then none
              else some (place ++ [name])
          | _ => none
      | .error _ => none
  | _, _ => none

/-- The disk with a symbolic link at a path where nothing lies yet. -/
def withLink (disk : Disk) (p target : Path) : Disk :=
  let ready := disk.withParent p
  match ready.nameLocation? p with
  | none => ready
  | some place =>
      if (ready.at? place).isSome ∨ target.text = "" then ready else ready.put place (.link target)

/-- The disk without what lies at a path: a file, a link, or a whole tree. -/
def without (disk : Disk) (p : Path) : Disk :=
  match disk.nameLocation? p with
  | none => disk
  | some place => if (disk.at? place).isSome then disk.erase place else disk

end Disk

end Signpost
