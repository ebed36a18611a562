import Signpost.Disk

/-!
Keeping paths within a root directory.  Both paths are first compared in normal
form, so that no `..` climbs out; then the part of either that has a true
location is replaced by it, so that no link leads out.
-/

namespace Signpost

/-- How a path leaves the root it should stay within. -/
inductive Escape where
  | outsideRoot (path root : Path)
  | linkOutsideRoot (path : Path)
deriving DecidableEq, Repr

/-- The sentence that tells an escape. -/
def Escape.message : Escape → String
  | outsideRoot path root =>
      s!"Path '{path.text}' is outside allowed root directory '{root.text}'"
  | linkOutsideRoot path => s!"Symlink '{path.text}' points outside allowed root directory"

namespace Disk

/-- The true location of the nearest ancestor of a path that has one, with the
other names below it: why they have none is not asked. -/
def canonicalAncestor? (disk : Disk) (p : Path) : Option Location :=
  p.ancestors.findSome? fun up =>
    (disk.canonical? up).map fun place =>
      place ++ (p.components.drop up.components.length).map Component.text

/-- The normal form of a path, if it stays within the root.  Without a root
every path does. -/
def confine (disk : Disk) (root : Option Path) (p : Path) : Except Escape Path :=
  let path := p.normalize
  match root with
  | none => .ok path
  | some r =>
      let base := r.normalize
      if path.isUnder base then
        match disk.canonicalAncestor? path, disk.canonicalAncestor? base with
        | some place, some rootPlace =>
            if rootPlace.isPrefixOf place then .ok path else .error (.linkOutsideRoot path)
        | _, _ => .ok path
      else .error (.outsideRoot path base)

end Disk

end Signpost
