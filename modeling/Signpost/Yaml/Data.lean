import Signpost.Yaml.Node
import Signpost.Yaml.Schema

/-!
The data of a document.  Aliases are replaced by what they stand for, as often
as the size of the document bears; collections may be nested 128 deep, aliases
seen through; keys are the texts of scalars, and of equal keys the last counts.
-/

namespace Signpost.Yaml

/-- How deep collections may be nested. -/
def maxDepth : Nat := 128

/-- How many aliases may be seen through for every mark of the document. -/
def aliasesPerMark : Nat := 100

namespace Tree

/-- The node itself, or what it is an alias of; the state counts down the
aliases that may still be seen through. -/
def seeThrough (tree : Tree) (node : Node) : StateT Nat Option Node := do
  match node with
  | .aliasOf number =>
      match ← get with
      | 0 => failure
      | n + 1 =>
          set n
          match tree.anchor? number with
          | some target => return target
          | none => failure
  | _ => return node

/-- A collection bears no tag of its own invention. -/
def plainlyTagged (tag : Option Tag) : StateT Nat Option Unit :=
  if tag.any Tag.isLocal then failure else return ()

/-- The text of a key. -/
def keyText (tree : Tree) (node : Node) : StateT Nat Option String := do
  match ← tree.seeThrough node with
  | .scalar _ _ text => return String.ofList text
  | _ => failure

/-- The data of a node at which collections may still be nested `depth` deep. -/
def nodeData (tree : Tree) (depth : Nat) (node : Node) : StateT Nat Option Json := do
  match ← tree.seeThrough node with
  | .scalar tag plain text => liftM (scalarData tag plain text)
  | .aliasOf _ => failure
  | .sequence tag items =>
      plainlyTagged tag
      match depth with
      | 0 => failure
      | d + 1 => return .array (← items.mapM (nodeData tree d))
  | .mapping tag entries =>
      plainlyTagged tag
      match depth with
      | 0 => failure
      | d + 1 =>
          let fields ← entries.mapM fun entry => do
            let name ← tree.keyText entry.1
            let value ← nodeData tree d entry.2
            return (name, value)
          return .object (sortFields fields)
termination_by structural depth

/-- The data of a whole tree. -/
def data? (tree : Tree) : Option Json :=
  ((tree.nodeData maxDepth tree.root).run (aliasesPerMark * tree.root.weight)).map Prod.fst

end Tree

/-- The data of a text that holds one document; an empty text holds null. -/
def data? (text : String) : Option Json := do
  match ← tree? text.toList with
  | none => return .null
  | some tree => tree.data?

end Signpost.Yaml
