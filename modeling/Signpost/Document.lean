import Signpost.Disk
import Signpost.Value
import Signpost.Yaml.Data

/-!
Definition documents: a text whose root mapping is the top-level definition,
and the absolute path that relative paths in it start from.
-/

namespace Signpost

/-- A document that has been read. -/
structure Document where
  path : Path
  root : Definition

/-- Why a document could not be had. -/
inductive DocumentError where
  | unreadable (path : Path) (cause : IoError)
  | illFormed (path : Path)
  | notAMapping (path : Path) (found : String)
deriving DecidableEq, Repr

namespace DocumentError

/-- The sentence that tells the error; where a text is ill-formed, up to the
place where the fault itself would be named. -/
def message : DocumentError → String
  | unreadable path cause =>
      s!"Failed to read definition document '{path.text}': {cause.message}"
  | illFormed path => s!"Failed to parse definition document '{path.text}': "
  | notAMapping path found =>
      s!"Definition document '{path.text}' must have a mapping at its root, but found: {found}"

end DocumentError

namespace Document

/-- The document that a text read from `path` holds; a relative path is taken
from the directory `here`. -/
def parse (here : Path) (path : Path) (contents : String) : Except DocumentError Document :=
  let path := path.absolute here
  match Yaml.data? contents with
  | none => .error (.illFormed path)
  | some (.object fields) => .ok ⟨path, .ofFields path fields⟩
  | some other => .error (.notAMapping path other.kind)

/-- The document in the file at `path`. -/
def load (disk : Disk) (path : Path) : Except DocumentError Document :=
  match disk.read path >>= Disk.decodeText with
  | .error cause => .error (.unreadable path cause)
  | .ok contents => parse disk.herePath path contents

end Document

end Signpost
