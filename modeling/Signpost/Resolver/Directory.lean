import Signpost.Mode
import Signpost.Resolver

/-!
Directories of static files.  The directory is taken from where the document
lies, must stay within the root, and has one handler that all definitions of it
share.
-/

namespace Signpost

/-- What the built-in resolvers depend on. -/
structure ResolverOptions where
  mode : Mode
  /-- The directory that resolved paths must stay within. -/
  rootPath : Option Path
deriving Repr

namespace Resolver

/-- The text that an artifact must be. -/
def requireString (resolver property : String) (artifact : Artifact) : Resolving String :=
  match artifact.asString? with
  | some s => return s
  | none => throw (.invalidType resolver property "string" artifact.kind)

/-- Resolves a definition to the handler of its `directory`. -/
def directory (options : ResolverOptions) : Resolver where
  sort := "directory"
  telltale := "directory"
  resolve scope d := do
    if !d.has "directory" then throw (.missingProperty "directory" d)
    let name ← requireString "directory" "directory" (← scope.upward d "directory")
    if isBlankText name then throw (.missingProperty "directory" d)
    let base ← Resolving.confine options.rootPath (scope.document.path.resolveAgainst name)
    return .handler (← Resolving.serve base options.mode.maxAge)

end Resolver

end Signpost
