import Signpost.Document
import Signpost.Plan

/-!
Resolvers turn a definition into an artifact, which is data for the definition
around it or a handler for requests.  A resolver is told by its telltale, the
property whose presence routes a definition to it, and asks the scope it works
in for the values of other properties.
-/

namespace Signpost

/-- What a definition resolves to. -/
inductive Artifact where
  | data (value : Json)
  | handler (handler : Handler)

namespace Artifact

/-- A text as an artifact. -/
def string (s : String) : Artifact := data (.string s)

/-- The text an artifact is, if it is one. -/
def asString? : Artifact → Option String
  | data value => value.asString?
  | handler _ => none

/-- The word for the shape of an artifact in diagnostics. -/
def kind : Artifact → String
  | data value => value.kind
  | handler _ => "handler"

end Artifact

/-- Where a resolver works: the document, the root properties being followed,
and how values and root properties are resolved from here. -/
structure Scope where
  document : Document
  chain : List String
  value : Value → Resolving Artifact
  root : String → Resolving Artifact

namespace Scope

/-- Resolve a property that a definition must have. -/
def upward (s : Scope) (d : Definition) (property : String) : Resolving Artifact :=
  match d.get? property with
  | some value => s.value value
  | none => throw (.missingProperty property d)

/-- Resolve a property that a definition may lack. -/
def upward? (s : Scope) (d : Definition) (property : String) : Resolving (Option Artifact) :=
  match d.get? property with
  | some value => some <$> s.value value
  | none => return none

end Scope

/-- A sort of definition, and how definitions of that sort are resolved. -/
structure Resolver where
  /-- The name of the sort in diagnostics. -/
  sort : String
  /-- The property that routes a definition here. -/
  telltale : String
  resolve : Scope → Definition → Resolving Artifact

end Signpost
