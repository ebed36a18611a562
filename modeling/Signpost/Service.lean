import Signpost.Visitor

/-!
A service resolves the properties of one document for as long as a server runs;
what its resolutions share is passed from one to the next.
-/

namespace Signpost

/-- Everything a resolution needs. -/
structure Service where
  document : Document
  registry : Registry
  environment : Environment

namespace Service

/-- A visitor of the document. -/
def visitor (s : Service) : Visitor :=
  .start s.registry s.document s.environment

/-- The handler that an artifact must be. -/
def requireHandler (property : String) : Artifact → Except ResolveError Handler
  | .handler h => .ok h
  | other => .error (.notAHandler property other.kind)

/-- Resolve a root property that must be a handler. -/
def handlerPlan (s : Service) (property : String) : Resolving Handler := do
  let artifact ← s.visitor.upwardRoot property
  match requireHandler property artifact with
  | .ok h => return h
  | .error e => throw e

end Service

namespace Resolving

/-- Run a resolution to its end; nothing if it was not allowed enough levels. -/
def run {α : Type} (p : Resolving α) (disk : Disk) (s : Shared) :
    Option (Except ResolveError α) × Shared :=
  Plan.run disk s (ExceptT.run p)

/-- The failure of a resolution that was not allowed enough levels. -/
def tooDeep : ResolveError := .io (.other "definitions are nested too deeply")

/-- What a resolution comes to. -/
def answer {α : Type} (p : Resolving α) (disk : Disk) (s : Shared) :
    Except ResolveError α × Shared :=
  match p.run disk s with
  | (some result, s) => (result, s)
  | (none, s) => (.error tooDeep, s)

end Resolving

end Signpost
