import Signpost.Failure
import Signpost.Service

/-!
A server: one document, of which one root property is the entry.  The entry is
resolved when the server starts, so that mistakes come to light, and then again
for every request, which goes to the handler it resolves to.
-/

namespace Signpost

/-- A server that has been started. -/
structure Server where
  settings : Settings
  service : Service
  /-- What the resolutions so far have left to later ones. -/
  shared : Shared

namespace Server

/-- A response of nothing but the words for its status. -/
def plain (status : Nat) (words : String) : Response := .ofText status words

/-- The response where nothing answers a request. -/
def notFound : Response := plain 404 "Not Found"

/-- The response where the server itself fails. -/
def internalError : Response := plain 500 "Internal Server Error"

/-- Resolve the entry, which must be a handler. -/
def resolveEntry (s : Server) (disk : Disk) : Except ResolveError Handler × Server :=
  let (result, shared) := (s.service.handlerPlan s.settings.definition.entry).answer disk s.shared
  (result, { s with shared })

/-- Start a server of a document that has been read already. -/
def start (settings : Settings) (document : Document) (registry : Registry)
    (environment : Environment) (disk : Disk) : Except Failure Server :=
  match (Server.mk settings ⟨document, registry, environment⟩ .start).resolveEntry disk with
  | (.ok _, s) => .ok s
  | (.error e, _) => .error (.resolution e)

/-- What the settings say about the built-in resolvers. -/
def resolverOptions (settings : Settings) : ResolverOptions :=
  ⟨settings.mode, settings.rootPath⟩

/-- Start a server of a document, with the built-in resolvers. -/
def ofDocument (settings : Settings) (document : Document) (environment : Environment)
    (disk : Disk) : Except Failure Server :=
  start settings document (.standard (resolverOptions settings)) environment disk

/-- Read the document that the settings name, and start a server of it. -/
def load (settings : Settings) (environment : Environment) (disk : Disk) :
    Except Failure Server :=
  match Document.load disk settings.definition.path with
  | .ok document => ofDocument settings document environment disk
  | .error e => .error (.definition e)

/-- The response for what a handler came to. -/
def answer : Except HandlerError Outcome → Response
  | .ok (.handled response) => response
  | .ok (.next _) => notFound
  | .error (.notFound _) => notFound
  | .error (.io _) => internalError

/-- Answer a request. -/
def dispatch (s : Server) (disk : Disk) (request : Request) : Response × Server :=
  match s.resolveEntry disk with
  | (.ok handler, s) => (answer (handler.handle disk request), s)
  | (.error _, s) => (internalError, s)

end Server

end Signpost
