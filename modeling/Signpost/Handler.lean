import Signpost.StaticSite
import Signpost.Text.Quoted

/-!
Request handlers.  A handler answers a request, hands it on untouched, or
fails; the one for a directory drops a first segment that repeats the name of
the directory and marks what may be cached.
-/

namespace Signpost

/-- Why a handler has no response. -/
inductive HandlerError where
  /-- Nothing lies at the path. -/
  | notFound (path : String)
  | io (cause : IoError)
deriving DecidableEq, Repr

namespace HandlerError

/-- The sentence that tells the error. -/
def message : HandlerError → String
  | notFound path => "Not found: " ++ path
  | io cause => "I/O error: " ++ cause.message

/-- The status that fits the error. -/
def status : HandlerError → Nat
  | notFound _ => 404
  | io _ => 500

end HandlerError

/-- What becomes of a request that a handler is offered. -/
inductive Outcome where
  | handled (response : Response)
  /-- The handler declines; the request is for the next one. -/
  | next (request : Request)

/-- The text of an outcome in diagnostics. -/
def Outcome.text : Outcome → String
  | handled response => s!"Handled({response.status})"
  | next request => s!"Next({request.uri.text})"

/-- What a handler of a fixed reply does with every request. -/
inductive Reply where
  | fail (error : HandlerError)
  | respond (status : Nat) (body : String)
  | decline
deriving DecidableEq, Repr

/-- How a handler acts. -/
inductive Conduct where
  /-- Serve the files below a directory, to be cached for some seconds. -/
  | directory (base : Path) (maxAge : Nat)
  /-- Give one reply to everything, under a name. -/
  | fixed (name : String) (reply : Reply)
deriving DecidableEq, Repr

/-- A handler that can be told from every other one by its number. -/
structure Handler where
  id : Nat
  conduct : Conduct
deriving DecidableEq, Repr

/-- The rest of `path` behind `/segment`, if a slash follows there. -/
def stripSegment (path segment : String) : Option String :=
  match path.toList with
  | '/' :: rest =>
      if segment.toList.isPrefixOf rest then
        let tail := rest.drop segment.toList.length
        if tail.head? = some '/' then some (String.ofList tail) else none
      else none
  | _ => none

namespace Conduct

/-- The value of `cache-control` for a lifetime in seconds. -/
def cacheControl (maxAge : Nat) : String := s!"public, max-age={maxAge}"

/-- The request without a first segment that repeats the directory's name. -/
def strip (base : Path) (request : Request) : Request :=
  match base.fileName? with
  | none => request
  | some segment =>
      match (stripSegment request.uri.path segment).bind request.uri.withPath? with
      | none => request
      | some uri => { request with uri }

/-- What a directory's handler makes of the static site's response to a request for a path. -/
def passOn (maxAge : Nat) (path : String) (response : Response) : Except HandlerError Outcome :=
  if response.status = 404 then .error (.notFound path)
  else if response.isSuccess ∨ response.status = 304 then
    .ok (.handled (response.withHeader "cache-control" (cacheControl maxAge)))
  else .ok (.handled response)

/-- Serve a request from a directory. -/
def serveDirectory (disk : Disk) (base : Path) (maxAge : Nat) (request : Request) :
    Except HandlerError Outcome :=
  let asked := strip base request
  passOn maxAge asked.uri.path (StaticSite.respond disk base asked)

/-- What a handler does with a request. -/
def handle (disk : Disk) (request : Request) : Conduct → Except HandlerError Outcome
  | directory base maxAge => serveDirectory disk base maxAge request
  | fixed _ (.fail error) => .error error
  | fixed _ (.respond status body) => .ok (.handled (.ofText status body))
  | fixed _ .decline => .ok (.next request)

/-- The text of a handler in diagnostics. -/
def text : Conduct → String
  | directory base maxAge =>
      "StaticDirectoryHandler \x7b base_dir: " ++ quoted base.text ++ ", cache_control: "
        ++ quoted (cacheControl maxAge) ++ " \x7d"
  | fixed name _ => name

end Conduct

namespace Handler

/-- Offer a request to a handler. -/
def handle (h : Handler) (disk : Disk) (request : Request) : Except HandlerError Outcome :=
  h.conduct.handle disk request

/-- The text of a handler in diagnostics. -/
def text (h : Handler) : String := h.conduct.text

end Handler

end Signpost
