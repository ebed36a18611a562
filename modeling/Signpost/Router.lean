import Signpost.Http.Instant
import Signpost.Http.Route
import Signpost.Json.Text
import Signpost.Server

/-!
What stands before a server: the health endpoint, the leave for pages of other
origins, and the last touches on every response.
-/

namespace Signpost

/-- A server with what stands before it. -/
structure Router where
  server : Server
  /-- The paths of the health endpoint. -/
  health : Option RoutePattern
  enableCors : Bool

namespace Router

/-- The router of a server; none if the health path is no pattern. -/
def ofServer? (settings : HttpSettings) (server : Server) : Option Router :=
  match settings.healthPath with
  | none => some ⟨server, none, settings.enableCors⟩
  | some path =>
      (RoutePattern.parse? path).map fun pattern => ⟨server, some pattern, settings.enableCors⟩

/-- The data of the health endpoint at a time. -/
def healthData (r : Router) (now : Instant) : Json :=
  .object [("name", .string r.server.settings.server.name), ("status", .string "healthy"),
    ("timestamp", .string now.text), ("version", .string r.server.settings.server.version)]

/-- The methods that the health endpoint answers. -/
def healthMethods : String := "GET,HEAD"

/-- The response of the health endpoint. -/
def healthResponse (r : Router) (now : Instant) (method : String) : Response :=
  if method = "GET" ∨ method = "HEAD" then
    (Response.ofText 200 (r.healthData now).text).withHeader "content-type" "application/json"
  else (Response.bare 405).withHeader "allow" healthMethods

/-- Whether a request is for the health endpoint. -/
def isHealth (r : Router) (request : Request) : Bool :=
  r.health.any fun pattern => pattern.accepts request.uri.path

/-- The response with its length, and without its body where the method wants
none.  Where there is no response there is nothing to finish. -/
def finish (method : String) (response : Response) : Response :=
  if response.status = Response.unanswered.status then .unanswered
  else if method = "CONNECT" ∧ response.isSuccess then response.withoutBody
  else
    let sized :=
      match response.headers.get? "content-length" with
      | some _ => response
      | none => response.withHeader "content-length" (toString response.body.size)
    if method = "HEAD" then sized.withoutBody else sized

/-- What every response depends on once pages of other origins have leave. -/
def variesBy : String :=
  "origin, access-control-request-method, access-control-request-headers"

/-- The response that pages of all origins may read. -/
def shared (response : Response) : Response :=
  (response.withHeader "access-control-allow-origin" "*").withHeader "vary" variesBy

/-- The response to a question for leave. -/
def leave : Response :=
  ((shared (.bare 200)).withHeader "access-control-allow-methods" "*").withHeader
    "access-control-allow-headers" "*"

/-- The response to a question for leave at a path: the health endpoint, which leaves
such questions unanswered itself, still names its methods. -/
def leaveFor (r : Router) (request : Request) : Response :=
  if r.isHealth request then leave.withHeader "allow" healthMethods else leave

/-- The response of the health endpoint or of the server. -/
def answer (r : Router) (disk : Disk) (now : Instant) (request : Request) : Response × Router :=
  if r.isHealth request then (r.healthResponse now request.method, r)
  else
    let (response, server) := r.server.dispatch disk request
    (response, { r with server })

/-- Answer a request at a time. -/
def respond (r : Router) (disk : Disk) (now : Instant) (request : Request) : Response × Router :=
  if r.enableCors then
    if request.method = "OPTIONS" then (finish request.method (r.leaveFor request), r)
    else
      let (response, r) := r.answer disk now request
      (finish request.method (shared response), r)
  else
    let (response, r) := r.answer disk now request
    (finish request.method response, r)

end Router

end Signpost
