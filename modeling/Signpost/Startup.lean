import Signpost.EnvironmentFile
import Signpost.Router
import Signpost.Settings.FromEnvironment

/-!
The way from the variables of a process to a server that listens, and the
report of where it ends too early.
-/

namespace Signpost

/-- How the start of the program ends. -/
inductive Launch where
  /-- Requests can come in. -/
  | ready (router : Router)
  | failed (report : Report)
  /-- A setting is such that no server can be made of it. -/
  | broken

namespace Launch

/-- Put a server behind its router and listen at the address; `bound` is what
comes of listening there. -/
def listen (settings : HttpSettings) (server : Server) (bound : Except IoError Unit) : Launch :=
  match Router.ofServer? settings server with
  | none => broken
  | some router =>
      match bound with
      | .ok _ => ready router
      | .error cause => failed (TransportError.bind settings.address cause).report

/-- Start with variables that are all set. -/
def withEnvironment (disk : Disk) (environment : Environment) (bound : Except IoError Unit) :
    Launch :=
  let settings := Settings.ofEnvironment environment
  match settings.validate with
  | .error e => failed (Failure.settings e).report
  | .ok _ =>
      match Server.load settings environment disk with
      | .error e => failed e.report
      | .ok server => listen settings.http server bound

/-- Start with the variables of the process, after those of the nearest file. -/
def start (disk : Disk) (environment : Environment) (bound : Except IoError Unit) : Launch :=
  match environment.withNearestFile? disk with
  | none => broken
  | some environment => withEnvironment disk environment bound

/-- The exit status of the program where it ends by itself. -/
def exitStatus : Launch → Nat
  | ready _ => 0
  | failed _ => 1
  | broken => 101

/-- What the program reports where it ends by itself. -/
def text : Launch → String
  | failed report => report.text
  | _ => ""

end Launch

end Signpost
