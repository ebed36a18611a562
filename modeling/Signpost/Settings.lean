import Signpost.Json
import Signpost.Mode
import Signpost.Path

/-!
The settings of a server, the values they have unless told otherwise, and the
rules that no default can mend.
-/

namespace Signpost

/-- How the server calls itself. -/
structure ServerIdentity where
  name : String
  version : String
deriving DecidableEq, Repr

/-- Which document is served, and from which of its root properties. -/
structure DefinitionSettings where
  path : Path
  entry : String
deriving DecidableEq, Repr

/-- What is logged, and how. -/
structure LoggingSettings where
  level : String
  withTimestamps : Bool
deriving DecidableEq, Repr

/-- Where requests come in. -/
structure HttpSettings where
  port : UInt16
  host : String
  enableCors : Bool
  /-- The path of the health endpoint; without one every path is for the document. -/
  healthPath : Option String
deriving DecidableEq, Repr

/-- All settings. -/
structure Settings where
  server : ServerIdentity
  definition : DefinitionSettings
  mode : Mode
  logging : LoggingSettings
  http : HttpSettings
  /-- The directory that resolved paths must stay within. -/
  rootPath : Option Path
deriving DecidableEq, Repr

namespace HttpSettings

/-- The settings unless told otherwise. -/
def standard : HttpSettings := ⟨8080, "127.0.0.1", false, some "/health"⟩

/-- The address to listen at. -/
def address (s : HttpSettings) : String := s!"{s.host}:{s.port.toNat}"

/-- The sentence that tells where requests come in. -/
def description (s : HttpSettings) : String := s!"HTTP on {s.address}"

/-- An optional text as data. -/
def optionalText : Option String → Json
  | some s => .string s
  | none => .null

/-- The settings as data. -/
def toJson (s : HttpSettings) : Json :=
  .object [("enable_cors", .bool s.enableCors), ("health_path", optionalText s.healthPath),
    ("host", .string s.host), ("port", .integer s.port.toNat)]

end HttpSettings

/-- Why settings cannot be used. -/
inductive SettingsError where
  | emptyEntry
  | relativeHealthPath (path : String)
  | other (reason : String)
deriving DecidableEq, Repr

/-- The sentence that tells the error. -/
def SettingsError.message : SettingsError → String
  | emptyEntry => "definition entry property must not be empty"
  | relativeHealthPath path => s!"health path must start with '/', got '{path}'"
  | other reason => reason

namespace Settings

/-- The settings unless told otherwise. -/
def standard : Settings where
  server := ⟨"upward-server", "0.1.0"⟩
  definition := ⟨⟨"upward.yml"⟩, "handler"⟩
  mode := .development
  logging := ⟨"info", true⟩
  http := .standard
  rootPath := none

/-- The settings as data. -/
def toJson (s : Settings) : Json :=
  .object
    [("definition",
        .object [("entry", .string s.definition.entry), ("path", .string s.definition.path.text)]),
     ("http", s.http.toJson),
     ("logging",
        .object [("level", .string s.logging.level),
          ("with_timestamps", .bool s.logging.withTimestamps)]),
     ("runtime", .object [("mode", .string s.mode.text)]),
     ("security",
        .object [("root_path", HttpSettings.optionalText (s.rootPath.map Path.text))]),
     ("server",
        .object [("name", .string s.server.name), ("version", .string s.server.version)])]

/-- Refuse what cannot be served: an entry without a name, or a health path
that no request path equals. -/
def validate (s : Settings) : Except SettingsError Unit :=
  if isBlankText s.definition.entry then .error .emptyEntry
  else
    match s.http.healthPath with
    | none => .ok ()
    | some path =>
        if path.toList.head? = some '/' then .ok () else .error (.relativeHealthPath path)

end Settings

end Signpost
