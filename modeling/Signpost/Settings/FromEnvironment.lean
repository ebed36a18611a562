import Signpost.Environment
import Signpost.Settings

/-!
Settings taken from variables.  A variable that is not set leaves the standard
value, and so does one whose value cannot be read.
-/

namespace Signpost

/-- The port that a text spells: digits, perhaps behind a plus sign. -/
def portOfText? (s : String) : Option UInt16 :=
  let digits := if s.toList.head? = some '+' then s.toList.drop 1 else s.toList
  if digits.isEmpty || !digits.all Char.isDigit then none
  else
    let n := digits.foldl (fun n c => n * 10 + (c.toNat - '0'.toNat)) 0
    if n < Nat.pow 2 16 then some (UInt16.ofNat n) else none

/-- The truth value that a text spells. -/
def boolOfText? : String → Option Bool
  | "true" => some true
  | "false" => some false
  | _ => none

namespace HttpSettings

/-- The health path that a text names; an empty one and `off` name none. -/
def healthPathOfText (s : String) : Option String :=
  if s = "" ∨ s = "off" then none else some s

/-- Take the settings from variables. -/
def ofEnvironment (e : Environment) : HttpSettings where
  port := ((e.get? "UPWARD_HTTP_PORT").bind portOfText?).getD standard.port
  host := (e.get? "UPWARD_HTTP_HOST").getD standard.host
  enableCors :=
    match e.get? "UPWARD_HTTP_CORS" with
    | some s => foldCase s == "true" || s == "1"
    | none => standard.enableCors
  healthPath :=
    match e.get? "UPWARD_HEALTH_PATH" with
    | some s => healthPathOfText s
    | none => standard.healthPath

end HttpSettings

namespace Settings

/-- Take the settings from variables. -/
def ofEnvironment (e : Environment) : Settings where
  server := ⟨(e.get? "UPWARD_SERVER_NAME").getD standard.server.name, standard.server.version⟩
  definition :=
    ⟨((e.get? "UPWARD_PATH").map Path.mk).getD standard.definition.path,
      (e.get? "UPWARD_ENTRY").getD standard.definition.entry⟩
  mode := ((e.get? "UPWARD_ENV").map Mode.ofText).getD standard.mode
  logging :=
    ⟨(e.get? "UPWARD_LOG_LEVEL").getD standard.logging.level,
      ((e.get? "UPWARD_LOG_TIMESTAMPS").map fun s => (boolOfText? s).getD true).getD
        standard.logging.withTimestamps⟩
  http := .ofEnvironment e
  rootPath := (e.get? "UPWARD_ROOT_PATH").map Path.mk

end Settings

end Signpost
