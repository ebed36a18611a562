import Signpost.Json.Text
import Signpost.Settings
import Signpost.Text.Quoted

/-!
Settings read from data.  A record is a mapping of named fields or a list of
the fields in order.  Of several mistakes the first counts: in a mapping, values
are looked at in the order of the mapping's names, and fields that are missing
come after all that are there.
-/

namespace Signpost

/-- Why data is not what it should be. -/
inductive DecodeError where
  | missingField (name : String)
  | wrongType (found : Json) (expected : String)
  | wrongInteger (found : Int) (expected : String)
  | wrongMapping (expected : String)
  | unknownVariant (found : String) (known : List String)
  | wrongLength (found : Nat) (expected : String)
deriving Repr

namespace DecodeError

/-- The words for a piece of data. -/
def describe : Json → String
  | .null => "null"
  | .bool b => s!"boolean \x60{b}\x60"
  | .integer i => s!"integer \x60{i}\x60"
  | .float x => s!"floating point \x60{x.text}\x60"
  | .string s => "string " ++ quoted s
  | .array _ => "sequence"
  | .object _ => "map"

/-- The sentence that tells the error. -/
def message : DecodeError → String
  | missingField name => s!"missing field \x60{name}\x60"
  | wrongType found expected => s!"invalid type: {describe found}, expected {expected}"
  | wrongInteger found expected => s!"invalid value: integer \x60{found}\x60, expected {expected}"
  | wrongMapping expected => s!"invalid value: map, expected {expected}"
  | unknownVariant found known =>
      s!"unknown variant \x60{found}\x60, expected "
        ++ " or ".intercalate (known.map fun name => s!"\x60{name}\x60")
  | wrongLength found expected => s!"invalid length {found}, expected {expected}"

end DecodeError

/-- A way to read data as an `α`. -/
abbrev Reader (α : Type) := Json → Except DecodeError α

namespace Reader

/-- A text. -/
def text : Reader String
  | .string s => .ok s
  | other => .error (.wrongType other "a string")

/-- A path. -/
def path : Reader Path
  | .string s => .ok ⟨s⟩
  | other => .error (.wrongType other "path string")

/-- A truth value. -/
def bool : Reader Bool
  | .bool b => .ok b
  | other => .error (.wrongType other "a boolean")

/-- A port: an integer of sixteen bits. -/
def port : Reader UInt16
  | .integer i =>
      if 0 ≤ i ∧ i < Int.pow 2 16 then .ok (UInt16.ofNat i.toNat)
      else .error (.wrongInteger i "u16")
  | other => .error (.wrongType other "u16")

/-- Null, or what another reader reads. -/
def optional {α : Type} (reader : Reader α) : Reader (Option α)
  | .null => .ok none
  | data => some <$> reader data

/-- The mode that a name names, letter for letter. -/
def modeNamed (name : String) : Except DecodeError Mode :=
  if name = Mode.production.text then .ok .production
  else if name = Mode.development.text then .ok .development
  else .error (.unknownVariant name [Mode.production.text, Mode.development.text])

/-- A mode: its name, or a mapping of its name to null. -/
def mode : Reader Mode
  | .string name => modeNamed name
  | .object [(name, value)] => do
      let mode ← modeNamed name
      match value with
      | .null => return mode
      | other => throw (.wrongType other "unit")
  | .object _ => .error (.wrongMapping "map with a single key")
  | other => .error (.wrongType other "string or map")

end Reader

/-- A record, or some fields of one. -/
structure RecordReader (α : Type) where
  /-- How many fields there are. -/
  size : Nat
  /-- The mistake in the value given for a name. -/
  fault? : String → Json → Option DecodeError
  /-- The record from the values of its fields by name. -/
  named : (String → Option Json) → Except DecodeError α
  /-- The record from its fields in order, the first of which has this place,
  with the values behind them.  The words tell what was expected. -/
  placed : Nat → String → List Json → Except DecodeError (α × List Json)

namespace RecordReader

variable {α β : Type}

/-- One field; `absent` is its value where it is not given. -/
def field (name : String) (reader : Reader α) (absent : Option α := none)
    (absentByName : Option α := absent) : RecordReader α where
  size := 1
  fault? given value :=
    if given = name then
      match reader value with
      | .ok _ => none
      | .error e => some e
    else none
  named values :=
    match values name with
    | some value => reader value
    | none =>
        match absentByName with
        | some a => .ok a
        | none => .error (.missingField name)
  placed place expected
    | value :: rest => (·, rest) <$> reader value
    | [] =>
        match absent with
        | some a => .ok (a, [])
        | none => .error (.wrongLength place expected)

/-- A record of no fields. -/
protected def pure (a : α) : RecordReader α where
  size := 0
  fault? _ _ := none
  named _ := .ok a
  placed _ _ values := .ok (a, values)

/-- Some fields, and then more. -/
protected def seq (f : RecordReader (α → β)) (x : RecordReader α) : RecordReader β where
  size := f.size + x.size
  fault? name value := (f.fault? name value).or (x.fault? name value)
  named values := do return (← f.named values) (← x.named values)
  placed place expected values := do
    let (g, rest) ← f.placed place expected values
    let (a, rest) ← x.placed (place + f.size) expected rest
    return (g a, rest)

instance : Applicative RecordReader where
  pure := RecordReader.pure
  seq f x := RecordReader.seq f (x ())

/-- Read a record, whose sort of record bears a name. -/
def read (sort : String) (record : RecordReader α) : Reader α
  | .object fields =>
      match fields.findSome? fun (name, value) => record.fault? name value with
      | some e => .error e
      | none => record.named fun name => fields.lookup name
  | .array items => do
      let count := if record.size = 1 then "1 element" else s!"{record.size} elements"
      let (a, rest) ← record.placed 0 s!"struct {sort} with {count}" items
      if rest.isEmpty then return a
      else throw (.wrongLength items.length "fewer elements in array")
  | other => .error (.wrongType other s!"struct {sort}")

end RecordReader

namespace HttpSettings

/-- Read the settings from data; only the port has no default. -/
def ofJson : Reader HttpSettings :=
  RecordReader.read "HttpConfig"
    (HttpSettings.mk <$> .field "port" Reader.port
      <*> .field "host" Reader.text (some standard.host)
      <*> .field "enable_cors" Reader.bool (some standard.enableCors)
      <*> .field "health_path" (Reader.optional Reader.text) (some standard.healthPath))

end HttpSettings

namespace Settings

/-- Read the server's identity. -/
def readServer : Reader ServerIdentity :=
  RecordReader.read "ServerConfig"
    (ServerIdentity.mk <$> .field "name" Reader.text <*> .field "version" Reader.text)

/-- Read which document is served. -/
def readDefinition : Reader DefinitionSettings :=
  RecordReader.read "DefinitionConfig"
    (DefinitionSettings.mk <$> .field "path" Reader.path <*> .field "entry" Reader.text)

/-- Read the mode. -/
def readRuntime : Reader Mode :=
  RecordReader.read "RuntimeConfig" (.field "mode" Reader.mode)

/-- Read what is logged. -/
def readLogging : Reader LoggingSettings :=
  RecordReader.read "LoggingConfig"
    (LoggingSettings.mk <$> .field "level" Reader.text <*> .field "with_timestamps" Reader.bool)

/-- Read the root directory, which a mapping may leave out. -/
def readSecurity : Reader (Option Path) :=
  RecordReader.read "SecurityConfig"
    (.field "root_path" (Reader.optional Reader.path) none (some none))

/-- Read all settings from data. -/
def ofJson : Reader Settings :=
  RecordReader.read "Config"
    (Settings.mk <$> .field "server" readServer
      <*> .field "definition" readDefinition
      <*> .field "runtime" readRuntime
      <*> .field "logging" readLogging
      <*> .field "http" HttpSettings.ofJson
      <*> .field "security" readSecurity)

end Settings

end Signpost
