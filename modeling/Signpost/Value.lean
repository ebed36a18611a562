import Signpost.Json.Text
import Signpost.Path
import Signpost.Reference

/-!
Values and definitions.  A value of a document is plain data, a reference, or a
definition nested in it; a definition is a list of named values together with
the document it was read from.  Reading a value from data and writing it back
are both maps over the data's shape.
-/

namespace Signpost

/-- A value of a property. -/
inductive Value where
  /-- Data used as it stands. -/
  | literal (data : Json)
  /-- A definition with its own source and properties. -/
  | nested (source : Path) (properties : List (String × Value))
  /-- A pointer to a value elsewhere. -/
  | reference (target : Reference)
deriving Repr, Inhabited

/-- A node of the definition tree: its properties, sorted by name, and the
document it was read from. -/
structure Definition where
  source : Path
  properties : List (String × Value)
deriving Repr, Inhabited

/-- A raw text without the dollar sign that escapes another one. -/
def unescape (raw : String) : String :=
  match raw.toList with
  | '$' :: '$' :: rest => String.ofList ('$' :: rest)
  | _ => raw

/-- A text with a dollar sign before a first dollar sign. -/
def escape (s : String) : String :=
  match s.toList with
  | '$' :: rest => String.ofList ('$' :: '$' :: rest)
  | _ => s

namespace Value

/-- A definition as a value. -/
def definition (d : Definition) : Value :=
  nested d.source d.properties

/-- A text as a literal value. -/
def string (s : String) : Value :=
  literal (.string s)

mutual

/-- The value that a document's data stands for; nested mappings become
definitions with the source `source`, and lists are not looked into. -/
def ofJson (source : Path) : Json → Value
  | .object fields => nested source (fieldsOfJson source fields)
  | .string raw =>
      match Reference.parse? raw with
      | some target => reference target
      | none => literal (.string (unescape raw))
  | .null => literal .null
  | .bool b => literal (.bool b)
  | .integer i => literal (.integer i)
  | .float x => literal (.float x)
  | .array items => literal (.array items)

/-- The properties that the fields of a mapping stand for. -/
def fieldsOfJson (source : Path) : List (String × Json) → List (String × Value)
  | [] => []
  | (name, data) :: rest => (name, ofJson source data) :: fieldsOfJson source rest

end

mutual

/-- The value as its document spells it. -/
def toJson : Value → Json
  | literal (.string s) => .string (escape s)
  | literal data => data
  | nested _ properties => .object (fieldsToJson properties)
  | reference target => .string target.text

/-- The properties as their document spells them. -/
def fieldsToJson : List (String × Value) → List (String × Json)
  | [] => []
  | (name, value) :: rest => (name, toJson value) :: fieldsToJson rest

end

mutual

/-- The value as data: texts without their escape, references as spelled. -/
def toData : Value → Json
  | literal data => data
  | nested _ properties => .object (fieldsToData properties)
  | reference target => .string target.text

/-- The properties as data. -/
def fieldsToData : List (String × Value) → List (String × Json)
  | [] => []
  | (name, value) :: rest => (name, toData value) :: fieldsToData rest

end

/-- The word for the shape of a value in diagnostics. -/
def kind : Value → String
  | literal data => data.kind
  | nested _ _ => "definition"
  | reference _ => "reference"

mutual

/-- Two values are equal; sources are compared by their components. -/
def same : Value → Value → Bool
  | literal a, literal b => a.same b
  | nested s as, nested t bs => sameFields as bs && s.same t
  | reference a, reference b => a == b
  | _, _ => false

/-- Equal names with equal values in equal order. -/
def sameFields : List (String × Value) → List (String × Value) → Bool
  | [], [] => true
  | (m, a) :: as, (n, b) :: bs => m == n && same a b && sameFields as bs
  | _, _ => false

end

end Value

namespace Definition

/-- The definition without properties that stems from `source`. -/
def empty (source : Path) : Definition :=
  ⟨source, []⟩

/-- The definition that a mapping read from `source` stands for. -/
def ofFields (source : Path) (fields : List (String × Json)) : Definition :=
  ⟨source, Value.fieldsOfJson source fields⟩

/-- The definition with `name` set to `value`. -/
def insert (d : Definition) (name : String) (value : Value) : Definition :=
  { d with properties := insertField name value d.properties }

/-- The value of a property. -/
def get? (d : Definition) (name : String) : Option Value :=
  d.properties.lookup name

@[simp]
theorem get?_insert_self (d : Definition) (name : String) (value : Value) :
    (d.insert name value).get? name = some value := by
  simp [get?, insert]

theorem get?_insert_of_ne (d : Definition) {name other : String} (value : Value)
    (h : other ≠ name) : (d.insert name value).get? other = d.get? other := by
  simp [get?, insert, lookup_insertField_of_ne h]

/-- Whether the definition has a property. -/
def has (d : Definition) (name : String) : Bool :=
  (d.get? name).isSome

/-- The names of the properties in their order. -/
def names (d : Definition) : List String :=
  d.properties.map Prod.fst

/-- How many properties there are. -/
def size (d : Definition) : Nat :=
  d.properties.length

/-- The definition as its document spells it. -/
def toJson (d : Definition) : Json :=
  .object (Value.fieldsToJson d.properties)

/-- The definition as data. -/
def toData (d : Definition) : Json :=
  .object (Value.fieldsToData d.properties)

/-- The compact text of a definition, as diagnostics show it. -/
def text (d : Definition) : String :=
  d.toJson.text

/-- Two definitions are equal. -/
def same (d e : Definition) : Bool :=
  (Value.definition d).same (Value.definition e)

/-- The definition a value is, if it is one. -/
def ofValue? : Value → Option Definition
  | .nested source properties => some ⟨source, properties⟩
  | _ => none

@[simp]
theorem toJson_definition (d : Definition) : (Value.definition d).toJson = d.toJson := by
  simp [Value.definition, Value.toJson, toJson]

end Definition

end Signpost
