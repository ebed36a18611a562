import Signpost.Double
import Signpost.Fields

/-!
Data as documents hold it: null, truth values, integers, finite doubles,
texts, lists and mappings.  A mapping is the list of its fields; whoever reads
data from text keeps that list sorted by name without repetition.
-/

namespace Signpost

/-- A piece of data. -/
inductive Json where
  | null
  | bool (value : Bool)
  | integer (value : Int)
  | float (value : Double)
  | string (value : String)
  | array (items : List Json)
  | object (fields : List (String × Json))
deriving Repr, Inhabited

namespace Json

/-- The word for the shape of a piece of data in diagnostics. -/
def kind : Json → String
  | null => "null"
  | bool _ => "boolean"
  | integer _ => "number"
  | float _ => "number"
  | string _ => "string"
  | array _ => "array"
  | object _ => "object"

mutual

/-- Two pieces of data are equal.  Doubles are compared as numbers, and an
integer differs from every double. -/
def same : Json → Json → Bool
  | null, null => true
  | bool a, bool b => a == b
  | integer a, integer b => a == b
  | float a, float b => a.same b
  | string a, string b => a == b
  | array a, array b => sameItems a b
  | object a, object b => sameFields a b
  | _, _ => false

/-- Equal items in equal order. -/
def sameItems : List Json → List Json → Bool
  | [], [] => true
  | a :: as, b :: bs => same a b && sameItems as bs
  | _, _ => false

/-- Equal names with equal data in equal order. -/
def sameFields : List (String × Json) → List (String × Json) → Bool
  | [], [] => true
  | (m, a) :: as, (n, b) :: bs => m == n && same a b && sameFields as bs
  | _, _ => false

end

mutual

theorem same_refl : (a : Json) → same a a = true
  | null => by simp [same]
  | bool _ => by simp [same]
  | integer _ => by simp [same]
  | float x => by simp [same, x.same_refl]
  | string _ => by simp [same]
  | array items => by simp [same, sameItems_refl items]
  | object fields => by simp [same, sameFields_refl fields]

theorem sameItems_refl : (as : List Json) → sameItems as as = true
  | [] => by simp [sameItems]
  | a :: as => by simp [sameItems, same_refl a, sameItems_refl as]

theorem sameFields_refl : (as : List (String × Json)) → sameFields as as = true
  | [] => by simp [sameFields]
  | (_, a) :: as => by simp [sameFields, same_refl a, sameFields_refl as]

end

/-- The text inside a string. -/
def asString? : Json → Option String
  | string s => some s
  | _ => none

/-- The data of the field called `name`. -/
def field? (data : Json) (name : String) : Option Json :=
  match data with
  | object fields => fields.lookup name
  | _ => none

end Json

end Signpost
