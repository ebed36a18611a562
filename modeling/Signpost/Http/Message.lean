import Signpost.Fields
import Signpost.Http.Uri

/-!
Requests and responses.  Header names are in lower case; a request may carry a
header more than once, and what looks for one takes the first.
-/

namespace Signpost

/-- The header fields of a message. -/
abbrev Headers := List (String × String)

/-- A request. -/
structure Request where
  method : String
  uri : Uri
  headers : Headers
  body : String
deriving Repr, Inhabited

/-- A response. -/
structure Response where
  status : Nat
  headers : Headers
  body : ByteArray

namespace Headers

/-- The first field of a name. -/
def get? (headers : Headers) (name : String) : Option String :=
  headers.lookup name

/-- A value of nothing but printable ASCII and tabs. -/
def isPrintable (value : String) : Bool :=
  value.toList.all fun c => c == '\t' || (0x20 ≤ c.toNat && c.toNat < 0x7F)

/-- The first field of a name, if it is printable. -/
def text? (headers : Headers) (name : String) : Option String :=
  (headers.get? name).filter isPrintable

/-- All printable fields of a name. -/
def texts (headers : Headers) (name : String) : List String :=
  (headers.filter (·.1 == name)).map (·.2) |>.filter isPrintable

/-- The fields with one name bound to this value only. -/
def set (headers : Headers) (name value : String) : Headers :=
  headers.filter (fun field => field.1 != name) ++ [(name, value)]

@[simp]
theorem get?_set_self (headers : Headers) (name value : String) :
    (headers.set name value).get? name = some value := by
  simp [get?, set, List.lookup_append, lookup_filter_self]

theorem get?_set_of_ne (headers : Headers) {name other : String} (value : String)
    (h : other ≠ name) : (headers.set name value).get? other = headers.get? other := by
  have hne : (other == name) = false := beq_false_of_ne h
  simp [get?, set, List.lookup_append, lookup_filter_ne h, List.lookup_cons, hne]

end Headers

namespace Response

/-- A response without header fields and body. -/
def bare (status : Nat) : Response := ⟨status, [], ByteArray.empty⟩

/-- No response at all, which no status tells of: serving the request has been given up in a
panic, and whoever asked is left without an answer. -/
def unanswered : Response := bare 0

/-- A response with a text for a body. -/
def ofText (status : Nat) (text : String) : Response := ⟨status, [], text.toUTF8⟩

/-- The response with a header field. -/
def withHeader (r : Response) (name value : String) : Response :=
  { r with headers := r.headers.set name value }

/-- The response without its body. -/
def withoutBody (r : Response) : Response := { r with body := ByteArray.empty }

/-- The statuses that tell of success. -/
def isSuccess (r : Response) : Bool := 200 ≤ r.status && r.status < 300

end Response

end Signpost
