import Signpost.Fields

/-!
The variables that references may name, as they were when the service began.
-/

namespace Signpost

/-- The variables that are set, with their values. -/
structure Environment where
  bindings : List (String × String)
deriving Repr, Inhabited

namespace Environment

/-- The variables of a process.  One whose value is not well-formed UTF-8 does
not count. -/
def ofBytes (bindings : List (String × ByteArray)) : Environment :=
  ⟨bindings.filterMap fun (name, value) => (String.fromUTF8? value).map fun text => (name, text)⟩

/-- The value of a variable. -/
def get? (e : Environment) (name : String) : Option String :=
  e.bindings.lookup name

/-- The environment with a variable set. -/
def set (e : Environment) (name value : String) : Environment :=
  ⟨(name, value) :: e.bindings.filter (·.1 != name)⟩

@[simp]
theorem get?_set_self (e : Environment) (name value : String) :
    (e.set name value).get? name = some value := by
  simp [get?, set]

theorem get?_set_of_ne (e : Environment) {name other : String} (value : String)
    (h : other ≠ name) : (e.set name value).get? other = e.get? other := by
  have hbeq : (other == name) = false := beq_false_of_ne h
  simp [get?, set, List.lookup_cons, hbeq, lookup_filter_ne h]

end Environment

end Signpost
