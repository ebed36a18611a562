/-!
Values under names.  A list of fields may be kept sorted by name, where putting
a value under a name replaces the value held there and touches no other.
-/

namespace Signpost

variable {α : Type}

theorem lookup_filter_ne {name other : String} (h : other ≠ name)
    (fields : List (String × α)) :
    (fields.filter (·.1 != name)).lookup other = fields.lookup other := by
  induction fields with
  | nil => rfl
  | cons field rest ih =>
      obtain ⟨key, value⟩ := field
      by_cases hkey : key = name
      · have hother : (other == key) = false := by
          rw [hkey]
          exact beq_false_of_ne h
        simp [hkey, List.lookup_cons, hkey ▸ hother, ih]
      · by_cases hsame : other = key
        · simp [hkey, hsame]
        · have hbeq : (other == key) = false := beq_false_of_ne hsame
          simp [hkey, List.lookup_cons, hbeq, ih]

theorem lookup_filter_self (name : String) (fields : List (String × α)) :
    (fields.filter (·.1 != name)).lookup name = none := by
  induction fields with
  | nil => rfl
  | cons field rest ih =>
      obtain ⟨key, value⟩ := field
      by_cases hkey : key = name
      · simp [hkey, ih]
      · have hbeq : (name == key) = false := beq_false_of_ne (Ne.symm hkey)
        simp [hkey, List.lookup_cons, hbeq, ih]

/-- Put `value` under `name` into fields sorted by the code points of their
names; a field of that name is replaced. -/
def insertField (name : String) (value : α) : List (String × α) → List (String × α)
  | [] => [(name, value)]
  | (key, held) :: rest =>
      if name = key then (name, value) :: rest
      else if name < key then (name, value) :: (key, held) :: rest
      else (key, held) :: insertField name value rest

@[simp]
theorem lookup_insertField_self (name : String) (value : α) (fields : List (String × α)) :
    (insertField name value fields).lookup name = some value := by
  induction fields with
  | nil => simp [insertField]
  | cons field rest ih =>
      obtain ⟨key, held⟩ := field
      unfold insertField
      by_cases hkey : name = key
      · simp [hkey]
      · have hbeq : (name == key) = false := beq_false_of_ne hkey
        by_cases hlt : name < key
        · simp [hkey, hlt]
        · simp [hkey, hlt, List.lookup_cons, hbeq, ih]

theorem lookup_insertField_of_ne {name other : String} (h : other ≠ name) (value : α)
    (fields : List (String × α)) :
    (insertField name value fields).lookup other = fields.lookup other := by
  have hne : (other == name) = false := beq_false_of_ne h
  induction fields with
  | nil => simp [insertField, List.lookup_cons, hne]
  | cons field rest ih =>
      obtain ⟨key, held⟩ := field
      unfold insertField
      by_cases hkey : name = key
      · simp [← hkey, List.lookup_cons, hne]
      · by_cases hlt : name < key
        · simp [hkey, hlt, List.lookup_cons, hne]
        · cases hother : other == key with
          | true => simp [hkey, hlt, List.lookup_cons, hother]
          | false => simp [hkey, hlt, List.lookup_cons, hother, ih]

/-- The fields sorted by name; of several fields of one name the last stays. -/
def sortFields (fields : List (String × α)) : List (String × α) :=
  fields.foldl (fun sorted field => insertField field.1 field.2 sorted) []

end Signpost
