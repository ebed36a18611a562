import Signpost.Proofs.Value.RoundTrip

/-!
Texts in data.  A text stands at a value position if there is no list around it.  Reading a
value and writing it back are maps over the texts there and leave all else as it is; so the form
that a document has once it has been written is kept for ever.
-/

namespace Signpost

namespace Json

mutual

/-- The texts at value positions: the data itself, and what the fields of mappings hold at any
depth, but nothing that is in a list. -/
def texts : Json → List String
  | string text => [text]
  | object fields => textsOfFields fields
  | null | bool _ | integer _ | float _ | array _ => []

/-- The texts at value positions among the fields of a mapping. -/
def textsOfFields : List (String × Json) → List String
  | [] => []
  | (_, data) :: rest => texts data ++ textsOfFields rest

end

mutual

/-- The data with every text at a value position replaced. -/
def mapTexts (f : String → String) : Json → Json
  | string text => string (f text)
  | object fields => object (mapTextsOfFields f fields)
  | null => null
  | bool b => bool b
  | integer i => integer i
  | float x => float x
  | array items => array items

/-- The fields of a mapping with every text at a value position replaced. -/
def mapTextsOfFields (f : String → String) : List (String × Json) → List (String × Json)
  | [] => []
  | (name, data) :: rest => (name, mapTexts f data) :: mapTextsOfFields f rest

end

variable {f g : String → String}

mutual

/-- What stays equal to itself has texts only that stay as they are. -/
theorem same_mapTexts_iff : (data : Json) →
    ((data.mapTexts f).same data = true ↔ ∀ text ∈ data.texts, f text = text)
  | string text => by simp [mapTexts, texts, same]
  | object fields => by simp [mapTexts, texts, same, sameFields_mapTextsOfFields_iff fields]
  | null | bool _ | integer _ | float _ | array _ => by simp [mapTexts, texts, same_refl]

theorem sameFields_mapTextsOfFields_iff : (fields : List (String × Json)) →
    (sameFields (mapTextsOfFields f fields) fields = true ↔
      ∀ text ∈ textsOfFields fields, f text = text)
  | [] => by simp [mapTextsOfFields, textsOfFields, sameFields]
  | (_, data) :: rest => by
      simp [mapTextsOfFields, textsOfFields, sameFields, or_imp, forall_and,
        same_mapTexts_iff data, sameFields_mapTextsOfFields_iff rest]

end

mutual

theorem mapTexts_eq_self : (data : Json) → (∀ text ∈ data.texts, f text = text) →
    data.mapTexts f = data
  | string text, h => by rw [mapTexts, h text (by simp [texts])]
  | object fields, h => by rw [mapTexts, mapTextsOfFields_eq_self fields (by simpa [texts] using h)]
  | null, _ | bool _, _ | integer _, _ | float _, _ | array _, _ => by rw [mapTexts]

theorem mapTextsOfFields_eq_self : (fields : List (String × Json)) →
    (∀ text ∈ textsOfFields fields, f text = text) → mapTextsOfFields f fields = fields
  | [], _ => by rw [mapTextsOfFields]
  | (name, data) :: rest, h => by
      rw [textsOfFields, List.forall_mem_append] at h
      rw [mapTextsOfFields, mapTexts_eq_self data h.1, mapTextsOfFields_eq_self rest h.2]

end

theorem mapTexts_eq_self_iff {data : Json} :
    data.mapTexts f = data ↔ ∀ text ∈ data.texts, f text = text := by
  refine ⟨fun h => ?_, mapTexts_eq_self data⟩
  rw [← same_mapTexts_iff, h, same_refl]

mutual

theorem mapTexts_mapTexts : (data : Json) →
    (data.mapTexts f).mapTexts g = data.mapTexts fun text => g (f text)
  | string _ => by simp [mapTexts]
  | object fields => by simp [mapTexts, mapTextsOfFields_mapTextsOfFields fields]
  | null | bool _ | integer _ | float _ | array _ => by simp [mapTexts]

theorem mapTextsOfFields_mapTextsOfFields : (fields : List (String × Json)) →
    mapTextsOfFields g (mapTextsOfFields f fields) =
      mapTextsOfFields (fun text => g (f text)) fields
  | [] => by simp [mapTextsOfFields]
  | (_, data) :: rest => by
      simp [mapTextsOfFields, mapTexts_mapTexts data, mapTextsOfFields_mapTextsOfFields rest]

end

end Json

/-! ### One text -/

/-- The text, doubled if it is a lone dollar sign. -/
def doubleLone (text : String) : String :=
  if text = "$" then "$$" else text

theorem Reference.text_ne_dollar {raw : String} {target : Reference}
    (h : parse? raw = some target) : raw ≠ "$" := by
  rintro rfl
  cases h

/-- What is no reference is escaped again as it was, unless it is a lone dollar sign, which is no
escape. -/
theorem escape_unescape {raw : String} (h : Reference.parse? raw = none) :
    escape (unescape raw) = doubleLone raw := by
  unfold unescape
  split
  · next rest hraw =>
    have hne : raw ≠ "$" := by
      rintro rfl
      cases hraw
    rw [doubleLone, if_neg hne]
    exact String.toList_injective (by simp [escape, hraw])
  · next hplain =>
    unfold escape
    split
    · next rest hraw =>
      cases rest with
      | nil =>
          obtain rfl : raw = "$" := String.toList_injective hraw
          rfl
      | cons c rest =>
          -- A dollar sign that something other than a second one follows begins a reference.
          rw [Reference.parse?, hraw] at h
          unfold Reference.ofChars? at h
          split at h <;> simp_all
    · next hdollar =>
      have hne : raw ≠ "$" := by
        rintro rfl
        exact hdollar [] rfl
      rw [doubleLone, if_neg hne]

/-- A function puts `other` in the place of `front` at the start of texts, and leaves texts alone
that do not start with that. -/
structure Exchanges (front other : String) (f : String → String) : Prop where
  exchanged (rest : String) : f (front ++ rest) = other ++ rest
  kept (text : String) : (∀ rest, text ≠ front ++ rest) → f text = text

theorem exchanges_unescape : Exchanges "$$" "$" unescape where
  exchanged rest := String.toList_injective (by simp [unescape])
  kept text hother := by
    unfold unescape
    split
    · next rest htext =>
      exact absurd (String.toList_injective (by simp [htext])) (hother (String.ofList rest))
    · rfl

theorem exchanges_escape : Exchanges "$" "$$" escape where
  exchanged rest := String.toList_injective (by simp [escape])
  kept text hother := by
    unfold escape
    split
    · next rest htext =>
      exact absurd (String.toList_injective (by simp [htext])) (hother (String.ofList rest))
    · rfl

namespace Value

theorem toJson_ofJson_string (source : Path) (raw : String) :
    (ofJson source (.string raw)).toJson = .string (doubleLone raw) := by
  rw [ofJson]
  cases hparse : Reference.parse? raw with
  | some target =>
      rw [doubleLone, if_neg (Reference.text_ne_dollar hparse)]
      exact congrArg Json.string (Reference.parse?_eq_some_iff.mp hparse).1.symm
  | none => exact congrArg Json.string (escape_unescape hparse)

/-- Of a text that has been read as a value only an escape is lost: a reference is none. -/
theorem toData_ofJson_string (source : Path) (raw : String) :
    (ofJson source (.string raw)).toData = .string (unescape raw) := by
  rw [ofJson]
  cases hparse : Reference.parse? raw with
  | some target =>
      have hraw := (Reference.parse?_eq_some_iff.mp hparse).1
      have hunescaped : unescape raw = raw := by
        refine exchanges_unescape.kept raw ?_
        rintro rest rfl
        simp [Reference.parse?, Reference.ofChars?] at hparse
      rw [hunescaped]
      exact congrArg Json.string hraw.symm
  | none => rfl

/-- A lone dollar sign and a doubled one are the same text. -/
theorem ofJson_doubleLone (source : Path) (raw : String) :
    ofJson source (.string (doubleLone raw)) = ofJson source (.string raw) := by
  unfold doubleLone
  split
  · next hlone =>
    subst hlone
    rfl
  · rfl

/-! ### Whole values -/

mutual

/-- A value that has been read is written as it was, but for lone dollar signs. -/
theorem toJson_ofJson (source : Path) : (data : Json) →
    (ofJson source data).toJson = data.mapTexts doubleLone
  | .string raw => toJson_ofJson_string source raw
  | .object fields => by
      rw [ofJson, toJson, Json.mapTexts, fieldsToJson_fieldsOfJson source fields]
  | .null | .bool _ | .integer _ | .float _ | .array _ => by simp [ofJson, toJson, Json.mapTexts]

theorem fieldsToJson_fieldsOfJson (source : Path) : (fields : List (String × Json)) →
    fieldsToJson (fieldsOfJson source fields) = Json.mapTextsOfFields doubleLone fields
  | [] => by rw [fieldsOfJson, fieldsToJson, Json.mapTextsOfFields]
  | (_, data) :: rest => by
      rw [fieldsOfJson, fieldsToJson, Json.mapTextsOfFields, toJson_ofJson source data,
        fieldsToJson_fieldsOfJson source rest]

end

mutual

/-- As data a value that has been read is as it was, but for the escapes. -/
theorem toData_ofJson (source : Path) : (data : Json) →
    (ofJson source data).toData = data.mapTexts unescape
  | .string raw => toData_ofJson_string source raw
  | .object fields => by
      rw [ofJson, toData, Json.mapTexts, fieldsToData_fieldsOfJson source fields]
  | .null | .bool _ | .integer _ | .float _ | .array _ => by simp [ofJson, toData, Json.mapTexts]

theorem fieldsToData_fieldsOfJson (source : Path) : (fields : List (String × Json)) →
    fieldsToData (fieldsOfJson source fields) = Json.mapTextsOfFields unescape fields
  | [] => by rw [fieldsOfJson, fieldsToData, Json.mapTextsOfFields]
  | (_, data) :: rest => by
      rw [fieldsOfJson, fieldsToData, Json.mapTextsOfFields, toData_ofJson source data,
        fieldsToData_fieldsOfJson source rest]

end

section Reading

variable {source : Path} {f : String → String}

mutual

/-- Data is read alike whichever of two spellings its texts have. -/
theorem ofJson_mapTexts
    (hf : ∀ raw, ofJson source (.string (f raw)) = ofJson source (.string raw)) :
    (data : Json) → ofJson source (data.mapTexts f) = ofJson source data
  | .string raw => hf raw
  | .object fields => by
      rw [Json.mapTexts, ofJson, ofJson, fieldsOfJson_mapTextsOfFields hf fields]
  | .null | .bool _ | .integer _ | .float _ | .array _ => by rw [Json.mapTexts]

theorem fieldsOfJson_mapTextsOfFields
    (hf : ∀ raw, ofJson source (.string (f raw)) = ofJson source (.string raw)) :
    (fields : List (String × Json)) →
      fieldsOfJson source (Json.mapTextsOfFields f fields) = fieldsOfJson source fields
  | [] => by rw [Json.mapTextsOfFields]
  | (_, data) :: rest => by
      rw [Json.mapTextsOfFields, fieldsOfJson, fieldsOfJson, ofJson_mapTexts hf data,
        fieldsOfJson_mapTextsOfFields hf rest]

end

end Reading

/-- The form that data is written in is a normal form.  It is the data but for each lone dollar
sign at a value position, which is doubled; so it is the data itself exactly where there is
none, by structure and as data are compared.  It reads as the same value, and so it is written
as it is. -/
theorem toJson_normalizes (source : Path) (data : Json) :
    let written := (ofJson source data).toJson
    written = data.mapTexts doubleLone ∧ (written = data ↔ "$" ∉ data.texts) ∧
      (written.same data = true ↔ "$" ∉ data.texts) ∧
      ofJson source written = ofJson source data ∧ (ofJson source written).toJson = written := by
  intro written
  have hwritten : written = data.mapTexts doubleLone := toJson_ofJson source data
  have hlone : (∀ text ∈ data.texts, doubleLone text = text) ↔ "$" ∉ data.texts := by
    have hone (text : String) : doubleLone text = text ↔ text ≠ "$" := by
      by_cases htext : text = "$" <;> simp [doubleLone, htext]
    simp only [hone]
    exact ⟨fun h hmem => h "$" hmem rfl, fun h text hmem heq => h (heq ▸ hmem)⟩
  have hread : ofJson source written = ofJson source data := by
    rw [hwritten]
    exact ofJson_mapTexts (ofJson_doubleLone source) data
  refine ⟨hwritten, ?_, ?_, hread, ?_⟩
  · rw [hwritten, Json.mapTexts_eq_self_iff, hlone]
  · rw [hwritten, Json.same_mapTexts_iff, hlone]
  · rw [hread]

example : (ofJson ⟨"/d"⟩ (.object [("a", .string "$"), ("b", .array [.string "$"]),
    ("c", .string "$env.")])).toJson = .object [("a", .string "$$"), ("b", .array [.string "$"]),
    ("c", .string "$env.")] := by
  cbv

end Value

end Signpost
