import Mathlib
import Signpost.Document

/-!
What a document can spell.  Writing a value and reading it back gives the same value exactly
when every value in it is one that a document read from that place can hold: escapes never
collide with references, and the only references lost are those whose name reads as
something else.
-/

namespace Signpost

namespace Reference

/-- A document can spell the reference.  A property without a name is a lone dollar sign, one
whose name starts with a dollar sign is an escape, and one whose name is `env.` and more reads
as a variable. -/
def Spellable : Reference → Prop
  | env name => name ≠ ""
  | property name =>
      name ≠ "" ∧ (∀ rest : String, name ≠ "$" ++ rest) ∧
        ∀ rest : String, rest ≠ "" → name ≠ "env." ++ rest

theorem exists_toList_eq_cons {s : String} (h : s ≠ "") : ∃ c rest, s.toList = c :: rest :=
  List.exists_cons_of_ne_nil (by simpa using h)

theorem ofChars?_property {c : Char} {rest : List Char} (hescape : c ≠ '$')
    (hvariable : ∀ d more, c :: rest ≠ 'e' :: 'n' :: 'v' :: '.' :: d :: more) :
    ofChars? ('$' :: c :: rest) = some (property (String.ofList (c :: rest))) := by
  unfold ofChars?
  split <;> simp_all

/-- A text spells a reference exactly when it is the text of that reference and the reference
can be spelled at all. -/
theorem parse?_eq_some_iff {raw : String} {target : Reference} :
    parse? raw = some target ↔ raw = target.text ∧ target.Spellable := by
  constructor
  · intro hparse
    rw [parse?] at hparse
    unfold ofChars? at hparse
    -- The cases are the spellings: an escape, a variable, a property, no reference at all.
    split at hparse
    · cases hparse
    · next c rest hraw =>
      cases hparse
      exact ⟨String.toList_injective (by simp [hraw, text]), by simp [Spellable]⟩
    · next c rest hescape hvariable hraw =>
      cases hparse
      refine ⟨String.toList_injective (by simp [hraw, text]), by simp, ?_, ?_⟩
      · intro more hmore
        exact hescape (List.cons.inj (by simpa using congrArg String.toList hmore)).1
      · intro more hmore hname
        obtain ⟨d, ds, hchars⟩ := exists_toList_eq_cons hmore
        have hname : c :: rest = 'e' :: 'n' :: 'v' :: '.' :: d :: ds := by
          simpa [hchars] using congrArg String.toList hname
        obtain ⟨hc, hrest⟩ := List.cons.inj hname
        exact hvariable d ds hc hrest
    · cases hparse
  · rintro ⟨rfl, hspellable⟩
    cases target with
    | env name =>
      obtain ⟨c, rest, hname⟩ := exists_toList_eq_cons hspellable
      rw [parse?, text, String.toList_append, hname, ← String.ofList_toList (s := name), hname]
      rfl
    | property name =>
      obtain ⟨hempty, hescape, hvariable⟩ := hspellable
      obtain ⟨c, rest, hname⟩ := exists_toList_eq_cons hempty
      rw [parse?, text, String.toList_append, hname]
      refine (ofChars?_property ?_ ?_).trans (by rw [← hname, String.ofList_toList])
      · rintro rfl
        exact hescape (String.ofList rest) (String.toList_injective (by simp [hname]))
      · intro d more hmore
        exact hvariable (String.ofList (d :: more)) (by simp)
          (String.toList_injective (by simp [hname, hmore]))

theorem exists_parse?_eq_some_iff {target : Reference} :
    (∃ raw, parse? raw = some target) ↔ target.Spellable := by
  simp only [parse?_eq_some_iff]
  exact ⟨fun ⟨_, _, hspellable⟩ => hspellable, fun hspellable => ⟨_, rfl, hspellable⟩⟩

end Reference

/-- An escaped text is no reference, whatever it was. -/
theorem parse?_escape (s : String) : Reference.parse? (escape s) = none := by
  rw [escape, Reference.parse?]
  split
  · simp [Reference.ofChars?]
  · next hdollar =>
    unfold Reference.ofChars?
    split <;> simp_all

@[simp]
theorem unescape_escape (s : String) : unescape (escape s) = s := by
  unfold escape
  split
  · next rest hs =>
    exact String.toList_injective (by simp [unescape, hs])
  · next hdollar =>
    unfold unescape
    split <;> simp_all

namespace Document

theorem exists_fields_of_parse {here path : Path} {contents : String} {document : Document}
    (h : parse here path contents = .ok document) :
    ∃ fields, Value.definition document.root = Value.ofJson document.path (.object fields) := by
  unfold parse at h
  split at h
  · cases h
  · next fields hdata =>
    cases h
    exact ⟨fields, by rw [Value.ofJson]; rfl⟩
  · cases h

end Document

namespace Value

mutual

/-- The value itself and every value of a property in it, at any depth. -/
def parts : Value → List Value
  | literal data => [literal data]
  | nested source properties => nested source properties :: partsOfFields properties
  | reference target => [reference target]

/-- The values of the properties with their parts. -/
def partsOfFields : List (String × Value) → List Value
  | [] => []
  | (_, value) :: rest => parts value ++ partsOfFields rest

end

/-- One value is as a document read from `source` may hold it, its properties apart. -/
def SpelledFrom (source : Path) : Value → Prop
  | literal data => ∀ fields, data ≠ .object fields
  | nested own _ => source.same own = true
  | reference target => target.Spellable

/-- A text survives whatever dollar signs it starts with. -/
@[simp]
theorem ofJson_toJson_string (source : Path) (text : String) :
    ofJson source (string text).toJson = string text := by
  simp [string, toJson, ofJson, parse?_escape]

theorem ofJson_toJson_literal (source : Path) {data : Json} (h : ∀ fields, data ≠ .object fields) :
    ofJson source (literal data).toJson = literal data := by
  cases data with
  | string text => exact ofJson_toJson_string source text
  | object fields => exact absurd rfl (h fields)
  | null | bool | integer | float | array => simp [toJson, ofJson]

theorem same_ofJson_literal {source : Path} {data : Json} :
    (ofJson source (literal data).toJson).same (literal data) = true ↔
      (literal data).SpelledFrom source := by
  constructor
  · rintro hsame fields rfl
    simp [toJson, ofJson, same] at hsame
  · intro hdata
    rw [ofJson_toJson_literal source hdata, same, Json.same_refl]

theorem same_ofJson_reference {source : Path} {target : Reference} :
    (ofJson source (reference target).toJson).same (reference target) = true ↔
      (reference target).SpelledFrom source := by
  have hiff : Reference.parse? target.text = some target ↔ target.Spellable := by
    simp [Reference.parse?_eq_some_iff]
  simp only [toJson, ofJson, SpelledFrom, ← hiff]
  split <;> simp_all [same]

mutual

/-- A value survives being written and read back exactly when all of its parts can be spelled. -/
theorem same_ofJson_toJson_iff (source : Path) : (v : Value) →
    ((ofJson source v.toJson).same v = true ↔ ∀ part ∈ v.parts, part.SpelledFrom source)
  | literal data => by simp [parts, same_ofJson_literal]
  | reference target => by simp [parts, same_ofJson_reference]
  | nested own properties => by
      simp [parts, toJson, ofJson, same, SpelledFrom, and_comm,
        sameFields_fieldsOfJson_iff source properties]

theorem sameFields_fieldsOfJson_iff (source : Path) : (properties : List (String × Value)) →
    (sameFields (fieldsOfJson source (fieldsToJson properties)) properties = true ↔
      ∀ part ∈ partsOfFields properties, part.SpelledFrom source)
  | [] => by simp [partsOfFields, fieldsToJson, fieldsOfJson, sameFields]
  | (_, value) :: rest => by
      simp [partsOfFields, fieldsToJson, fieldsOfJson, sameFields, or_imp, forall_and,
        same_ofJson_toJson_iff source value, sameFields_fieldsOfJson_iff source rest]

end

mutual

theorem mem_parts_trans {v part : Value} (hpart : part ∈ v.parts) : (w : Value) → v ∈ w.parts →
    part ∈ w.parts
  | literal data, h => by simp_all [parts]
  | reference target, h => by simp_all [parts]
  | nested source properties, h => by
      rcases List.mem_cons.mp (by simpa [parts] using h) with rfl | h
      · exact hpart
      · rw [parts]
        exact List.mem_cons_of_mem _ (mem_partsOfFields_trans hpart properties h)

theorem mem_partsOfFields_trans {v part : Value} (hpart : part ∈ v.parts) :
    (properties : List (String × Value)) → v ∈ partsOfFields properties →
      part ∈ partsOfFields properties
  | [], h => by simp [partsOfFields] at h
  | (_, value) :: rest, h => by
      rw [partsOfFields, List.mem_append] at h ⊢
      exact h.imp (mem_parts_trans hpart value) (mem_partsOfFields_trans hpart rest)

end

mutual

/-- What a document holds, it can spell. -/
theorem spelledFrom_of_mem_parts_ofJson (source : Path) {part : Value} : (data : Json) →
    part ∈ (ofJson source data).parts → part.SpelledFrom source
  | .object fields, h => by
      rw [ofJson, parts] at h
      rcases List.mem_cons.mp h with rfl | h
      · exact source.same_refl
      · exact spelledFrom_of_mem_partsOfFields_fieldsOfJson source fields h
  | .string raw, h => by
      simp only [ofJson] at h
      split at h
      · next target hparse =>
        obtain rfl := List.mem_singleton.mp (by simpa [parts] using h)
        exact (Reference.parse?_eq_some_iff.mp hparse).2
      · obtain rfl := List.mem_singleton.mp (by simpa [parts] using h)
        simp [SpelledFrom]
  | .null, h | .bool _, h | .integer _, h | .float _, h | .array _, h => by
      simp only [ofJson, parts, List.mem_singleton] at h
      subst h
      simp [SpelledFrom]

theorem spelledFrom_of_mem_partsOfFields_fieldsOfJson (source : Path) {part : Value} :
    (fields : List (String × Json)) → part ∈ partsOfFields (fieldsOfJson source fields) →
      part.SpelledFrom source
  | [], h => by simp [fieldsOfJson, partsOfFields] at h
  | (_, data) :: rest, h => by
      rw [fieldsOfJson, partsOfFields, List.mem_append] at h
      exact h.elim (spelledFrom_of_mem_parts_ofJson source data)
        (spelledFrom_of_mem_partsOfFields_fieldsOfJson source rest)

end

/-- Writing a value and reading it back, from any place: the value survives exactly when every
definition in it stems from that place, no plain data in it is a mapping, and each of its
references can be spelled, which are the references that some text spells.  In particular a
text survives whatever it starts with, and so does everything that a document holds. -/
theorem ofJson_undoes_toJson :
    (∀ (v : Value) (source : Path),
      (ofJson source v.toJson).same v = true ↔ ∀ part ∈ v.parts, part.SpelledFrom source) ∧
    (∀ target : Reference, (∃ raw, Reference.parse? raw = some target) ↔ target.Spellable) ∧
    (∀ (text : String) (source : Path), ofJson source (string text).toJson = string text) ∧
    ∀ (here path : Path) (contents : String) (document : Document),
      Document.parse here path contents = .ok document →
        ∀ v ∈ (definition document.root).parts,
          (ofJson document.path v.toJson).same v = true := by
  refine ⟨fun v source => same_ofJson_toJson_iff source v,
    fun target => Reference.exists_parse?_eq_some_iff,
    fun text source => ofJson_toJson_string source text,
    fun here path contents document hparse v hv => ?_⟩
  obtain ⟨fields, hroot⟩ := Document.exists_fields_of_parse hparse
  rw [same_ofJson_toJson_iff]
  intro part hpart
  refine spelledFrom_of_mem_parts_ofJson document.path (.object fields) ?_
  rw [← hroot]
  exact mem_parts_trans hpart _ hv

theorem ofJson_undoes_toJson_dollars :
    ∃ document, Document.parse ⟨"/"⟩ ⟨"/d"⟩ "a: $$b\nc:\n d: $e" = .ok document ∧
      ∀ v ∈ (definition document.root).parts,
        (ofJson document.path v.toJson).same v = true :=
  have hparse : Document.parse ⟨"/"⟩ ⟨"/d"⟩ "a: $$b\nc:\n d: $e" =
      .ok ⟨⟨"/d"⟩, ⟨⟨"/d"⟩, [("a", string "$b"),
        ("c", nested ⟨"/d"⟩ [("d", reference (.property "e"))])]⟩⟩ := by
    cbv
  ⟨_, hparse, ofJson_undoes_toJson.2.2.2 _ _ _ _ hparse⟩

end Value

end Signpost
