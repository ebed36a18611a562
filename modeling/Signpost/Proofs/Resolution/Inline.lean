import Signpost.Proofs.Resolution.Respect
import Signpost.Proofs.Value.Texts
import Signpost.Service

/-!
Data given in place.  A definition with `inline` and no other telltale is resolved to what
stands there, but for the escapes in it, and nothing in it is looked at any further; so every
piece of data can be given in place.
-/

namespace Signpost

/-- The property of a definition that has been read is what has been read from the field. -/
theorem Definition.get?_ofFields (source : Path) (fields : List (String × Json)) (name : String) :
    (ofFields source fields).get? name = (fields.lookup name).map (Value.ofJson source) := by
  change (Value.fieldsOfJson source fields).lookup name = _
  induction fields with
  | nil => rfl
  | cons field rest ih =>
      obtain ⟨key, data⟩ := field
      rw [Value.fieldsOfJson, List.lookup_cons, List.lookup_cons]
      cases name == key with
      | true => rfl
      | false => exact ih

/-- The fields give `data` in place, and have no other telltale. -/
structure GivesInPlace (fields : List (String × Json)) (data : Json) : Prop where
  inline : fields.lookup "inline" = some data
  directory : fields.lookup "directory" = none
  file : fields.lookup "file" = none

namespace Visitor

variable {options : ResolverOptions} {v : Visitor} {fields : List (String × Json)} {data : Json}

/-- However other values are resolved, they are not here. -/
theorem route_of_givesInPlace (h : GivesInPlace fields data) (hv : v.registry = .standard options)
    (source : Path) (ask : Ask) :
    route ask v (.ofFields source fields) = pure (.data (data.mapTexts unescape)) := by
  have hlookup : v.registry.lookup (.ofFields source fields) = .ok .inline := by
    simp [hv, Registry.lookup, Registry.standard, Registry.builtin, Resolver.directory,
      Resolver.file, Resolver.inline, Definition.has, Definition.get?_ofFields, h.inline,
      h.directory, h.file]
  rw [route, hlookup]
  simp [Resolver.inline, Definition.get?_ofFields, h.inline, Value.toData_ofJson]

/-- A root property that is followed comes to what its definition comes to. -/
theorem upwardRoot_of_givesInPlace (h : GivesInPlace fields data)
    (hv : v.registry = .standard options) (hchain : v.chain = []) {source : Path} {name : String}
    (hget : v.document.root.get? name = some (.ofJson source (.object fields))) :
    v.upwardRoot name = pure (.data (data.mapTexts unescape)) := by
  have hhas : v.document.root.has name = true := by
    rw [Definition.has, hget, Option.isSome_some]
  have hseen : (v.guarded && v.chain.contains name) = false := by simp [hchain]
  obtain ⟨levels, hlevels⟩ : ∃ levels, v.enough 0 = levels + 1 := ⟨_, rfl⟩
  rw [upwardRoot, followRoot, if_pos hhas, follow_of_get? hseen hget, hlevels, Value.ofJson]
  have hfollowed : ({ v with chain := v.chain ++ [name] } : Visitor).registry =
      .standard options := hv
  exact route_of_givesInPlace h hfollowed source (valueWithin levels)

/-- Data given in place is what a definition comes to, in every document and environment, on every
disk and whatever other resolutions have left, and nothing is left to later ones: `$` is taken from
each text at a value position that starts with `$$`, and all else is as it stands.  No reference
in it is followed and no mapping resolved, however that were to be done.  So with a `$` before each
text that starts with one, every piece of data can be given in place. -/
theorem given_in_place (h : GivesInPlace fields data) (options : ResolverOptions)
    (source : Path) :
    let found := data.mapTexts unescape
    (∀ (v : Visitor) (ask : Ask), v.registry = .standard options →
        route ask v (.ofFields source fields) = pure (.data found)) ∧
      (∀ document environment disk s,
        let v := start (.standard options) document environment
        (v.resolve (.ofFields source fields)).answer disk s = (.ok (.data found), s) ∧
          ∀ name, document.root.get? name = some (.ofJson source (.object fields)) →
            (v.upwardRoot name).answer disk s = (.ok (.data found), s)) ∧
      (Exchanges "$$" "$" unescape ∧ Exchanges "$" "$$" escape) ∧
      ∀ x : Json, data = x.mapTexts escape → found = x := by
  intro found
  refine ⟨?_, ?_, ⟨exchanges_unescape, exchanges_escape⟩, ?_⟩
  · intro v ask hv
    exact route_of_givesInPlace h hv source ask
  · intro document environment disk s v
    constructor
    · rw [resolve, route_of_givesInPlace h rfl]
      rfl
    · intro name hget
      rw [upwardRoot_of_givesInPlace h rfl rfl hget]
      rfl
  · rintro x rfl
    have hback : ∀ text ∈ x.texts, unescape (escape text) = text := fun text _ => unescape_escape text
    exact (Json.mapTexts_mapTexts x).trans (Json.mapTexts_eq_self x hback)

/-- A mapping with the telltale of another resolver, a reference and an escape, given in place. -/
def offer : List (String × Json) :=
  [("inline", .object [("directory", .string "$base"), ("price", .string "$$5"),
    ("prices", .array [.string "$$5"])]), ("note", .string "$$")]

theorem given_in_place_offer :
    GivesInPlace offer (.object [("directory", .string "$base"), ("price", .string "$$5"),
        ("prices", .array [.string "$$5"])]) ∧
      ((start (.standard ⟨.production, none⟩)
          ⟨⟨"/d"⟩, .ofFields ⟨"/d"⟩ [("base", .string "/x"), ("offer", .object offer)]⟩
          ⟨[]⟩).upwardRoot "offer").answer (.empty []) .start =
        (.ok (.data (.object [("directory", .string "$base"), ("price", .string "$5"),
          ("prices", .array [.string "$$5"])])), .start) := by
  have hoffer : GivesInPlace offer _ := ⟨rfl, rfl, rfl⟩
  obtain ⟨-, hanswer, -⟩ := given_in_place hoffer ⟨.production, none⟩ ⟨"/d"⟩
  exact ⟨hoffer, (hanswer _ _ _ _).2 "offer" (Definition.get?_ofFields _ _ _)⟩

end Visitor

end Signpost
