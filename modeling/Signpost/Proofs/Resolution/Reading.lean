import Signpost.Proofs.Resolution.Transparency

/-!
What resolutions read.  The resolution of a root property looks at its value, and from there
at what references point at and at what the resolver of a definition asks for; two documents
that agree there resolve the property alike, whatever else there is in them.
-/

namespace Signpost

/-! ### Places in documents -/

/-- A place in a document: a root property, and the way down from its value through the
properties of nested definitions. -/
structure Place where
  name : String
  path : List String

/-- The place of a property of the definition that stands here. -/
def Place.part (place : Place) (name : String) : Place :=
  ⟨place.name, place.path ++ [name]⟩

/-- The value that a way down through nested definitions leads to. -/
def Value.along? (x : Value) : List String → Option Value
  | [] => some x
  | name :: rest =>
      match x with
      | .nested _ properties => (properties.lookup name).bind fun y => y.along? rest
      | _ => none

/-- The value at a place. -/
def Document.at? (document : Document) (place : Place) : Option Value :=
  (document.root.get? place.name).bind fun x => x.along? place.path

theorem Value.along?_concat_nested {x : Value} {path : List String} {source : Path}
    {properties : List (String × Value)} (h : x.along? path = some (.nested source properties))
    (name : String) : x.along? (path ++ [name]) = properties.lookup name := by
  induction path generalizing x with
  | nil =>
      obtain rfl : x = .nested source properties := Option.some.inj h
      simp [along?]
  | cons first rest ih =>
      cases x with
      | literal => contradiction
      | reference => contradiction
      | nested own parts =>
          obtain ⟨y, hget, hrest⟩ := Option.bind_eq_some_iff.mp h
          rw [List.cons_append, along?, hget]
          exact ih hrest

namespace Document

variable {document : Document} {place : Place} {name : String}

theorem at?_root (document : Document) (name : String) :
    document.at? ⟨name, []⟩ = document.root.get? name := by
  rw [at?]
  cases document.root.get? name <;> rfl

theorem at?_part {source : Path} {properties : List (String × Value)}
    (h : document.at? place = some (.nested source properties)) (name : String) :
    document.at? (place.part name) = properties.lookup name := by
  obtain ⟨x, hget, hrest⟩ := Option.bind_eq_some_iff.mp h
  rw [at?, Place.part, hget]
  exact Value.along?_concat_nested hrest name

end Document

/-! ### What is read -/

/-- The properties of a definition whose values its resolver asks for. -/
def Definition.consulted (d : Definition) : List String :=
  match d.telltales with
  | ["directory"] => ["directory"]
  | ["file"] => ["file", "encoding"]
  | _ => []

/-- Values of which the same is read: the data, what a reference points at with the value that a
variable has, and the telltales of a definition with the data that is given in place. -/
inductive Value.Resembles (environment another : Environment) : Value → Value → Prop where
  | literal (data : Json) : Resembles environment another (.literal data) (.literal data)
  | property (name : String) :
      Resembles environment another (.reference (.property name)) (.reference (.property name))
  | env {name : String} (h : environment.get? name = another.get? name) :
      Resembles environment another (.reference (.env name)) (.reference (.env name))
  | nested {source other : Path} {properties others : List (String × Value)}
      (htelltales : Definition.telltales ⟨source, properties⟩ =
        Definition.telltales ⟨other, others⟩)
      (hinline : Definition.telltales ⟨source, properties⟩ = ["inline"] →
        (properties.lookup "inline").map Value.toData =
          (others.lookup "inline").map Value.toData) :
      Resembles environment another (.nested source properties) (.nested other others)

/-- The places that the resolution of a root property reads, be there a value or none. -/
inductive Document.Reads (document : Document) (property : String) : Place → Prop where
  | root : Reads document property ⟨property, []⟩
  | followed {place : Place} {name : String} (h : Reads document property place)
      (hat : document.at? place = some (.reference (.property name))) :
      Reads document property ⟨name, []⟩
  | part {place : Place} {source : Path} {properties : List (String × Value)} {name : String}
      (h : Reads document property place)
      (hat : document.at? place = some (.nested source properties))
      (hname : name ∈ Definition.consulted ⟨source, properties⟩) :
      Reads document property (place.part name)

/-- Two documents, each in its environment, lie in one place and agree on everything that the
resolution of a root property reads. -/
structure Document.Agree (property : String) (document : Document) (environment : Environment)
    (other : Document) (another : Environment) : Prop where
  path : document.path = other.path
  value (place : Place) : document.Reads property place →
    Option.Rel (Value.Resembles environment another) (document.at? place) (other.at? place)

/-! ### Visitors of documents that agree -/

namespace Visitor

open Resolving (Matches)

variable {options : ResolverOptions} {disk : Disk} {property : String} {v w : Visitor}
  {ask answer : Ask}

/-- Two visitors with one chain, of documents that agree on what is read. -/
structure Abreast (options : ResolverOptions) (property : String) (v w : Visitor) : Prop where
  own : v.registry = .standard options
  other : w.registry = .standard options
  guarded : v.guarded = w.guarded
  chain : v.chain = w.chain
  agree : Document.Agree property v.document v.environment w.document w.environment

theorem Abreast.extend (h : v.Abreast options property w) (name : String) :
    ({ v with chain := v.chain ++ [name] } : Visitor).Abreast options property
      { w with chain := w.chain ++ [name] } :=
  ⟨h.own, h.other, h.guarded, congrArg (· ++ [name]) h.chain, h.agree⟩

/-- The values of one place that is read. -/
def Twins (property : String) (v w : Visitor) (x y : Value) : Prop :=
  ∃ place, v.document.Reads property place ∧ v.document.at? place = some x ∧
    w.document.at? place = some y

theorem Abreast.resembles (h : v.Abreast options property w) {x y : Value}
    (hxy : Twins property v w x y) : x.Resembles v.environment w.environment y := by
  obtain ⟨place, hread, hx, hy⟩ := hxy
  have hvalue := h.agree.value place hread
  rw [hx, hy] at hvalue
  cases hvalue with
  | some hsame => exact hsame

/-- A place that is read has values in both documents, or in none. -/
theorem Abreast.rel_at? (h : v.Abreast options property w) {place : Place}
    (hread : v.document.Reads property place) :
    Option.Rel (Twins property v w) (v.document.at? place) (w.document.at? place) := by
  have hvalue := h.agree.value place hread
  cases hx : v.document.at? place with
  | none =>
      rw [hx] at hvalue
      generalize w.document.at? place = its at hvalue ⊢
      cases hvalue with
      | none => exact .none
  | some x =>
      rw [hx] at hvalue
      cases hy : w.document.at? place with
      | none =>
          rw [hy] at hvalue
          cases hvalue
      | some y => exact .some ⟨place, hread, hx, hy⟩

theorem Abreast.rel_root (h : v.Abreast options property w) {name : String}
    (hread : v.document.Reads property ⟨name, []⟩) :
    Option.Rel (Twins property v w) (v.document.root.get? name) (w.document.root.get? name) := by
  rw [← Document.at?_root, ← Document.at?_root]
  exact h.rel_at? hread

theorem Abreast.rel_pointed (h : v.Abreast options property w) {name : String} {y : Value}
    (hxy : Twins property v w (.reference (.property name)) y) :
    Option.Rel (Twins property v w) (v.document.root.get? name) (w.document.root.get? name) := by
  obtain ⟨place, hread, hx, -⟩ := hxy
  exact h.rel_root (.followed hread hx)

theorem Abreast.rel_part (h : v.Abreast options property w) {source other : Path}
    {properties others : List (String × Value)}
    (hxy : Twins property v w (.nested source properties) (.nested other others)) {name : String}
    (hname : name ∈ Definition.consulted ⟨source, properties⟩) :
    Option.Rel (Twins property v w) (properties.lookup name) (others.lookup name) := by
  obtain ⟨place, hread, hx, hy⟩ := hxy
  rw [← Document.at?_part hx, ← Document.at?_part hy]
  exact h.rel_at? (.part hread hx hname)

/-- Names of one chain are refused together, and followed alike if there are values in both
documents that are resolved alike, or in none. -/
theorem Abreast.matches_follow (h : v.Abreast options property w) {name : String}
    (hroot : Option.Rel (Twins property v w) (v.document.root.get? name)
      (w.document.root.get? name))
    (hask : ∀ x y, Twins property v w x y →
      Matches disk (ask { v with chain := v.chain ++ [name] } x)
        (answer { w with chain := w.chain ++ [name] } y)) :
    Matches disk (follow ask v name) (follow answer w name) := by
  have hsame : (v.guarded && v.chain.contains name) = (w.guarded && w.chain.contains name) := by
    rw [h.guarded, h.chain]
  cases hseen : v.guarded && v.chain.contains name with
  | true =>
      rw [follow_of_contains hseen, follow_of_contains (hsame.symm.trans hseen)]
      exact .failed (.circular _ _)
  | false =>
      have hunseen := hsame.symm.trans hseen
      unfold follow
      rw [hseen, hsame.symm.trans hseen]
      generalize v.document.root.get? name = own at hroot ⊢
      generalize w.document.root.get? name = its at hroot ⊢
      cases hroot with
      | none => exact .failed (.blames (.missingProperty name) _ _)
      | some hxy => exact hask _ _ hxy

/-- Definitions of which the same is read are resolved alike if what their resolver asks for is. -/
theorem Abreast.matches_route (h : v.Abreast options property w) {source other : Path}
    {properties others : List (String × Value)}
    (hxy : Twins property v w (.nested source properties) (.nested other others))
    (hask : ∀ x y, Twins property v w x y → Matches disk (ask v x) (answer w y)) :
    Matches disk (route ask v ⟨source, properties⟩) (route answer w ⟨other, others⟩) := by
  have hrespect := Resolving.respectful_compares options disk (P := fun _ => False)
    (S := ResolveError.Akin) fun e _ => .refl e
  obtain ⟨htelltales, hinline⟩ : Definition.telltales ⟨source, properties⟩ =
      Definition.telltales ⟨other, others⟩ ∧
        (Definition.telltales ⟨source, properties⟩ = ["inline"] →
          (properties.lookup "inline").map Value.toData =
            (others.lookup "inline").map Value.toData) := by
    cases h.resembles hxy with
    | nested htelltales hinline => exact ⟨htelltales, hinline⟩
  have hparts : Alongside (Resolving.Compares disk (fun _ => False) ResolveError.Akin) Eq
      (v.scope ask) (w.scope answer) (Definition.consulted ⟨source, properties⟩)
      ⟨source, properties⟩ ⟨other, others⟩ := by
    refine ⟨h.agree.path, fun name hname => ?_, fun hf => .failed (.blames hf _ _)⟩
    exact rel_imp (h.rel_part hxy hname) hask
  apply hrespect.discreet.route h.own h.other hparts (Definition.has_of_telltales_eq htelltales _)
  intro resolver hbuiltin hlookup
  have hown := Registry.telltales_of_lookup hlookup
  simp only [Registry.standard, Registry.builtin, List.mem_cons, List.not_mem_nil,
    or_false] at hbuiltin
  rcases hbuiltin with rfl | rfl | rfl
  · have hconsulted : Definition.consulted ⟨source, properties⟩ = ["directory"] := by
      rw [Definition.consulted, hown]
      rfl
    apply hrespect.discreet.directory hparts
    simp [hconsulted]
  · have hconsulted : Definition.consulted ⟨source, properties⟩ = ["file", "encoding"] := by
      rw [Definition.consulted, hown]
      rfl
    apply hrespect.file hparts <;> simp [hconsulted]
  · exact hrespect.discreet.inline hparts (hinline hown)

/-- One level: the values of a place that is read are resolved alike. -/
theorem Abreast.matches_level (h : v.Abreast options property w) {x y : Value}
    (hxy : Twins property v w x y)
    (hask : ∀ a b, Twins property v w a b → Matches disk (ask v a) (answer w b))
    (hfollow : ∀ name a b, Twins property v w a b →
      Matches disk (ask { v with chain := v.chain ++ [name] } a)
        (answer { w with chain := w.chain ++ [name] } b)) :
    Matches disk (level ask v x) (level answer w y) := by
  cases h.resembles hxy with
  | literal data => exact .ok (.data data)
  | env hvariable =>
      simp only [level, hvariable]
      cases w.environment.get? _ with
      | none => exact .failed (.refl _)
      | some text => exact .ok (.data _)
  | nested => exact h.matches_route hxy hask
  | property name =>
      have hroot := h.rel_pointed hxy
      have hhas : v.document.root.has name = w.document.root.has name := isSome_eq_of_rel hroot
      simp only [level, hhas]
      split
      · exact h.matches_follow hroot (hfollow name)
      · exact .failed (.refl _)

/-- By induction on the levels, of which there may be more on the right. -/
theorem Abreast.matches_valueWithin (h : v.Abreast options property w) {levels more : Nat}
    (hmore : levels ≤ more) {x y : Value} (hxy : Twins property v w x y) :
    Matches disk (valueWithin levels v x) (valueWithin more w y) := by
  induction levels generalizing more v w x y with
  | zero => exact .exhausted
  | succ levels ih =>
      obtain ⟨more, rfl⟩ := Nat.exists_eq_add_of_le' (Nat.lt_of_lt_of_le (Nat.succ_pos _) hmore)
      have hfewer := Nat.le_of_succ_le_succ hmore
      apply h.matches_level hxy
      · intro a b hab
        exact ih h hfewer hab
      · intro name a b hab
        exact ih (h.extend name) hfewer hab

theorem Abreast.matches_followRoot (h : v.Abreast options property w) {levels more : Nat}
    (hmore : levels ≤ more) :
    Matches disk (followRoot (valueWithin levels) v property)
      (followRoot (valueWithin more) w property) := by
  have hroot := h.rel_root .root
  have hhas : v.document.root.has property = w.document.root.has property := isSome_eq_of_rel hroot
  unfold followRoot
  rw [hhas]
  split
  · apply h.matches_follow hroot
    intro x y hxy
    exact (h.extend property).matches_valueWithin hmore hxy
  · exact .failed (.blames (.missingProperty property) _ _)

/-- What is not read does not matter: whatever other resolutions have left, a root property comes
to the same artifact, or fails in the same way, in two documents that agree on what its
resolution reads. -/
theorem upwardRoot_of_agree (options : ResolverOptions) {document other : Document}
    {environment another : Environment} {name : String}
    (hagree : Document.Agree name document environment other another) (disk : Disk)
    (known others : List Path) :
    let v := start (.standard options) document environment
    let w := start (.standard options) other another
    ∃ own its, ((v.upwardRoot name).run disk (.serving options.mode.maxAge known)).1 = some own ∧
      ((w.upwardRoot name).run disk (.serving options.mode.maxAge others)).1 = some its ∧
      Likewise (Artifact.Related (Handler.ServesAlike options disk)) own its := by
  intro v w
  have hv : v.registry = .standard options := rfl
  have hw : w.registry = .standard options := rfl
  have habreast : v.Abreast options name w := ⟨hv, hw, rfl, rfl, hagree⟩
  obtain ⟨own, hown⟩ := exists_outcome_upwardRoot hv rfl disk name
  obtain ⟨its, hits⟩ := exists_outcome_upwardRoot hw rfl disk name
  have hleft : v.enough 0 ≤ max (v.enough 0) (w.enough 0) := Nat.le_max_left _ _
  have hright : w.enough 0 ≤ max (v.enough 0) (w.enough 0) := Nat.le_max_right _ _
  obtain ⟨same, hsame, hlike⟩ := (habreast.matches_followRoot hleft).exists_outcome hown
  have hfound := (refines_upwardRoot hw rfl hright name).outcome_eq hits
  obtain rfl := Option.some.inj (hsame.symm.trans hfound)
  obtain ⟨first, hfirst, hfirstOwn⟩ :=
    Resolved.rel_some_right (rel_outcome_upwardRoot hv disk known name) hown
  obtain ⟨second, hsecond, hsecondIts⟩ :=
    Resolved.rel_some_right (rel_outcome_upwardRoot hw disk others name) hits
  exact ⟨first, second, hfirst, hsecond, hlike.of_resolved hfirstOwn hsecondIts⟩

/-- The document of `siteOf` with a cycle in it, and a property that no resolver asks for. -/
def crowdedSite : Document :=
  ⟨⟨"/d"⟩, ⟨⟨"/d"⟩, [("base", .string "/x"), ("loop", .reference (.property "loop")),
    ("site", .nested ⟨"/d"⟩ [("directory", .reference (.property "base")),
      ("note", .reference (.property "loop"))])]⟩⟩

theorem reads_siteOf {place : Place}
    (h : (siteOf (.reference (.property "base"))).Reads "site" place) :
    place = ⟨"site", []⟩ ∨ place = ⟨"site", ["directory"]⟩ ∨ place = ⟨"base", []⟩ := by
  have hsite : (siteOf (.reference (.property "base"))).at? ⟨"site", []⟩ =
      some (.nested ⟨"/d"⟩ [("directory", .reference (.property "base"))]) := rfl
  have hdirectory : (siteOf (.reference (.property "base"))).at? ⟨"site", ["directory"]⟩ =
      some (.reference (.property "base")) := rfl
  have hbase : (siteOf (.reference (.property "base"))).at? ⟨"base", []⟩ =
      some (.string "/x") := rfl
  induction h with
  | root => exact .inl rfl
  | followed _ hat ih =>
      rcases ih with rfl | rfl | rfl
      · simp [hsite] at hat
      · obtain rfl : "base" = _ := by simpa [hdirectory] using hat
        exact .inr (.inr rfl)
      · simp [hbase, Value.string] at hat
  | part _ hat hname ih =>
      rcases ih with rfl | rfl | rfl
      · obtain ⟨rfl, rfl⟩ := Value.nested.inj (Option.some.inj (hsite.symm.trans hat))
        obtain rfl := List.mem_singleton.mp hname
        exact .inr (.inl rfl)
      · simp [hdirectory] at hat
      · simp [hbase, Value.string] at hat

theorem agree_crowdedSite : Document.Agree "site" (siteOf (.reference (.property "base"))) ⟨[]⟩
    crowdedSite ⟨[("HOME", "/h")]⟩ where
  path := rfl
  value place hread := by
    rcases reads_siteOf hread with rfl | rfl | rfl
    · exact .some (.nested (by decide) fun hinline => absurd hinline (by decide))
    · exact .some (.property "base")
    · exact .some (.literal _)

theorem upwardRoot_of_agree_crowdedSite :
    Document.Agree "site" (siteOf (.reference (.property "base"))) ⟨[]⟩ crowdedSite
        ⟨[("HOME", "/h")]⟩ ∧
      let v := start (.standard ⟨.production, none⟩) (siteOf (.reference (.property "base"))) ⟨[]⟩
      let w := start (.standard ⟨.production, none⟩) crowdedSite ⟨[("HOME", "/h")]⟩
      ∃ own its,
        ((v.upwardRoot "site").run (.empty []) .start).1 = some own ∧
          ((w.upwardRoot "site").run (.empty []) .start).1 = some its ∧
          Likewise (Artifact.Related
            (Handler.ServesAlike ⟨.production, none⟩ (.empty []))) own its :=
  ⟨agree_crowdedSite, upwardRoot_of_agree ⟨.production, none⟩ agree_crowdedSite
    (.empty []) [] []⟩

end Visitor

end Signpost
