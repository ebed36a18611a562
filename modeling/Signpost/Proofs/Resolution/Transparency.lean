import Signpost.Proofs.Resolution.Cycles

/-!
References are transparent.  A document and the same document with one of its references
written out resolve alike: what one of them finds without looking at the chain the other one
finds as well, in at most twice as many levels, and where one goes round in a cycle so does
the other.
-/

namespace Signpost

/-! ### Documents with a reference written out -/

/-- A value, and the same value with `new` for one occurrence of `old`; what stands under
`inline` is left alone. -/
inductive Value.Replaced (old new : Value) : Value → Value → Prop where
  | here : Replaced old new old new
  | within {source : Path} {front rest : List (String × Value)} {name : String} {x y : Value}
      (hname : name ≠ "inline") (h : Replaced old new x y) :
      Replaced old new (.nested source (front ++ (name, x) :: rest))
        (.nested source (front ++ (name, y) :: rest))

namespace Document

/-- What a reference in a document stands for. -/
inductive Means (document : Document) (environment : Environment) : Reference → Value → Prop where
  | property {name : String} {x : Value} (h : document.root.get? name = some x) :
      Means document environment (.property name) x
  | env {name text : String} (h : environment.get? name = some text) :
      Means document environment (.env name) (.literal (.string text))

/-- A document, and the same document with one reference replaced by a copy of what it stands
for. -/
inductive WrittenOut (environment : Environment) : Document → Document → Prop where
  | intro {path source : Path} {front rest : List (String × Value)} {name : String}
      {x y copy : Value} {target : Reference}
      (hmeans : Means ⟨path, ⟨source, front ++ (name, x) :: rest⟩⟩ environment target copy)
      (hreplaced : Value.Replaced (.reference target) copy x y) :
      WrittenOut environment ⟨path, ⟨source, front ++ (name, x) :: rest⟩⟩
        ⟨path, ⟨source, front ++ (name, y) :: rest⟩⟩

end Document

section Splice

variable {R : Value → Value → Prop} {x y : Value} {name : String}

theorem lookup_splice (hrefl : ∀ x, R x x) (hxy : R x y) (front rest : List (String × Value))
    (name other : String) :
    Option.Rel R ((front ++ (name, x) :: rest).lookup other)
      ((front ++ (name, y) :: rest).lookup other) := by
  have hsame (found : Option Value) : Option.Rel R found found := by
    cases found with
    | none => exact .none
    | some z => exact .some (hrefl z)
  induction front with
  | nil =>
      rw [List.nil_append, List.nil_append, List.lookup_cons, List.lookup_cons]
      cases other == name with
      | true => exact .some hxy
      | false => exact hsame _
  | cons property front ih =>
      obtain ⟨own, z⟩ := property
      rw [List.cons_append, List.cons_append, List.lookup_cons, List.lookup_cons]
      cases other == own with
      | true => exact hsame _
      | false => exact ih

theorem lookup_splice_of_ne {other : String} (hother : other ≠ name)
    (front rest : List (String × Value)) :
    (front ++ (name, x) :: rest).lookup other = (front ++ (name, y) :: rest).lookup other := by
  have hbeq : (other == name) = false := beq_false_of_ne hother
  rw [List.lookup_append, List.lookup_append, List.lookup_cons, List.lookup_cons, hbeq]

end Splice

/-! ### Values that are resolved alike -/

/-- The data that a value is without anything being resolved. -/
def Value.told? (environment : Environment) : Value → Option Json
  | .literal data => some data
  | .reference (.env name) => (environment.get? name).map Json.string
  | _ => none

theorem Value.told?_env {environment : Environment} {name text : String}
    (h : environment.get? name = some text) :
    (Value.reference (.env name)).told? environment = some (.string text) := by
  rw [Value.told?, h, Option.map_some]

/-- Values of one shape, with parts that `R` relates. -/
inductive Value.Echoes (environment : Environment) (R : Value → Value → Prop) :
    Value → Value → Prop where
  | told {x y : Value} {data : Json} (hx : x.told? environment = some data)
      (hy : y.told? environment = some data) : Echoes environment R x y
  | pointed (target : Reference) : Echoes environment R (.reference target) (.reference target)
  | nested {source other : Path} {properties others : List (String × Value)}
      (hparts : ∀ name, Option.Rel R (properties.lookup name) (others.lookup name))
      (hinline : properties.lookup "inline" = others.lookup "inline") :
      Echoes environment R (.nested source properties) (.nested other others)

theorem Value.Echoes.refl {environment : Environment} {R : Value → Value → Prop}
    (hrefl : ∀ x, R x x) (x : Value) : x.Echoes environment R x := by
  cases x with
  | literal data =>
      have htold : (Value.literal data).told? environment = some data := rfl
      exact .told htold htold
  | reference target => exact .pointed target
  | nested source properties =>
      refine .nested (fun name => ?_) rfl
      cases properties.lookup name with
      | none => exact .none
      | some y => exact .some (hrefl y)

/-- A part can stand for another one that it is related to, but for what stands under `inline`. -/
theorem Value.Echoes.splice {environment : Environment} {R : Value → Value → Prop}
    (hrefl : ∀ x, R x x) {x y : Value} (hxy : R x y) {name : String} (hname : name ≠ "inline")
    (source : Path) (front rest : List (String × Value)) :
    (Value.nested source (front ++ (name, x) :: rest)).Echoes environment R
      (.nested source (front ++ (name, y) :: rest)) :=
  .nested (lookup_splice hrefl hxy front rest name) (lookup_splice_of_ne hname.symm front rest)

/-- Values of one shape, possibly once a reference has been followed in one of two documents. -/
inductive Document.Meets (document other : Document) (environment : Environment)
    (R : Value → Value → Prop) : Value → Value → Prop where
  | echo {x y : Value} (h : x.Echoes environment R y) : Meets document other environment R x y
  | left {name : String} {x y : Value} (hget : document.root.get? name = some x) (h : R x y) :
      Meets document other environment R (.reference (.property name)) y
  | right {name : String} {x y : Value} (hget : other.root.get? name = some y)
      (h : x.Echoes environment R y) :
      Meets document other environment R x (.reference (.property name))

/-! ### Results of one kind -/

/-- The same failure, but for the definition that it names or for the way round a cycle. -/
inductive ResolveError.Akin : ResolveError → ResolveError → Prop where
  | refl (e : ResolveError) : Akin e e
  | blames {f : Definition → ResolveError} (hf : Blames f) (d e : Definition) : Akin (f d) (f e)
  | circular (chain other : List String) : Akin (.circular chain) (.circular other)

/-- Results that are related, or failures of one kind. -/
inductive Likewise {α : Type} (R : α → α → Prop) :
    Except ResolveError α → Except ResolveError α → Prop where
  | ok {a b : α} (h : R a b) : Likewise R (.ok a) (.ok b)
  | error {e e' : ResolveError} (h : e.Akin e') : Likewise R (.error e) (.error e')

/-- Results that come to the same kind where nothing is shared do so wherever else. -/
theorem Likewise.of_resolved {options : ResolverOptions} {disk : Disk}
    {first second own other : Except ResolveError Artifact}
    (h : Likewise (Artifact.Related Eq) own other)
    (hown : Resolved (Artifact.Related (Handler.ServesAlike options disk)) first own)
    (hother : Resolved (Artifact.Related (Handler.ServesAlike options disk)) second other) :
    Likewise (Artifact.Related (Handler.ServesAlike options disk)) first second := by
  cases h with
  | error hkin =>
      rw [hown.to_error, hother.to_error]
      exact .error hkin
  | ok hab =>
      obtain rfl := hab.eq
      obtain ⟨a, rfl, ha⟩ := hown.to_ok
      obtain ⟨b, rfl, hb⟩ := hother.to_ok
      exact .ok (ha.join hb)

namespace Resolving

/-- The second resolution ends with the like of what the first ends with. -/
abbrev Matches (disk : Disk) (p q : Resolving Artifact) : Prop :=
  Compares disk (fun _ => False) ResolveError.Akin Artifact (Artifact.Related Eq) p q

theorem Matches.exists_outcome {disk : Disk} {p q : Resolving Artifact} (h : Matches disk p q)
    {result : Except ResolveError Artifact} (hp : p.outcome disk = some result) :
    ∃ other, q.outcome disk = some other ∧ Likewise (Artifact.Related Eq) result other := by
  unfold Matches Compares at h
  rw [hp] at h
  generalize q.outcome disk = its at h ⊢
  cases h with
  | excused he => exact he.elim
  | failed hkin => exact ⟨_, rfl, .error hkin⟩
  | ok hab => exact ⟨_, rfl, .ok hab⟩

end Resolving

/-! ### Visitors side by side -/

namespace Visitor

open Resolving (Matches)

variable {options : ResolverOptions} {disk : Disk} {R : Value → Value → Prop} {v w : Visitor}
  {ask answer : Ask}

theorem level_of_told? {x : Value} {data : Json} (h : x.told? v.environment = some data) :
    level ask v x = pure (.data data) := by
  cases x with
  | literal own =>
      obtain rfl : own = data := Option.some.inj h
      rfl
  | nested source properties => simp [Value.told?] at h
  | reference target =>
      cases target with
      | property name => simp [Value.told?] at h
      | env name =>
          obtain ⟨text, hget, rfl⟩ := Option.map_eq_some_iff.mp h
          simp only [level, hget]
          rfl

/-- Following references without looking at the chain. -/
theorem level_of_get? (hplain : v.guarded = false) {name : String} {x : Value}
    (hget : v.document.root.get? name = some x) :
    level ask v (.reference (.property name)) = ask { v with chain := v.chain ++ [name] } x := by
  have hseen : (v.guarded && v.chain.contains name) = false := by rw [hplain, Bool.false_and]
  simp only [level, Definition.has, hget, Option.isSome_some, if_true]
  exact follow_of_get? hseen hget

/-- Two visitors that do not look at their chains, of two documents in one place; `R` holds of
the values of one name in the two roots, and of parts of values that it holds of. -/
structure Mirrors (options : ResolverOptions) (R : Value → Value → Prop) (v w : Visitor) :
    Prop where
  own : v.registry = .standard options
  other : w.registry = .standard options
  plain : v.guarded = false
  otherPlain : w.guarded = false
  environment : v.environment = w.environment
  path : v.document.path = w.document.path
  root (name : String) : Option.Rel R (v.document.root.get? name) (w.document.root.get? name)
  meets (x y : Value) : R x y → Document.Meets v.document w.document v.environment R x y

/-- Which names are being followed does not matter. -/
theorem Mirrors.moved (h : v.Mirrors options R w) (chain other : List String) :
    ({ v with chain := chain } : Visitor).Mirrors options R { w with chain := other } :=
  ⟨h.own, h.other, h.plain, h.otherPlain, h.environment, h.path, h.root, h.meets⟩

/-- A name is in both roots, or in none. -/
theorem Mirrors.root_cases (h : v.Mirrors options R w) (name : String) :
    (v.document.root.get? name = none ∧ w.document.root.get? name = none) ∨
      ∃ a b, v.document.root.get? name = some a ∧ w.document.root.get? name = some b ∧ R a b := by
  have hroot := h.root name
  generalize v.document.root.get? name = own at hroot ⊢
  generalize w.document.root.get? name = its at hroot ⊢
  cases hroot with
  | none => exact .inl ⟨rfl, rfl⟩
  | some hab => exact .inr ⟨_, _, rfl, rfl, hab⟩

/-- One level: values of one shape are resolved alike if their parts and the values of the root
are. -/
theorem Mirrors.matches_level (h : v.Mirrors options R w)
    (hvalue : ∀ a b, R a b → Matches disk (ask v a) (answer w b))
    (hfollow : ∀ name a b, R a b → Matches disk (ask { v with chain := v.chain ++ [name] } a)
      (answer { w with chain := w.chain ++ [name] } b))
    {x y : Value} (hxy : x.Echoes v.environment R y) :
    Matches disk (level ask v x) (level answer w y) := by
  have hrespect := Resolving.respectful_compares options disk (P := fun _ => False)
    (S := ResolveError.Akin) fun e _ => .refl e
  cases hxy with
  | told hx hy =>
      rw [level_of_told? hx, level_of_told? (h.environment ▸ hy)]
      exact .ok (.data _)
  | pointed target =>
      cases target with
      | env name =>
          simp only [level, h.environment]
          cases w.environment.get? name with
          | none => exact .failed (.refl _)
          | some text => exact .ok (.data _)
      | property name =>
          rcases h.root_cases name with ⟨hown, hits⟩ | ⟨a, b, hown, hits, hab⟩
          · simp only [level, Definition.has, hown, hits, Option.isSome_none]
            exact .failed (.refl _)
          · rw [level_of_get? h.plain hown, level_of_get? h.otherPlain hits]
            exact hfollow name a b hab
  | @nested source other properties others hparts hinline =>
      refine hrespect.route h.own h.other ⟨h.path, fun name => ?_, hinline, fun hf => ?_⟩
      · have hname := hparts name
        change Option.Rel _ (properties.lookup name) (others.lookup name)
        generalize properties.lookup name = a at hname ⊢
        generalize others.lookup name = b at hname ⊢
        cases hname with
        | none => exact .none
        | some hab => exact .some (hvalue _ _ hab)
      · exact .failed (.blames hf _ _)

/-- Two levels on the right for each on the left leave one for a reference that is followed on
the right alone. -/
theorem Mirrors.matches_valueWithin (h : v.Mirrors options R w) {levels more : Nat}
    (hmore : 2 * levels ≤ more) {x y : Value} (hxy : R x y) :
    Matches disk (valueWithin levels v x) (valueWithin more w y) := by
  induction levels generalizing more v w x y with
  | zero => exact .exhausted
  | succ levels ih =>
      obtain ⟨more, rfl⟩ : ∃ fewer, more = fewer + 2 := ⟨more - 2, by omega⟩
      have hfewer : 2 * levels ≤ more := by omega
      have hshape {v w : Visitor} (h : v.Mirrors options R w) {x y : Value}
          (hxy : x.Echoes v.environment R y) {more : Nat} (hfewer : 2 * levels ≤ more) :
          Matches disk (valueWithin (levels + 1) v x) (valueWithin (more + 1) w y) :=
        h.matches_level (fun a b hab => ih h hfewer hab)
          (fun name a b hab => ih (h.moved _ _) hfewer hab) hxy
      cases h.meets x y hxy with
      | echo hxy => exact hshape h hxy (Nat.le_succ_of_le hfewer)
      | left hget hab =>
          rw [valueWithin, level_of_get? h.plain hget]
          exact ih (h.moved _ w.chain) (Nat.le_add_right_of_le hfewer) hab
      | right hget hab =>
          rw [valueWithin.eq_2 (more + 1), level_of_get? h.otherPlain hget]
          exact hshape (h.moved v.chain _) hab hfewer

theorem Mirrors.matches_followRoot (h : v.Mirrors options R w) (levels : Nat) (name : String) :
    Matches disk (followRoot (valueWithin levels) v name)
      (followRoot (valueWithin (2 * levels)) w name) := by
  rcases h.root_cases name with ⟨hown, hits⟩ | ⟨a, b, hown, hits, hab⟩
  · simp only [followRoot, Definition.has, hown, hits, Option.isSome_none]
    exact .failed (.blames (.missingProperty name) _ _)
  · have hseen : (v.guarded && v.chain.contains name) = false := by rw [h.plain, Bool.false_and]
    have hunseen : (w.guarded && w.chain.contains name) = false := by
      rw [h.otherPlain, Bool.false_and]
    simp only [followRoot, Definition.has, hown, hits, Option.isSome_some, if_true]
    rw [follow_of_get? hseen hown, follow_of_get? hunseen hits]
    exact (h.moved _ _).matches_valueWithin (Nat.le_refl _) hab

end Visitor

/-! ### A document and its variant -/

namespace Document

variable {environment : Environment} {document other : Document}

/-- A value and itself, or itself with `new` for one occurrence of `old`. -/
def Variant (old new x y : Value) : Prop :=
  x = y ∨ Value.Replaced old new x y

section Variants

variable {target : Reference} {copy : Value} (h : document.Means environment target copy)

include h

theorem Means.meets {x y : Value} (hxy : Variant (.reference target) copy x y) :
    Meets document other environment (Variant (.reference target) copy) x y := by
  rcases hxy with rfl | hreplaced
  · exact .echo (.refl (fun _ => .inl rfl) x)
  · cases hreplaced with
    | here =>
        cases h with
        | property hget => exact .left hget (.inl rfl)
        | env hget => exact .echo (.told (Value.told?_env hget) rfl)
    | within hname hab => exact .echo (.splice (fun _ => .inl rfl) (.inr hab) hname _ _ _)

theorem Means.meets_back {x y : Value} (hxy : Variant (.reference target) copy x y) :
    Meets other document environment (flip (Variant (.reference target) copy)) y x := by
  rcases hxy with rfl | hreplaced
  · exact .echo (.refl (fun _ => .inl rfl) x)
  · cases hreplaced with
    | here =>
        cases h with
        | property hget => exact .right hget (.refl (fun _ => .inl rfl) copy)
        | env hget => exact .echo (.told rfl (Value.told?_env hget))
    | within hname hab => exact .echo (.splice (fun _ => .inl rfl) (.inr hab) hname _ _ _)

end Variants

/-- Visitors of a document and its variant mirror each other as long as they do not look at
their chains. -/
theorem WrittenOut.mirrors (h : document.WrittenOut environment other)
    (options : ResolverOptions) :
    let v : Visitor := { Visitor.start (.standard options) document environment with guarded := false }
    let w : Visitor := { Visitor.start (.standard options) other environment with guarded := false }
    ∃ R, v.Mirrors options R w ∧ w.Mirrors options (flip R) v := by
  intro v w
  cases h with
  | @intro path source front rest name x y copy target hmeans hreplaced =>
      refine ⟨Variant (.reference target) copy, ?_, ?_⟩
      · refine ⟨rfl, rfl, rfl, rfl, rfl, rfl, fun other => ?_, fun x y hxy => hmeans.meets hxy⟩
        exact lookup_splice (fun _ => .inl rfl) (.inr hreplaced) front rest name other
      · refine ⟨rfl, rfl, rfl, rfl, rfl, rfl, fun other => ?_, fun y x hxy => hmeans.meets_back hxy⟩
        exact lookup_splice (fun _ => .inl rfl) (.inr hreplaced) front rest name other

end Document

namespace Visitor

open Resolving (Matches)

/-- What one of two documents comes to without looking at the chain, the other one comes to the
like of; so where one never ends neither does the other, and both report a cycle. -/
theorem likewise_outcome (options : ResolverOptions) {document other : Document}
    {environment : Environment} (h : document.WrittenOut environment other) (disk : Disk)
    (name : String) :
    let v := start (.standard options) document environment
    let w := start (.standard options) other environment
    ∃ own its, (v.upwardRoot name).outcome disk = some own ∧
      (w.upwardRoot name).outcome disk = some its ∧ Likewise (Artifact.Related Eq) own its := by
  intro v w
  have hv : v.registry = .standard options := rfl
  have hw : w.registry = .standard options := rfl
  obtain ⟨R, hforth, hback⟩ := h.mirrors options
  obtain ⟨hown, hownCircular⟩ := outcome_upwardRoot hv rfl rfl disk name
  obtain ⟨hits, hitsCircular⟩ := outcome_upwardRoot hw rfl rfl disk name
  by_cases hnever : ∀ levels, (v.naively levels name).outcome disk = none
  · obtain ⟨chain, hcircular⟩ := hownCircular.mpr hnever
    have hneither : ∀ levels, (w.naively levels name).outcome disk = none := by
      intro levels
      cases hfound : (w.naively levels name).outcome disk with
      | none => rfl
      | some result =>
          obtain ⟨same, hsame, -⟩ := (hback.matches_followRoot levels name).exists_outcome hfound
          exact absurd ((hnever (2 * levels)).symm.trans hsame) (by simp)
    obtain ⟨around, hreported⟩ := hitsCircular.mpr hneither
    exact ⟨_, _, hcircular, hreported, .error (.circular chain around)⟩
  · obtain ⟨levels, hends⟩ := not_forall.mp hnever
    obtain ⟨result, hfound⟩ := Option.ne_none_iff_exists'.mp hends
    obtain ⟨same, hsame, hlike⟩ := (hforth.matches_followRoot levels name).exists_outcome hfound
    exact ⟨result, same, hown levels result hfound, hits (2 * levels) same hsame, hlike⟩

/-- References are transparent: whatever other resolutions have left, a root property comes to
the same artifact, or fails in the same way, in a document and in the same document with a
reference written out. -/
theorem upwardRoot_transparent (options : ResolverOptions) {document other : Document}
    {environment : Environment} (h : document.WrittenOut environment other) (disk : Disk)
    (known others : List Path) (name : String) :
    let v := start (.standard options) document environment
    let w := start (.standard options) other environment
    ∃ own its, ((v.upwardRoot name).run disk (.serving options.mode.maxAge known)).1 = some own ∧
      ((w.upwardRoot name).run disk (.serving options.mode.maxAge others)).1 = some its ∧
      Likewise (Artifact.Related (Handler.ServesAlike options disk)) own its := by
  intro v w
  have hv : v.registry = .standard options := rfl
  have hw : w.registry = .standard options := rfl
  obtain ⟨own, its, hown, hits, hlike⟩ := likewise_outcome options h disk name
  obtain ⟨first, hfirst, hfirstOwn⟩ :=
    Resolved.rel_some_right (rel_outcome_upwardRoot hv disk known name) hown
  obtain ⟨second, hsecond, hsecondIts⟩ :=
    Resolved.rel_some_right (rel_outcome_upwardRoot hw disk others name) hits
  exact ⟨first, second, hfirst, hsecond, hlike.of_resolved hfirstOwn hsecondIts⟩

/-- The document of a site whose directory is given by a value. -/
def siteOf (x : Value) : Document :=
  ⟨⟨"/d"⟩, ⟨⟨"/d"⟩, [("base", .string "/x"), ("site", .nested ⟨"/d"⟩ [("directory", x)])]⟩⟩

theorem writtenOut_siteOf :
    (siteOf (.reference (.property "base"))).WrittenOut ⟨[]⟩ (siteOf (.string "/x")) := by
  have hreplaced : Value.Replaced (.reference (.property "base")) (.string "/x")
      (.nested ⟨"/d"⟩ [("directory", .reference (.property "base"))])
      (.nested ⟨"/d"⟩ [("directory", .string "/x")]) :=
    @Value.Replaced.within _ _ ⟨"/d"⟩ [] [] "directory" _ _ (by decide) .here
  exact @Document.WrittenOut.intro _ ⟨"/d"⟩ ⟨"/d"⟩ [("base", .string "/x")] [] "site" _ _ _ _
    (.property rfl) hreplaced

theorem upwardRoot_transparent_site :
    (siteOf (.reference (.property "base"))).WrittenOut ⟨[]⟩ (siteOf (.string "/x")) ∧
      let v := start (.standard ⟨.production, none⟩) (siteOf (.reference (.property "base"))) ⟨[]⟩
      let w := start (.standard ⟨.production, none⟩) (siteOf (.string "/x")) ⟨[]⟩
      ∃ own its,
        ((v.upwardRoot "site").run (.empty []) .start).1 = some own ∧
          ((w.upwardRoot "site").run (.empty []) .start).1 = some its ∧
          Likewise (Artifact.Related
            (Handler.ServesAlike ⟨.production, none⟩ (.empty []))) own its :=
  ⟨writtenOut_siteOf, upwardRoot_transparent ⟨.production, none⟩ writtenOut_siteOf
    (.empty []) [] [] "site"⟩

end Visitor

end Signpost
