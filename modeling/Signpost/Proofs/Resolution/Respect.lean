import Signpost.Proofs.Resolution.Registration
import Signpost.Visitor

/-!
Resolution by the built-in resolvers, part by part.  A relation between resolutions that
holds of their questions and failures, and passes from what comes first to what comes
after, holds of the resolution of a definition as soon as it does of that of its
properties.
-/

namespace Signpost

/-- Artifacts that are the same but for the handlers they may be. -/
inductive Artifact.Related (H : Handler → Handler → Prop) : Artifact → Artifact → Prop where
  | data (value : Json) : Related H (.data value) (.data value)
  | handler {first second : Handler} (h : H first second) :
      Related H (.handler first) (.handler second)

theorem Artifact.Related.asString? {H : Handler → Handler → Prop} {a b : Artifact}
    (h : Artifact.Related H a b) : a.asString? = b.asString? := by
  cases h <;> rfl

theorem Artifact.Related.kind {H : Handler → Handler → Prop} {a b : Artifact}
    (h : Artifact.Related H a b) : a.kind = b.kind := by
  cases h <;> rfl

/-- The failures that name a definition. -/
inductive ResolveError.Blames : (Definition → ResolveError) → Prop where
  | missingProperty (property : String) : Blames (.missingProperty property)
  | noMatch (known : List String) : Blames fun d => .noMatch d known
  | ambiguous (telltales : List String) : Blames fun d => .ambiguous d telltales

theorem ResolveError.Blames.ne_circular {f : Definition → ResolveError} (hf : Blames f)
    (d : Definition) (chain : List String) : f d ≠ .circular chain := by
  cases hf <;> simp

/-- Which telltales a definition carries decides about its resolver, or about the failure that
there is none. -/
theorem Registry.lookup_cases (r : Registry) (d : Definition) :
    (∃ resolver ∈ r.resolvers, ∀ e : Definition,
        (∀ telltale ∈ r.telltales, d.has telltale = e.has telltale) → r.lookup e = .ok resolver) ∨
      ∃ f, ResolveError.Blames f ∧ ∀ e : Definition,
        (∀ telltale ∈ r.telltales, d.has telltale = e.has telltale) →
          r.lookup e = .error (f e) := by
  have hsame {e : Definition} (h : ∀ telltale ∈ r.telltales, d.has telltale = e.has telltale) :
      (r.resolvers.filter fun resolver => e.has resolver.telltale) =
        r.resolvers.filter fun resolver => d.has resolver.telltale := by
    apply List.filter_congr
    intro resolver hresolver
    exact (h resolver.telltale (List.mem_map_of_mem hresolver)).symm
  cases hmatch : r.resolvers.filter fun resolver => d.has resolver.telltale with
  | nil =>
      refine .inr ⟨fun e => .noMatch e r.telltales, .noMatch _, fun e hhas => ?_⟩
      rw [lookup, hsame hhas, hmatch]
  | cons first rest =>
      cases rest with
      | nil =>
          have hin : first ∈ r.resolvers.filter fun resolver => d.has resolver.telltale :=
            hmatch ▸ List.mem_singleton_self first
          refine .inl ⟨first, (List.mem_filter.mp hin).1, fun e hhas => ?_⟩
          rw [lookup, hsame hhas, hmatch]
      | cons second rest =>
          refine .inr ⟨fun e => .ambiguous e ((first :: second :: rest).map Resolver.telltale),
            .ambiguous _, fun e hhas => ?_⟩
          rw [lookup, hsame hhas, hmatch]

/-- The telltales of built-in resolvers that a definition carries. -/
def Definition.telltales (d : Definition) : List String :=
  ["directory", "file", "inline"].filter d.has

theorem Definition.has_of_telltales_eq {d e : Definition} (h : d.telltales = e.telltales)
    (options : ResolverOptions) :
    ∀ telltale ∈ (Registry.standard options).telltales, d.has telltale = e.has telltale := by
  intro telltale htelltale
  have hmem (d : Definition) : telltale ∈ d.telltales ↔ d.has telltale = true :=
    List.mem_filter.trans (and_iff_right htelltale)
  rw [Bool.eq_iff_iff, ← hmem d, ← hmem e, h]

/-- A definition with a resolver carries the telltale of that one, and no other. -/
theorem Registry.telltales_of_lookup {options : ResolverOptions} {d : Definition}
    {resolver : Resolver} (h : (Registry.standard options).lookup d = .ok resolver) :
    d.telltales = [resolver.telltale] := by
  rw [← (lookup_eq_ok_iff.mp h).2]
  apply List.filter_congr
  intro telltale _
  rw [Bool.eq_iff_iff, Definition.has_iff_mem_names]
  simp

namespace Visitor

variable {v : Visitor} {ask : Ask} {name : String}

theorem follow_of_get? (hseen : (v.guarded && v.chain.contains name) = false) {y : Value}
    (hget : v.document.root.get? name = some y) :
    follow ask v name = ask { v with chain := v.chain ++ [name] } y := by
  unfold follow
  rw [hseen, hget]
  rfl

theorem follow_of_get?_eq_none (hseen : (v.guarded && v.chain.contains name) = false)
    (hget : v.document.root.get? name = none) :
    follow ask v name = throw (.missingProperty name v.document.root) := by
  unfold follow
  rw [hseen, hget]
  rfl

theorem follow_of_contains (hseen : (v.guarded && v.chain.contains name) = true) :
    follow ask v name = throw (.circular (v.chain ++ [name])) := by
  unfold follow
  rw [hseen]
  rfl

end Visitor

/-- A relation between resolutions by the built-in resolvers: `C` holds of the paths that
stay within the root, and `H` relates the handlers that directories are served by. -/
structure Respectful (options : ResolverOptions) (C : Path → Prop) (H : Handler → Handler → Prop)
    (T : (α : Type) → (α → α → Prop) → Resolving α → Resolving α → Prop) : Prop where
  protected pure {α : Type} {R : α → α → Prop} {a b : α} : R a b → T α R (pure a) (pure b)
  protected throw {α : Type} {R : α → α → Prop} {e : ResolveError} :
    (∀ chain, e ≠ .circular chain) → T α R (throw e) (throw e)
  protected bind {α β : Type} {R : α → α → Prop} {S : β → β → Prop} {p q : Resolving α}
    {f g : α → Resolving β} :
    T α R p q → (∀ a b, R a b → T β S (f a) (g b)) → T β S (p >>= f) (q >>= g)
  confine (path : Path) : T Path (fun first second => first = second ∧ C first)
    (Resolving.confine options.rootPath path) (Resolving.confine options.rootPath path)
  read {path : Path} : C path → T ByteArray Eq (Resolving.read path) (Resolving.read path)
  serve {base : Path} : C base →
    T Handler H (Resolving.serve base options.mode.maxAge)
      (Resolving.serve base options.mode.maxAge)

/-- What is asked of a relation between resolutions by the built-in resolvers where no file is
read. -/
structure Discreet (options : ResolverOptions) (C : Path → Prop) (H : Handler → Handler → Prop)
    (T : (α : Type) → (α → α → Prop) → Resolving α → Resolving α → Prop) : Prop where
  protected pure {α : Type} {R : α → α → Prop} {a b : α} : R a b → T α R (pure a) (pure b)
  protected throw {α : Type} {R : α → α → Prop} {e : ResolveError} :
    (∀ chain, e ≠ .circular chain) → T α R (throw e) (throw e)
  protected bind {α β : Type} {R : α → α → Prop} {S : β → β → Prop} {p q : Resolving α}
    {f g : α → Resolving β} :
    T α R p q → (∀ a b, R a b → T β S (f a) (g b)) → T β S (p >>= f) (q >>= g)
  confine (path : Path) : T Path (fun first second => first = second ∧ C first)
    (Resolving.confine options.rootPath path) (Resolving.confine options.rootPath path)
  serve {base : Path} : C base →
    T Handler H (Resolving.serve base options.mode.maxAge)
      (Resolving.serve base options.mode.maxAge)

theorem Respectful.discreet {options : ResolverOptions} {C : Path → Prop}
    {H : Handler → Handler → Prop}
    {T : (α : Type) → (α → α → Prop) → Resolving α → Resolving α → Prop}
    (h : Respectful options C H T) : Discreet options C H T :=
  ⟨h.pure, h.throw, h.bind, h.confine, h.serve⟩

/-- Two definitions in scopes of the same place that are blamed alike; they have or lack these
properties together, and those are resolved alike. -/
structure Alongside (T : (α : Type) → (α → α → Prop) → Resolving α → Resolving α → Prop)
    (H : Handler → Handler → Prop) (scope other : Scope) (properties : List String)
    (d e : Definition) : Prop where
  path : scope.document.path = other.document.path
  value (property : String) : property ∈ properties →
    Option.Rel (fun x y => T Artifact (Artifact.Related H) (scope.value x) (other.value y))
      (d.get? property) (e.get? property)
  blame {α : Type} {R : α → α → Prop} {f : Definition → ResolveError} :
    ResolveError.Blames f → T α R (throw (f d)) (throw (f e))

theorem isSome_eq_of_rel {α β : Type} {R : α → β → Prop} {a : Option α} {b : Option β}
    (h : Option.Rel R a b) : a.isSome = b.isSome := by
  cases h <;> rfl

theorem rel_imp {α β : Type} {R S : α → β → Prop} {a : Option α} {b : Option β}
    (h : Option.Rel R a b) (hRS : ∀ x y, R x y → S x y) : Option.Rel S a b := by
  cases h with
  | none => exact .none
  | some hxy => exact .some (hRS _ _ hxy)

theorem Alongside.has {T : (α : Type) → (α → α → Prop) → Resolving α → Resolving α → Prop}
    {H : Handler → Handler → Prop} {scope other : Scope} {properties : List String}
    {d e : Definition} (h : Alongside T H scope other properties d e) {property : String}
    (hproperty : property ∈ properties) : d.has property = e.has property :=
  isSome_eq_of_rel (h.value property hproperty)

/-- Two definitions in scopes of the same place, the properties of which are resolved alike, and
blamed alike; what they have for `inline` is not resolved. -/
structure Parallel (T : (α : Type) → (α → α → Prop) → Resolving α → Resolving α → Prop)
    (H : Handler → Handler → Prop) (scope other : Scope) (d e : Definition) : Prop where
  path : scope.document.path = other.document.path
  value (property : String) :
    Option.Rel (fun x y => T Artifact (Artifact.Related H) (scope.value x) (other.value y))
      (d.get? property) (e.get? property)
  data : d.get? "inline" = e.get? "inline"
  blame {α : Type} {R : α → α → Prop} {f : Definition → ResolveError} :
    ResolveError.Blames f → T α R (throw (f d)) (throw (f e))

theorem Parallel.alongside {T : (α : Type) → (α → α → Prop) → Resolving α → Resolving α → Prop}
    {H : Handler → Handler → Prop} {scope other : Scope} {d e : Definition}
    (h : Parallel T H scope other d e) (properties : List String) :
    Alongside T H scope other properties d e :=
  ⟨h.path, fun property _ => h.value property, h.blame⟩

/-- Two visitors of one document and one environment, with the built-in resolvers; they may
differ in their chains and in whether they look at them. -/
structure Visitor.Kin (options : ResolverOptions) (v w : Visitor) : Prop where
  own : v.registry = .standard options
  other : w.registry = .standard options
  document : v.document = w.document
  environment : v.environment = w.environment

theorem Visitor.Kin.refl {options : ResolverOptions} {v : Visitor}
    (hv : v.registry = .standard options) : v.Kin options v :=
  ⟨hv, hv, rfl, rfl⟩

/-- They stay so when both follow a name. -/
theorem Visitor.Kin.extend {options : ResolverOptions} {v w : Visitor} (h : v.Kin options w)
    (name : String) :
    ({ v with chain := v.chain ++ [name] } : Visitor).Kin options
      { w with chain := w.chain ++ [name] } :=
  ⟨h.own, h.other, h.document, h.environment⟩

namespace Discreet

variable {options : ResolverOptions} {C : Path → Prop} {H : Handler → Handler → Prop}
  {T : (α : Type) → (α → α → Prop) → Resolving α → Resolving α → Prop}

theorem mapSome (h : Discreet options C H T) {α : Type} {R : α → α → Prop} {p q : Resolving α}
    (hpq : T α R p q) : T (Option α) (Option.Rel R) (some <$> p) (some <$> q) := by
  rw [map_eq_pure_bind, map_eq_pure_bind]
  exact h.bind hpq fun a b hab => h.pure (.some hab)

theorem rel_get? (_ : Discreet options C H T) {scope other : Scope} {d : Definition}
    {property : String} (hvalue : ∀ y, d.get? property = some y →
      T Artifact (Artifact.Related H) (scope.value y) (other.value y)) :
    Option.Rel (fun x y => T Artifact (Artifact.Related H) (scope.value x) (other.value y))
      (d.get? property) (d.get? property) := by
  cases hget : d.get? property with
  | none => exact .none
  | some y => exact .some (hvalue y hget)

/-- A definition goes alongside itself if these properties are resolved alike. -/
theorem alongside (h : Discreet options C H T) {scope other : Scope} {properties : List String}
    {d : Definition} (hdocument : scope.document = other.document)
    (hvalue : ∀ property ∈ properties, ∀ y, d.get? property = some y →
      T Artifact (Artifact.Related H) (scope.value y) (other.value y)) :
    Alongside T H scope other properties d d where
  path := congrArg Document.path hdocument
  value property hproperty := h.rel_get? (hvalue property hproperty)
  blame hf := h.throw (hf.ne_circular d)

/-- A definition runs parallel to itself if its properties are resolved alike. -/
theorem parallel (h : Discreet options C H T) {scope other : Scope} {d : Definition}
    (hdocument : scope.document = other.document)
    (hvalue : ∀ property y, d.get? property = some y →
      T Artifact (Artifact.Related H) (scope.value y) (other.value y)) :
    Parallel T H scope other d d where
  path := congrArg Document.path hdocument
  value property := h.rel_get? (hvalue property)
  data := rfl
  blame hf := h.throw (hf.ne_circular d)

section Scopes

variable {scope other : Scope} {properties : List String} {d e : Definition}

theorem requireString (h : Discreet options C H T) {a b : Artifact}
    (hab : Artifact.Related H a b) (resolver property : String) :
    T String Eq (Resolver.requireString resolver property a)
      (Resolver.requireString resolver property b) := by
  unfold Resolver.requireString
  rw [hab.asString?, hab.kind]
  cases b.asString? with
  | some s => exact h.pure rfl
  | none => exact h.throw (by simp)

theorem upward (_ : Discreet options C H T) (hde : Alongside T H scope other properties d e)
    {property : String} (hproperty : property ∈ properties) :
    T Artifact (Artifact.Related H) (scope.upward d property) (other.upward e property) := by
  have hvalue := hde.value property hproperty
  unfold Scope.upward
  generalize d.get? property = own at hvalue ⊢
  generalize e.get? property = its at hvalue ⊢
  cases hvalue with
  | some hxy => exact hxy
  | none => exact hde.blame (.missingProperty property)

theorem upward? (h : Discreet options C H T) (hde : Alongside T H scope other properties d e)
    {property : String} (hproperty : property ∈ properties) :
    T (Option Artifact) (Option.Rel (Artifact.Related H)) (scope.upward? d property)
      (other.upward? e property) := by
  have hvalue := hde.value property hproperty
  unfold Scope.upward?
  generalize d.get? property = own at hvalue ⊢
  generalize e.get? property = its at hvalue ⊢
  cases hvalue with
  | some hxy => exact h.mapSome hxy
  | none => exact h.pure .none

theorem encodingOf (h : Discreet options C H T) (hde : Alongside T H scope other properties d e)
    (hencoding : "encoding" ∈ properties) :
    T FileEncoding Eq (Resolver.encodingOf scope d) (Resolver.encodingOf other e) := by
  unfold Resolver.encodingOf
  refine h.bind (h.upward? hde hencoding) fun a b hab => ?_
  cases hab with
  | none => exact h.pure rfl
  | some hab =>
      refine h.bind (h.requireString hab _ _) ?_
      rintro raw _ rfl
      cases FileEncoding.ofText? raw with
      | some encoding => exact h.pure rfl
      | none => exact h.throw (by simp)

theorem directory (h : Discreet options C H T) (hde : Alongside T H scope other properties d e)
    (hdirectory : "directory" ∈ properties) :
    T Artifact (Artifact.Related H) ((Resolver.directory options).resolve scope d)
      ((Resolver.directory options).resolve other e) := by
  simp only [Resolver.directory, hde.has hdirectory]
  split
  · exact hde.blame (.missingProperty _)
  · refine h.bind (h.upward hde hdirectory) fun a b hab => ?_
    refine h.bind (h.requireString hab _ _) ?_
    rintro name _ rfl
    split
    · exact hde.blame (.missingProperty _)
    · rw [hde.path]
      refine h.bind (h.confine _) ?_
      rintro base _ ⟨rfl, hbase⟩
      exact h.bind (h.serve hbase) fun first second hsame => h.pure (.handler hsame)

/-- What two definitions have for `inline` need only be the same data. -/
theorem inline (h : Discreet options C H T) (hde : Alongside T H scope other properties d e)
    (hdata : (d.get? "inline").map Value.toData = (e.get? "inline").map Value.toData) :
    T Artifact (Artifact.Related H) (Resolver.inline.resolve scope d)
      (Resolver.inline.resolve other e) := by
  simp only [Resolver.inline]
  generalize d.get? "inline" = own at hdata ⊢
  generalize e.get? "inline" = its at hdata ⊢
  cases own with
  | none =>
      obtain rfl := Option.map_eq_none_iff.mp hdata.symm
      exact hde.blame (.missingProperty _)
  | some x =>
      obtain ⟨y, rfl, hxy⟩ := Option.map_eq_some_iff.mp hdata.symm
      dsimp only
      rw [hxy]
      exact h.pure (.data _)

end Scopes

section Visitors

variable {v w : Visitor} {ask answer : Visitor.Ask}

/-- Definitions with the same telltales are resolved alike by two visitors if their resolver
resolves them alike. -/
theorem route (_ : Discreet options C H T) (hv : v.registry = .standard options)
    (hw : w.registry = .standard options) {properties : List String} {d e : Definition}
    (hde : Alongside T H (v.scope ask) (w.scope answer) properties d e)
    (htelltales : ∀ telltale ∈ (Registry.standard options).telltales,
      d.has telltale = e.has telltale)
    (hresolve : ∀ resolver ∈ (Registry.standard options).resolvers,
      (Registry.standard options).lookup d = .ok resolver →
        T Artifact (Artifact.Related H) (resolver.resolve (v.scope ask) d)
          (resolver.resolve (w.scope answer) e)) :
    T Artifact (Artifact.Related H) (Visitor.route ask v d) (Visitor.route answer w e) := by
  unfold Visitor.route
  rw [hv, hw]
  rcases (Registry.standard options).lookup_cases d with
    ⟨resolver, hbuiltin, hlookup⟩ | ⟨f, hf, hlookup⟩
  · have hown := hlookup d fun _ _ => rfl
    rw [hown, hlookup e htelltales]
    exact hresolve resolver hbuiltin hown
  · rw [hlookup d fun _ _ => rfl, hlookup e htelltales]
    exact hde.blame hf

/-- A name that is not refused is followed alike if its value is resolved alike. -/
theorem follow (h : Discreet options C H T) (hkin : v.Kin options w) {name : String}
    (hv : (v.guarded && v.chain.contains name) = false)
    (hw : (w.guarded && w.chain.contains name) = false)
    (hvalue : ∀ y, v.document.root.get? name = some y →
      T Artifact (Artifact.Related H) (ask { v with chain := v.chain ++ [name] } y)
        (answer { w with chain := w.chain ++ [name] } y)) :
    T Artifact (Artifact.Related H) (Visitor.follow ask v name)
      (Visitor.follow answer w name) := by
  cases hget : v.document.root.get? name with
  | some y =>
      rw [Visitor.follow_of_get? hv hget, Visitor.follow_of_get? hw (hkin.document ▸ hget)]
      exact hvalue y hget
  | none =>
      rw [Visitor.follow_of_get?_eq_none hv hget,
        Visitor.follow_of_get?_eq_none hw (hkin.document ▸ hget), hkin.document]
      exact h.throw (by simp)

theorem followRoot (h : Discreet options C H T) (hkin : v.Kin options w) {name : String}
    (hfollow : T Artifact (Artifact.Related H) (Visitor.follow ask v name)
      (Visitor.follow answer w name)) :
    T Artifact (Artifact.Related H) (Visitor.followRoot ask v name)
      (Visitor.followRoot answer w name) := by
  unfold Visitor.followRoot
  rw [← hkin.document]
  split
  · exact hfollow
  · exact h.throw (by simp)

/-- A value is resolved alike if it is routed alike, and what it points at followed alike. -/
theorem level (h : Discreet options C H T) (hkin : v.Kin options w) {x : Value}
    (hroute : ∀ source properties, x = .nested source properties →
      T Artifact (Artifact.Related H) (Visitor.route ask v ⟨source, properties⟩)
        (Visitor.route answer w ⟨source, properties⟩))
    (hfollow : ∀ name, x = .reference (.property name) →
      T Artifact (Artifact.Related H) (Visitor.follow ask v name)
        (Visitor.follow answer w name)) :
    T Artifact (Artifact.Related H) (Visitor.level ask v x) (Visitor.level answer w x) := by
  unfold Visitor.level
  cases x with
  | literal data => exact h.pure (.data data)
  | nested source properties => exact hroute source properties rfl
  | reference target =>
      cases target with
      | property name =>
          dsimp only
          rw [← hkin.document]
          split
          · exact hfollow name rfl
          · exact h.throw (by simp)
      | env name =>
          dsimp only
          rw [← hkin.environment]
          cases v.environment.get? name with
          | some text => exact h.pure (.data _)
          | none => exact h.throw (by simp)

end Visitors

end Discreet

namespace Respectful

variable {options : ResolverOptions} {C : Path → Prop} {H : Handler → Handler → Prop}
  {T : (α : Type) → (α → α → Prop) → Resolving α → Resolving α → Prop}

section Scopes

variable {scope other : Scope} {properties : List String} {d e : Definition}

theorem file (h : Respectful options C H T) (hde : Alongside T H scope other properties d e)
    (hfile : "file" ∈ properties) (hencoding : "encoding" ∈ properties) :
    T Artifact (Artifact.Related H) ((Resolver.file options).resolve scope d)
      ((Resolver.file options).resolve other e) := by
  simp only [Resolver.file, hde.has hfile]
  split
  · exact hde.blame (.missingProperty _)
  · refine h.bind (h.discreet.upward hde hfile) fun a b hab => ?_
    refine h.bind (h.discreet.requireString hab _ _) ?_
    rintro name _ rfl
    refine h.bind (h.discreet.encodingOf hde hencoding) ?_
    rintro encoding _ rfl
    rw [hde.path]
    refine h.bind (h.confine _) ?_
    rintro path _ ⟨rfl, hpath⟩
    refine h.bind (h.read hpath) ?_
    rintro content _ rfl
    cases encoding.decode content with
    | ok text => exact h.pure (.data _)
    | error e => exact h.throw (by simp)

/-- Definitions are resolved alike by a built-in resolver if their properties are. -/
theorem builtin (h : Respectful options C H T) (hde : Parallel T H scope other d e)
    {resolver : Resolver} (hbuiltin : resolver ∈ (Registry.standard options).resolvers) :
    T Artifact (Artifact.Related H) (resolver.resolve scope d) (resolver.resolve other e) := by
  simp only [Registry.standard, Registry.builtin, List.mem_cons, List.not_mem_nil,
    or_false] at hbuiltin
  rcases hbuiltin with rfl | rfl | rfl
  · exact h.discreet.directory (hde.alongside ["directory"]) (by simp)
  · exact h.file (hde.alongside ["file", "encoding"]) (by simp) (by simp)
  · exact h.discreet.inline (hde.alongside []) (by rw [hde.data])

end Scopes

section Visitors

variable {v w : Visitor} {ask answer : Visitor.Ask}

/-- Definitions are resolved alike by two visitors if their properties are. -/
theorem route (h : Respectful options C H T) (hv : v.registry = .standard options)
    (hw : w.registry = .standard options) {d e : Definition}
    (hde : Parallel T H (v.scope ask) (w.scope answer) d e) :
    T Artifact (Artifact.Related H) (Visitor.route ask v d) (Visitor.route answer w e) :=
  h.discreet.route hv hw (hde.alongside []) (fun _ => (hde.alongside _).has)
    fun _ hbuiltin _ => h.builtin hde hbuiltin

/-- A value is resolved alike if what it is made of is, and what it points at is followed
alike. -/
theorem level (h : Respectful options C H T) (hkin : v.Kin options w) {x : Value}
    (hvalue : ∀ source properties, x = .nested source properties → ∀ property y,
      properties.lookup property = some y →
        T Artifact (Artifact.Related H) (ask v y) (answer w y))
    (hfollow : ∀ name, x = .reference (.property name) →
      T Artifact (Artifact.Related H) (Visitor.follow ask v name)
        (Visitor.follow answer w name)) :
    T Artifact (Artifact.Related H) (Visitor.level ask v x) (Visitor.level answer w x) := by
  apply h.discreet.level hkin
  · intro source properties hx
    exact h.route hkin.own hkin.other
      (h.discreet.parallel hkin.document (hvalue source properties hx))
  · exact hfollow

end Visitors

section OneVisitor

variable {v : Visitor}

theorem followOwn (h : Respectful options C H T)
    (hcircular : ∀ chain, T Artifact (Artifact.Related H) (throw (.circular chain))
      (throw (.circular chain)))
    (hv : v.registry = .standard options) {ask : Visitor.Ask}
    (hask : ∀ (w : Visitor) (y : Value), w.registry = .standard options →
      T Artifact (Artifact.Related H) (ask w y) (ask w y)) (name : String) :
    T Artifact (Artifact.Related H) (Visitor.follow ask v name) (Visitor.follow ask v name) := by
  cases hseen : v.guarded && v.chain.contains name with
  | true =>
      rw [Visitor.follow_of_contains hseen]
      exact hcircular _
  | false => exact h.discreet.follow (.refl hv) hseen hseen fun y _ => hask _ y hv

/-- What holds of a refused name and of a value too deep holds of every value: by induction on
the levels. -/
theorem valueWithin (h : Respectful options C H T)
    (hcircular : ∀ chain, T Artifact (Artifact.Related H) (throw (.circular chain))
      (throw (.circular chain)))
    (hexhausted : T Artifact (Artifact.Related H) Resolving.exhausted Resolving.exhausted)
    (hv : v.registry = .standard options) (levels : Nat) (x : Value) :
    T Artifact (Artifact.Related H) (Visitor.valueWithin levels v x)
      (Visitor.valueWithin levels v x) := by
  induction levels generalizing v x with
  | zero => exact hexhausted
  | succ levels ih =>
      exact h.level (.refl hv) (fun _ _ _ _ y _ => ih hv y) fun name _ =>
        h.followOwn hcircular hv (fun w y hw => ih hw y) name

theorem followRootWithin (h : Respectful options C H T)
    (hcircular : ∀ chain, T Artifact (Artifact.Related H) (throw (.circular chain))
      (throw (.circular chain)))
    (hexhausted : T Artifact (Artifact.Related H) Resolving.exhausted Resolving.exhausted)
    (hv : v.registry = .standard options) (levels : Nat) (name : String) :
    T Artifact (Artifact.Related H) (Visitor.followRoot (Visitor.valueWithin levels) v name)
      (Visitor.followRoot (Visitor.valueWithin levels) v name) :=
  h.discreet.followRoot (.refl hv) (h.followOwn hcircular hv
    (fun _ y hw => h.valueWithin hcircular hexhausted hw levels y) name)

end OneVisitor

end Respectful

end Signpost
