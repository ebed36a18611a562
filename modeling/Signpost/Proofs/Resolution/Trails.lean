import Mathlib.Data.List.Chain
import Signpost.Proofs.Resolution.Nesting

/-!
Cycles that are reported.  The names in the chain of a visitor are a trail: the value of each
refers to the next, and the value that the visitor has come to stands in that of the last.  A
name that is refused closes the trail; so a reported cycle is one of the document.
-/

namespace Signpost

/-! ### References between root properties -/

/-- A value is another one or stands in it, and not in data that is given in place. -/
inductive Value.Holds (x : Value) : Value → Prop where
  | self : Holds x x
  | part {source : Path} {properties : List (String × Value)} {name : String} {y : Value}
      (h : Holds x (.nested source properties)) (hname : name ≠ "inline")
      (hget : properties.lookup name = some y) : Holds x y

namespace Document

/-- In the value of one root property there is a reference to another one. -/
def RefersTo (document : Document) (name other : String) : Prop :=
  ∃ x, document.root.get? name = some x ∧ x.Holds (.reference (.property other))

/-- Different root properties, each of which refers to the next, and the last to one of them,
which is named again. -/
structure Cycle (document : Document) (names : List String) : Prop where
  known : ∀ name ∈ names, document.root.has name = true
  unique : names.dropLast.Nodup
  closed : ∃ name ∈ names.dropLast, names.getLast? = some name
  linked : names.IsChain document.RefersTo

end Document

/-! ### Resolutions that report cycles -/

namespace Resolving

/-- Whatever a resolution is run on, the cycles that it reports are as `P` has them, and its
results as `R` has them. -/
def Reports (P : List String → Prop) (α : Type) (R : α → α → Prop) (p _ : Resolving α) : Prop :=
  ∀ disk s result, (p.run disk s).1 = some result →
    (∀ names, result = .error (.circular names) → P names) ∧
      ∀ a, result = .ok a → ∃ b, R a b

variable {P : List String → Prop} {α : Type} {R : α → α → Prop}

theorem Reports.failed {e : ResolveError} (he : ∀ names, e = .circular names → P names)
    (other : Resolving α) : Reports P α R (throw e) other := by
  intro disk s result hrun
  obtain rfl : Except.error e = result := Option.some.inj hrun
  exact ⟨fun names hnames => he names (Except.error.inj hnames), fun a ha => by cases ha⟩

theorem Reports.found {a b : α} (hab : R a b) (other : Resolving α) :
    Reports P α R (pure a) other := by
  intro disk s result hrun
  obtain rfl : Except.ok a = result := Option.some.inj hrun
  exact ⟨fun names hnames => (by cases hnames), fun c hc => ⟨b, Except.ok.inj hc ▸ hab⟩⟩

theorem Reports.bind {β : Type} {S : β → β → Prop} {p q : Resolving α} {f g : α → Resolving β}
    (h : Reports P α R p q) (hf : ∀ a b, R a b → Reports P β S (f a) (g b)) :
    Reports P β S (p >>= f) (q >>= g) := by
  intro disk s result hrun
  have hp := h disk s
  change (Plan.run disk s (Plan.bind (ExceptT.run p) (ExceptT.bindCont f))).1 = _ at hrun
  rw [Plan.run_bind] at hrun
  change ∀ result, (Plan.run disk s (ExceptT.run p)).1 = some result → _ at hp
  generalize Plan.run disk s (ExceptT.run p) = run at hp hrun
  obtain ⟨_ | first, next⟩ := run
  · cases hrun
  · obtain ⟨hreport, hresult⟩ := hp first rfl
    cases first with
    | ok a =>
        obtain ⟨b, hab⟩ := hresult a rfl
        exact hf a b hab disk next result hrun
    | error e =>
        refine Reports.failed (R := S) ?_ (throw e) disk next result hrun
        rintro names rfl
        exact hreport names rfl

theorem respectful_reports (options : ResolverOptions) (P : List String → Prop) :
    Respectful options (fun _ => True) Eq (Reports P) where
  pure hab := .found hab _
  throw he := .failed (fun names hnames => absurd hnames (he names)) _
  bind hp hf := hp.bind hf
  confine path := by
    intro disk s
    change ∀ result, (Plan.run disk s (.confine options.rootPath path _)).1 = _ → _
    rw [Plan.run]
    cases disk.confine options.rootPath path with
    | ok p => exact Reports.found ⟨rfl, trivial⟩ (pure p) disk s
    | error e =>
        exact Reports.failed (fun names hnames => by cases hnames) (throw (.escape e)) disk s
  read {path} _ := by
    intro disk s
    change ∀ result, (Plan.run disk s (.read path _)).1 = _ → _
    rw [Plan.run]
    cases disk.read path with
    | ok content => exact Reports.found rfl (pure content) disk s
    | error e => exact Reports.failed (fun names hnames => by cases hnames) (throw (.io e)) disk s
  serve {base} _ := fun disk s =>
    Reports.found rfl (pure (s.server base options.mode.maxAge).1) disk
      (s.server base options.mode.maxAge).2

end Resolving

/-! ### The trail of a visitor -/

namespace Visitor

variable {options : ResolverOptions} {v : Visitor} {x : Value} {name : String}

/-- How a visitor has come to a value: the names in its chain are in order, each refers to the
next, and the value of the last holds this one. -/
structure Trail (v : Visitor) (x : Value) : Prop where
  inOrder : v.InOrder
  linked : v.chain.IsChain v.document.RefersTo
  holds : ∀ last ∈ v.chain.getLast?, ∃ y, v.document.root.get? last = some y ∧ y.Holds x

/-- Before a name is followed nothing is asked of a value. -/
theorem trail_start (registry : Registry) (document : Document) (environment : Environment)
    (x : Value) : (start registry document environment).Trail x where
  inOrder := inOrder_start registry document environment
  linked := .nil
  holds last hlast := by cases hlast

theorem Trail.part {source : Path} {properties : List (String × Value)} {y : Value}
    (h : v.Trail (.nested source properties)) (hname : name ≠ "inline")
    (hget : properties.lookup name = some y) : v.Trail y where
  inOrder := h.inOrder
  linked := h.linked
  holds last hlast := by
    obtain ⟨z, hz, hholds⟩ := h.holds last hlast
    exact ⟨z, hz, hholds.part hname hget⟩

theorem Trail.linked_concat (h : v.Trail (.reference (.property name))) :
    (v.chain ++ [name]).IsChain v.document.RefersTo := by
  refine List.isChain_append.mpr ⟨h.linked, .singleton name, ?_⟩
  intro last hlast first hfirst
  obtain rfl : name = first := Option.some.inj hfirst
  exact h.holds last hlast

/-- A name that is followed goes on with the trail. -/
theorem Trail.follow (h : v.Trail (.reference (.property name)))
    (hnew : v.chain.contains name = false) {y : Value}
    (hget : v.document.root.get? name = some y) :
    ({ v with chain := v.chain ++ [name] } : Visitor).Trail y where
  inOrder := h.inOrder.extend hnew (by rw [Definition.has, hget, Option.isSome_some])
  linked := h.linked_concat
  holds last hlast := by
    obtain rfl : name = last := by simpa using hlast
    exact ⟨y, hget, .self⟩

/-- A name that is refused closes it. -/
theorem Trail.cycle (h : v.Trail (.reference (.property name)))
    (hseen : v.chain.contains name = true) : v.document.Cycle (v.chain ++ [name]) := by
  have hmem : name ∈ v.chain := by simpa using hseen
  refine ⟨?_, ?_, ⟨name, ?_, ?_⟩, h.linked_concat⟩
  · intro other hother
    rcases List.mem_append.mp hother with hother | hother
    · exact h.inOrder.known other hother
    · rw [List.mem_singleton.mp hother]
      exact h.inOrder.known name hmem
  · simpa using h.inOrder.unique
  · simpa using hmem
  · simp

/-! ### What a visitor reports -/

/-- A resolution of an artifact that reports only cycles of the document, whose names begin in
this way. -/
abbrev Reports (v : Visitor) (front : List String) (p : Resolving Artifact) : Prop :=
  Resolving.Reports (fun names => v.document.Cycle names ∧ front <+: names) Artifact
    (Artifact.Related Eq) p p

variable {front : List String} {ask : Ask}

theorem reports_follow_of (hv : v.registry = .standard options) (hguarded : v.guarded = true)
    (hfront : front <+: v.chain ++ [name]) (h : v.Trail (.reference (.property name)))
    (hask : ∀ y, ({ v with chain := v.chain ++ [name] } : Visitor).Trail y →
      v.Reports front (ask { v with chain := v.chain ++ [name] } y)) :
    v.Reports front (follow ask v name) := by
  cases hseen : v.guarded && v.chain.contains name with
  | true =>
      rw [follow_of_contains hseen]
      have hcycle := h.cycle (by simpa [hguarded] using hseen)
      refine .failed ?_ _
      rintro names ⟨⟩
      exact ⟨hcycle, hfront⟩
  | false =>
      have hnew : v.chain.contains name = false := by simpa [hguarded] using hseen
      exact (Resolving.respectful_reports options _).discreet.follow (.refl hv) hseen hseen
        fun y hget => hask y (h.follow hnew hget)

/-- A definition is resolved by way of the values of its properties, but for `inline`. -/
theorem reports_route (hv : v.registry = .standard options) {d : Definition}
    (hask : ∀ property y, property ≠ "inline" → d.get? property = some y →
      v.Reports front (ask v y)) : v.Reports front (route ask v d) := by
  let P (names : List String) : Prop := v.document.Cycle names ∧ front <+: names
  have hreports := Resolving.respectful_reports options P
  have hown : Alongside (Resolving.Reports P) Eq (v.scope ask) (v.scope ask)
      ["directory", "file", "encoding"] d d := by
    apply hreports.discreet.alongside rfl
    intro property hproperty y hget
    refine hask property y ?_ hget
    rintro rfl
    exact absurd hproperty (by decide)
  apply hreports.discreet.route hv hv hown (fun _ _ => rfl)
  intro resolver hbuiltin _
  simp only [Registry.standard, Registry.builtin, List.mem_cons, List.not_mem_nil,
    or_false] at hbuiltin
  rcases hbuiltin with rfl | rfl | rfl
  · exact hreports.discreet.directory hown (by simp)
  · exact hreports.file hown (by simp) (by simp)
  · exact hreports.discreet.inline hown rfl

/-- By induction on the levels, the trail being kept from one to the next. -/
theorem reports_valueWithin (hv : v.registry = .standard options) (hguarded : v.guarded = true)
    (levels : Nat) (hfront : front <+: v.chain) (h : v.Trail x) :
    v.Reports front (valueWithin levels v x) := by
  induction levels generalizing v x with
  | zero =>
      intro disk s result hrun
      cases hrun
  | succ levels ih =>
      apply (Resolving.respectful_reports options _).discreet.level (.refl hv)
      · rintro source properties rfl
        exact reports_route hv fun property y hproperty hget =>
          ih hv hguarded hfront (h.part hproperty hget)
      · rintro name rfl
        have hnext : front <+: v.chain ++ [name] := hfront.trans (List.prefix_append _ _)
        exact reports_follow_of hv hguarded hnext h fun y hy =>
          ih (v := { v with chain := v.chain ++ [name] }) hv hguarded hnext hy

theorem reports_upwardRoot (options : ResolverOptions) (document : Document)
    (environment : Environment) (name : String) :
    let v := start (.standard options) document environment
    v.Reports [name] (v.upwardRoot name) := by
  intro v
  apply (Resolving.respectful_reports options _).discreet.followRoot (.refl rfl)
  refine reports_follow_of rfl rfl (List.prefix_refl [name]) (trail_start _ _ _ _) ?_
  intro y hy
  exact reports_valueWithin (v := { v with chain := [name] }) rfl rfl _ (List.prefix_refl _) hy

/-- Whatever a visitor is asked for, and whatever other resolutions have left: if it reports a
cycle, the names are those of a cycle of references in the document, and the cycle that is
reported of a root property begins with that one. -/
theorem reported_cycle (options : ResolverOptions) (document : Document)
    (environment : Environment) (inquiry : Inquiry) {disk : Disk} {s : Shared}
    {names : List String}
    (h : (((start (.standard options) document environment).inquire inquiry).run disk s).1 =
      some (.error (.circular names))) :
    document.Cycle names ∧ ∀ name, inquiry = .root name → names.head? = some name := by
  have hreports := Resolving.respectful_reports options
  constructor
  · have hinquire := (hreports fun names => document.Cycle names ∧ [] <+: names).inquire rfl
      (fun name => ?_) (fun d property y _ => reports_valueWithin rfl rfl _ List.nil_prefix
        (trail_start _ document environment y)) inquiry
    · exact ((hinquire disk s _ h).1 names rfl).1
    · intro disk s result hrun
      obtain ⟨hnames, hresult⟩ :=
        reports_upwardRoot options document environment name disk s result hrun
      exact ⟨fun names hcircular => ⟨(hnames names hcircular).1, List.nil_prefix⟩, hresult⟩
  · rintro name rfl
    have hroot :=
      (hreports _).discreet.mapSome (reports_upwardRoot options document environment name)
    obtain ⟨-, rest, rfl⟩ := (hroot disk s _ h).1 names rfl
    rfl

/-- A document in which the directory `a` leads into a cycle of `b` and `c`, past an `inline` that
refers to `a`. -/
def loopSite : Document :=
  ⟨⟨"/d"⟩, ⟨⟨"/d"⟩, [
    ("a", .nested ⟨"/d"⟩ [("directory", .reference (.property "b"))]),
    ("b", .nested ⟨"/d"⟩ [
      ("encoding", .reference (.property "c")),
      ("file", .nested ⟨"/d"⟩ [("inline", .reference (.property "a"))])]),
    ("c", .reference (.property "b"))]⟩⟩

theorem reported_cycle_loopSite :
    (((start (.standard ⟨.production, none⟩) loopSite ⟨[]⟩).inquire (.root "a")).run
        (.empty []) .start).1 = some (.error (.circular ["a", "b", "c", "b"])) ∧
      loopSite.Cycle ["a", "b", "c", "b"] ∧ ["a", "b", "c", "b"].head? = some "a" := by
  have hrun : (((start (.standard ⟨.production, none⟩) loopSite ⟨[]⟩).inquire (.root "a")).run
      (.empty []) .start).1 = some (.error (.circular ["a", "b", "c", "b"])) := rfl
  obtain ⟨hcycle, hhead⟩ := reported_cycle ⟨.production, none⟩ loopSite ⟨[]⟩ (.root "a") hrun
  exact ⟨hrun, hcycle, hhead "a" rfl⟩

end Visitor

end Signpost
