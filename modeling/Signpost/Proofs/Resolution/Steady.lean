import Mathlib.Logic.Relation
import Signpost.Proofs.Resolution.Outcome

/-!
Resolutions that do not look at the disk.  Without a root to stay within every path is let
through, and where no file is read nothing else is asked of the disk; so such a resolution
comes to the same again whenever it is run, as long as the handlers it was given are kept.
-/

namespace Signpost

/-! ### The handlers kept -/

namespace Shared

/-- Nobody waits for a handler, and every handler of `s` is there still. -/
structure Recalls (later s : Shared) : Prop where
  settled : later.servers.Settled
  kept : ∀ key handler, s.servers.get? key = some handler → later.servers.get? key = some handler

variable {s later last : Shared}

theorem Recalls.refl (hs : s.servers.Settled) : s.Recalls s :=
  ⟨hs, fun _ _ hget => hget⟩

theorem Recalls.trans (hlast : last.Recalls later) (hlater : later.Recalls s) : last.Recalls s :=
  ⟨hlast.settled, fun key handler hget => hlast.kept key handler (hlater.kept key handler hget)⟩

theorem recalls_server (hs : s.servers.Settled) (base : Path) (maxAge : Nat) :
    (s.server base maxAge).2.Recalls s := by
  obtain ⟨-, hsettled, hown, hothers⟩ :=
    hs.obtain base.text ⟨s.nextHandler, .directory base maxAge⟩
  constructor
  · exact hsettled
  · intro key handler hget
    by_cases hkey : key = base.text
    · subst hkey
      rw [hget] at hown
      exact hown
    · exact (hothers key hkey).trans hget

/-- The handler that a directory is served by is there from then on. -/
theorem get?_server (hs : s.servers.Settled) (base : Path) (maxAge : Nat) :
    (s.server base maxAge).2.servers.get? base.text = some (s.server base maxAge).1 := by
  obtain ⟨hvalue, -, hown, -⟩ := hs.obtain base.text ⟨s.nextHandler, .directory base maxAge⟩
  exact hown.trans (congrArg some hvalue).symm

/-- A directory that has a handler is served by it. -/
theorem server_of_get? (hs : s.servers.Settled) {base : Path} {handler : Handler}
    (hget : s.servers.get? base.text = some handler) (maxAge : Nat) :
    (s.server base maxAge).1 = handler := by
  obtain ⟨hvalue, -, -, -⟩ := hs.obtain base.text ⟨s.nextHandler, .directory base maxAge⟩
  rw [hget] at hvalue
  exact hvalue

end Shared

/-! ### Plans -/

namespace Plan

variable {α β : Type} {Q : α → Prop}

theorem recalls_run (p : Plan α) (disk : Disk) {s : Shared} (hs : s.servers.Settled) :
    (p.run disk s).2.Recalls s := by
  induction p generalizing s with
  | done => exact .refl hs
  | confine root path next ih => exact ih _ hs
  | read path next ih => exact ih _ hs
  | serve base maxAge next ih =>
      have hserved := Shared.recalls_server hs base maxAge
      exact (ih _ hserved.settled).trans hserved
  | make conduct next ih =>
      have hmade : (s.handler conduct).2.Recalls s := ⟨hs, fun _ _ hget => hget⟩
      exact (ih _ hmade.settled).trans hmade
  | exhausted => exact .refl hs

/-- A plan that asks nothing about the disk but for paths that need not stay within a root, and
comes to a result in `Q` if it ends. -/
inductive Steady (Q : α → Prop) : Plan α → Prop where
  | done {a : α} (h : Q a) : Steady Q (.done a)
  | confine {path : Path} {next : Except Escape Path → Plan α}
      (h : Steady Q (next (.ok path.normalize))) : Steady Q (.confine none path next)
  | serve {base : Path} {maxAge : Nat} {next : Handler → Plan α}
      (h : ∀ handler, Steady Q (next handler)) : Steady Q (.serve base maxAge next)
  | exhausted : Steady Q .exhausted

theorem Steady.bind {S : β → Prop} {p : Plan α} {f : α → Plan β} (h : p.Steady Q)
    (hf : ∀ a, Q a → (f a).Steady S) : (p.bind f).Steady S := by
  induction h with
  | done ha => exact hf _ ha
  | confine _ ih => exact .confine ih
  | serve _ ih => exact .serve ih
  | exhausted => exact .exhausted

/-- Run again on any disk, where the handlers are kept that the first run has left, a plan ends
as it has ended. -/
theorem Steady.run_again {p : Plan α} (h : p.Steady Q) (disk now : Disk) {s later : Shared}
    (hs : s.servers.Settled) (hlater : later.Recalls (p.run disk s).2) :
    (p.run now later).1 = (p.run disk s).1 := by
  induction h generalizing s later with
  | done => rfl
  | confine _ ih => exact ih hs hlater
  | @serve base maxAge next _ ih =>
      have hserved := Shared.recalls_server hs base maxAge
      have hrest := (next (s.server base maxAge).1).recalls_run disk hserved.settled
      have hget := Shared.get?_server hs base maxAge
      have hsame : (later.server base maxAge).1 = (s.server base maxAge).1 :=
        Shared.server_of_get? hlater.settled ((hlater.trans hrest).kept _ _ hget) maxAge
      have hagain := Shared.recalls_server hlater.settled base maxAge
      change ((next (later.server base maxAge).1).run now _).1 = _
      rw [hsame]
      exact ih _ hserved.settled (hagain.trans hlater)
  | exhausted => rfl

end Plan

/-! ### Resolutions -/

namespace Resolving

/-- A resolution that does not look at the disk, and if it does not fail comes to a result as `R`
has them. -/
def Steady (α : Type) (R : α → α → Prop) (p _ : Resolving α) : Prop :=
  Plan.Steady (fun result => ∀ a, result = .ok a → ∃ b, R a b) (ExceptT.run p)

variable {α : Type} {R : α → α → Prop}

theorem Steady.failed (e : ResolveError) (other : Resolving α) : Steady α R (throw e) other :=
  .done fun _ hfound => by cases hfound

theorem discreet_steady {options : ResolverOptions} (hroot : options.rootPath = none) :
    Discreet options (fun _ => True) Eq Steady where
  pure {α R a b} hab := by
    refine .done fun found hfound => ⟨b, ?_⟩
    cases hfound
    exact hab
  throw _ := Steady.failed _ _
  bind hp hf := by
    refine Plan.Steady.bind hp ?_
    intro result hresult
    cases result with
    | ok a =>
        obtain ⟨b, hab⟩ := hresult a rfl
        exact hf a b hab
    | error e => exact Steady.failed e (throw e)
  confine path := by
    rw [hroot]
    exact .confine (.done fun found _ => ⟨found, rfl, trivial⟩)
  serve _ := .serve fun handler => .done fun found _ => ⟨found, rfl⟩

end Resolving

/-! ### Documents -/

namespace Document

/-- One value leads to another: a reference to what it points at in the root, and a definition to
what it is made of, but for data that is not resolved. -/
inductive LeadsTo (document : Document) : Value → Value → Prop where
  | followed {name : String} {x : Value} (h : document.root.get? name = some x) :
      LeadsTo document (.reference (.property name)) x
  | part {source : Path} {properties : List (String × Value)} {name : String} {x : Value}
      (hname : name ≠ "inline") (h : properties.lookup name = some x) :
      LeadsTo document (.nested source properties) x

/-- A value can be reached from another one. -/
def Reaches (document : Document) : Value → Value → Prop :=
  Relation.ReflTransGen document.LeadsTo

/-- No definition that can be reached from a value is one of a file. -/
def FileFree (document : Document) (x : Value) : Prop :=
  ∀ source properties, document.Reaches x (.nested source properties) →
    Definition.telltales ⟨source, properties⟩ ≠ ["file"]

theorem FileFree.of_leadsTo {document : Document} {x y : Value} (h : document.FileFree x)
    (hxy : document.LeadsTo x y) : document.FileFree y :=
  fun source properties hreaches => h source properties (.head hxy hreaches)

theorem FileFree.intro {document : Document} {x : Value}
    (hx : ∀ source properties, x = .nested source properties →
      Definition.telltales ⟨source, properties⟩ ≠ ["file"])
    (hnext : ∀ y, document.LeadsTo x y → document.FileFree y) : document.FileFree x := by
  intro source properties hreaches
  rcases Relation.ReflTransGen.cases_head hreaches with hself | ⟨y, hxy, hreaches⟩
  · exact hx source properties hself
  · exact hnext y hxy source properties hreaches

end Document

namespace Visitor

variable {options : ResolverOptions} {v : Visitor}

/-- A resolution of an artifact that does not look at the disk. -/
abbrev Steady (p : Resolving Artifact) : Prop :=
  Resolving.Steady Artifact (Artifact.Related Eq) p p

theorem steady_follow_of (hroot : options.rootPath = none) (hv : v.registry = .standard options)
    {ask : Ask} {name : String}
    (hask : ∀ x, v.document.root.get? name = some x →
      Steady (ask { v with chain := v.chain ++ [name] } x)) :
    Steady (follow ask v name) := by
  cases hseen : v.guarded && v.chain.contains name with
  | true =>
      rw [follow_of_contains hseen]
      exact .failed _ _
  | false => exact (Resolving.discreet_steady hroot).follow (.refl hv) hseen hseen hask

/-- A definition is resolved without a look at the disk if it is not one of a file, and neither
are those that it is made of. -/
theorem steady_route (hroot : options.rootPath = none) (hv : v.registry = .standard options)
    {ask : Ask} {d : Definition} (hd : d.telltales ≠ ["file"])
    (hask : ∀ property x, property ≠ "inline" → d.get? property = some x → Steady (ask v x)) :
    Steady (route ask v d) := by
  have hsteady := Resolving.discreet_steady hroot
  have hown : Alongside Resolving.Steady Eq (v.scope ask) (v.scope ask) ["directory"] d d := by
    apply hsteady.alongside rfl
    intro property hproperty x hget
    obtain rfl := List.mem_singleton.mp hproperty
    exact hask "directory" x (by decide) hget
  apply hsteady.route hv hv hown (fun _ _ => rfl)
  intro resolver hbuiltin hlookup
  have htelltales := Registry.telltales_of_lookup hlookup
  simp only [Registry.standard, Registry.builtin, List.mem_cons, List.not_mem_nil,
    or_false] at hbuiltin
  rcases hbuiltin with rfl | rfl | rfl
  · exact hsteady.directory hown List.mem_cons_self
  · exact absurd htelltales hd
  · exact hsteady.inline hown rfl

/-- A value from which no definition of a file can be reached is resolved without a look at the
disk: by induction on the levels. -/
theorem steady_valueWithin (hroot : options.rootPath = none) (hv : v.registry = .standard options)
    (levels : Nat) {x : Value} (hfree : v.document.FileFree x) :
    Steady (valueWithin levels v x) := by
  induction levels generalizing v x with
  | zero => exact .exhausted
  | succ levels ih =>
      apply (Resolving.discreet_steady hroot).level (.refl hv)
      · rintro source properties rfl
        apply steady_route hroot hv (hfree source properties .refl)
        intro property y hproperty hget
        exact ih hv (hfree.of_leadsTo (.part hproperty hget))
      · rintro name rfl
        apply steady_follow_of hroot hv
        intro y hget
        have hfollowed : ({ v with chain := v.chain ++ [name] } : Visitor).registry =
            .standard options := hv
        exact ih hfollowed (hfree.of_leadsTo (.followed hget))

theorem steady_upwardRoot (hroot : options.rootPath = none) (hv : v.registry = .standard options)
    {name : String} (hfree : v.document.FileFree (.reference (.property name))) :
    Steady (v.upwardRoot name) := by
  apply (Resolving.discreet_steady hroot).followRoot (.refl hv)
  apply steady_follow_of hroot hv
  intro x hget
  have hfollowed : ({ v with chain := v.chain ++ [name] } : Visitor).registry =
      .standard options := hv
  exact steady_valueWithin hroot hfollowed _ (hfree.of_leadsTo (.followed hget))

end Visitor

namespace Service

variable {options : ResolverOptions} {s : Service}

theorem steady_handlerPlan (hroot : options.rootPath = none)
    (hs : s.registry = .standard options) {property : String}
    (hfree : s.document.FileFree (.reference (.property property))) :
    Resolving.Steady Handler Eq (s.handlerPlan property) (s.handlerPlan property) := by
  have hsteady := Resolving.discreet_steady hroot
  have hv : s.visitor.registry = .standard options := hs
  apply hsteady.bind (Visitor.steady_upwardRoot hroot hv hfree)
  intro a b hab
  cases hab with
  | data value => exact .failed _ _
  | handler hsame => exact hsteady.pure hsame

end Service

end Signpost
