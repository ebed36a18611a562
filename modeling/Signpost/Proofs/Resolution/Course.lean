import Mathlib.Logic.Relation
import Signpost.Proofs.Resolution.Cycles
import Signpost.Proofs.Resolution.Sharing

/-!
The course of a resolution.  One value or definition is resolved because another one is: a
definition because it is nested where a value is wanted, a value because it stands under a
name that is followed or under a property that a resolver asks for.  The directories that a
resolution has served are those that the directory definitions in its course come to, each
on its own, and what the whole resolution comes to does not matter.
-/

namespace Signpost

/-! ### The directories served -/

namespace Plan

variable {α β : Type}

/-- The directories that a plan has served on its way where nothing is shared. -/
def served (disk : Disk) : Plan α → List Path
  | done _ => []
  | confine root path next => (next (disk.confine root path)).served disk
  | read path next => (next (disk.read path)).served disk
  | serve base maxAge next => base :: (next ⟨0, .directory base maxAge⟩).served disk
  | make conduct next => (next ⟨0, conduct⟩).served disk
  | exhausted => []

theorem mem_served_bind {disk : Disk} {p : Plan α} {f : α → Plan β} {base : Path} :
    base ∈ (p.bind f).served disk ↔
      base ∈ p.served disk ∨ ∃ a, p.outcome disk = some a ∧ base ∈ (f a).served disk := by
  induction p with
  | done a => simp [served, outcome]
  | confine root path next ih => exact ih _
  | read path next ih => exact ih _
  | serve own maxAge next ih =>
      simp only [bind, served, outcome, List.mem_cons, ih, or_assoc]
  | make conduct next ih => exact ih _
  | exhausted => simp [served, outcome, bind]

/-- A directory is under the handlers after a run if it was so before or has been served. -/
theorem Alike.contains_run {disk : Disk} {maxAge : Nat} {R : α → α → Prop} {p q : Plan α}
    (h : Alike disk maxAge R p q) {s : Shared} (hs : s.Faithful maxAge) (key : String) :
    (p.run disk s).2.servers.contains key = true ↔
      s.servers.contains key = true ∨ ∃ base ∈ q.served disk, base.text = key := by
  induction h generalizing s with
  | done =>
      change s.servers.contains key = true ↔ _
      simp [served]
  | confine _ ih => exact ih hs
  | read _ ih => exact ih hs
  | @serve base next other _ ih =>
      obtain ⟨hconduct, hnext⟩ := hs.server base
      obtain ⟨-, -, hown, hothers⟩ :=
        hs.settled.obtain base.text ⟨s.nextHandler, .directory base maxAge⟩
      have hserver : (s.server base maxAge).2.servers.contains key = true ↔
          s.servers.contains key = true ∨ base.text = key := by
        by_cases hkey : base.text = key
        · subst hkey
          simp [Cache.contains, Shared.server, hown]
        · simp [Cache.contains, Shared.server, hothers key (Ne.symm hkey), hkey]
      have hrest := ih (s.server base maxAge).1 ⟨0, .directory base maxAge⟩ hconduct rfl hnext
      simp only [served, List.mem_cons, exists_eq_or_imp, ← or_assoc, ← hserver]
      exact hrest
  | exhausted =>
      change s.servers.contains key = true ↔ _
      simp [served]

end Plan

namespace Resolving

variable {α β : Type}

/-- The directories that a resolution has served on its way where nothing is shared. -/
def served (disk : Disk) (p : Resolving α) : List Path :=
  Plan.served disk (ExceptT.run p)

variable {disk : Disk}

theorem mem_served_bind {p : Resolving α} {f : α → Resolving β} {base : Path} :
    base ∈ (p >>= f).served disk ↔
      base ∈ p.served disk ∨ ∃ a, p.outcome disk = some (.ok a) ∧ base ∈ (f a).served disk := by
  change base ∈ Plan.served disk (Plan.bind (ExceptT.run p) (ExceptT.bindCont f)) ↔ _
  rw [Plan.mem_served_bind]
  refine or_congr_right ⟨?_, ?_⟩
  · rintro ⟨result, hresult, hbase⟩
    cases result with
    | ok a => exact ⟨a, hresult, hbase⟩
    | error e => exact absurd hbase List.not_mem_nil
  · rintro ⟨a, ha, hbase⟩
    exact ⟨.ok a, ha, hbase⟩

/-- What comes after has nothing served. -/
theorem mem_served_bind_of_nil {p : Resolving α} {f : α → Resolving β}
    (hf : ∀ a, (f a).served disk = []) {base : Path} :
    base ∈ (p >>= f).served disk ↔ base ∈ p.served disk := by
  rw [mem_served_bind, or_iff_left]
  rintro ⟨a, -, hbase⟩
  rw [hf a] at hbase
  exact List.not_mem_nil hbase

theorem served_bind_eq_nil {p : Resolving α} {f : α → Resolving β} (hp : p.served disk = [])
    (hf : ∀ a, (f a).served disk = []) : (p >>= f).served disk = [] := by
  refine List.eq_nil_iff_forall_not_mem.mpr fun base hbase => ?_
  rw [mem_served_bind_of_nil hf, hp] at hbase
  exact List.not_mem_nil hbase

@[simp]
theorem served_pure (a : α) : (pure a : Resolving α).served disk = [] := rfl

@[simp]
theorem served_throw (e : ResolveError) : (throw e : Resolving α).served disk = [] := rfl

@[simp]
theorem served_confine (root : Option Path) (path : Path) : (confine root path).served disk = [] := by
  change Plan.served disk (.confine root path _) = []
  rw [Plan.served]
  cases disk.confine root path <;> rfl

@[simp]
theorem served_read (path : Path) : (read path).served disk = [] := by
  change Plan.served disk (.read path _) = []
  rw [Plan.served]
  cases disk.read path <;> rfl

@[simp]
theorem served_serve (base : Path) (maxAge : Nat) : (serve base maxAge).served disk = [base] := rfl

theorem outcome_bind_eq_ok {p : Resolving α} {f : α → Resolving β} {b : β} :
    (p >>= f).outcome disk = some (.ok b) ↔
      ∃ a, p.outcome disk = some (.ok a) ∧ (f a).outcome disk = some (.ok b) := by
  rw [outcome_bind, Option.bind_eq_some_iff]
  refine ⟨?_, ?_⟩
  · rintro ⟨result, hresult, hnext⟩
    cases result with
    | ok a => exact ⟨a, hresult, hnext⟩
    | error e => simp [goOn] at hnext
  · rintro ⟨a, ha, hnext⟩
    exact ⟨.ok a, ha, hnext⟩

theorem mem_served_map {p : Resolving α} {f : α → β} {base : Path} :
    base ∈ (f <$> p).served disk ↔ base ∈ p.served disk := by
  rw [map_eq_pure_bind]
  exact mem_served_bind_of_nil fun _ => rfl

end Resolving

namespace Resolver

variable {disk : Disk} {options : ResolverOptions} {scope : Scope} {d : Definition} {base : Path}

theorem served_requireString (resolver property : String) (a : Artifact) :
    (requireString resolver property a).served disk = [] := by
  unfold requireString
  split <;> rfl

theorem outcome_requireString {resolver property text : String} {a : Artifact} :
    (requireString resolver property a).outcome disk = some (.ok text) ↔ a.asString? = some text := by
  unfold requireString
  cases a.asString? with
  | some own =>
      change some (Except.ok own) = some (.ok text) ↔ _
      simp
  | none =>
      change some (Except.error _) = some (.ok text) ↔ _
      simp

theorem mem_served_upward {property : String} :
    base ∈ (scope.upward d property).served disk ↔
      ∃ x, d.get? property = some x ∧ base ∈ (scope.value x).served disk := by
  unfold Scope.upward
  cases d.get? property <;> simp

theorem mem_served_upward? {property : String} :
    base ∈ (scope.upward? d property).served disk ↔
      ∃ x, d.get? property = some x ∧ base ∈ (scope.value x).served disk := by
  unfold Scope.upward?
  cases d.get? property <;> simp [Resolving.mem_served_map]

theorem outcome_upward {property : String} {a : Artifact} :
    (scope.upward d property).outcome disk = some (.ok a) ↔
      ∃ x, d.get? property = some x ∧ (scope.value x).outcome disk = some (.ok a) := by
  unfold Scope.upward
  cases d.get? property with
  | some x => simp
  | none =>
      change some (Except.error _) = some (.ok a) ↔ _
      simp

theorem mem_served_encodingOf :
    base ∈ (encodingOf scope d).served disk ↔
      ∃ x, d.get? "encoding" = some x ∧ base ∈ (scope.value x).served disk := by
  unfold encodingOf
  rw [Resolving.mem_served_bind_of_nil, mem_served_upward?]
  intro found
  cases found with
  | none => rfl
  | some a =>
      refine Resolving.served_bind_eq_nil (served_requireString _ _ a) fun raw => ?_
      cases FileEncoding.ofText? raw <;> rfl

theorem mem_served_baseOf :
    base ∈ (baseOf options scope d).served disk ↔
      ∃ x, d.get? "directory" = some x ∧ base ∈ (scope.value x).served disk := by
  simp only [baseOf]
  split
  · next hhas =>
      have hget : d.get? "directory" = none := by simpa [Definition.has] using hhas
      simp [hget]
  · rw [Resolving.mem_served_bind_of_nil, mem_served_upward]
    intro a
    refine Resolving.served_bind_eq_nil (served_requireString _ _ a) fun name => ?_
    split <;> simp

/-- A directory definition has the directories served that the resolution of its `directory` has
served, and its own. -/
theorem mem_served_directory :
    base ∈ ((directory options).resolve scope d).served disk ↔
      (∃ x, d.get? "directory" = some x ∧ base ∈ (scope.value x).served disk) ∨
        (baseOf options scope d).outcome disk = some (.ok base) := by
  rw [directory_eq, Resolving.mem_served_map, servedBase, Resolving.mem_served_bind,
    mem_served_baseOf]
  have hown (own : Path) : base ∈ (do
      let handler ← Resolving.serve own options.mode.maxAge
      return (own, handler)).served disk ↔ base = own := by
    rw [Resolving.mem_served_bind_of_nil fun _ => rfl, Resolving.served_serve, List.mem_singleton]
  simp only [hown, exists_eq_right']

/-- A file definition has the directories served that the resolution of its `file` has served and,
if that came to a text, those of its `encoding`. -/
theorem mem_served_file :
    base ∈ ((file options).resolve scope d).served disk ↔
      (∃ x, d.get? "file" = some x ∧ base ∈ (scope.value x).served disk) ∨
        ∃ x a text y, d.get? "file" = some x ∧ (scope.value x).outcome disk = some (.ok a) ∧
          a.asString? = some text ∧ d.get? "encoding" = some y ∧
            base ∈ (scope.value y).served disk := by
  simp only [file]
  split
  · next hhas =>
      have hget : d.get? "file" = none := by simpa [Definition.has] using hhas
      simp [hget]
  · rw [Resolving.mem_served_bind, mem_served_upward]
    refine or_congr_right (Iff.trans (exists_congr fun a => and_congr_right'
      (c := ∃ text y, a.asString? = some text ∧ d.get? "encoding" = some y ∧
        base ∈ (scope.value y).served disk) ?_) ?_)
    · rw [Resolving.mem_served_bind, served_requireString]
      simp only [List.not_mem_nil, false_or, outcome_requireString, exists_and_left]
      refine exists_congr fun text => and_congr_right fun _ => ?_
      rw [Resolving.mem_served_bind_of_nil, mem_served_encodingOf]
      intro encoding
      refine Resolving.served_bind_eq_nil (Resolving.served_confine _ _) fun path => ?_
      refine Resolving.served_bind_eq_nil (Resolving.served_read path) fun content => ?_
      cases encoding.decode content <;> rfl
    · simp only [outcome_upward]
      refine ⟨?_, ?_⟩
      · rintro ⟨a, ⟨x, hx, ha⟩, text, y, htext, hy, hbase⟩
        exact ⟨x, a, text, y, hx, ha, htext, hy, hbase⟩
      · rintro ⟨x, a, text, y, hx, ha, htext, hy, hbase⟩
        exact ⟨a, ⟨x, hx, ha⟩, text, y, htext, hy, hbase⟩

theorem inline_ne_directory (options : ResolverOptions) : inline ≠ directory options :=
  fun h => absurd (congrArg telltale h) (show "inline" ≠ "directory" by decide)

theorem inline_ne_file (options : ResolverOptions) : inline ≠ file options :=
  fun h => absurd (congrArg telltale h) (show "inline" ≠ "file" by decide)

theorem directory_ne_file (options : ResolverOptions) : directory options ≠ file options :=
  fun h => absurd (congrArg telltale h) (show "directory" ≠ "file" by decide)

/-- What a directory definition comes to by itself is the handler of its directory. -/
theorem outcome_directory_eq_handler :
    (∃ handler, ((directory options).resolve scope d).outcome disk = some (.ok (.handler handler)) ∧
        handler.conduct = .directory base options.mode.maxAge) ↔
      (baseOf options scope d).outcome disk = some (.ok base) := by
  have houtcome (handler : Handler) :
      ((directory options).resolve scope d).outcome disk = some (.ok (.handler handler)) ↔
        ∃ own, (baseOf options scope d).outcome disk = some (.ok own) ∧
          ⟨0, .directory own options.mode.maxAge⟩ = handler := by
    rw [directory_eq, servedBase, map_eq_pure_bind, bind_assoc, Resolving.outcome_bind_eq_ok]
    refine exists_congr fun own => and_congr_right fun _ => ?_
    change some (Except.ok (Artifact.handler _)) = some (.ok (.handler handler)) ↔ _
    simp
  refine ⟨?_, fun hbase => ⟨_, (houtcome _).mpr ⟨base, hbase, rfl⟩, rfl⟩⟩
  rintro ⟨handler, hhandler, hconduct⟩
  obtain ⟨own, hown, rfl⟩ := (houtcome handler).mp hhandler
  rw [← (Conduct.directory.inj hconduct).1]
  exact hown

end Resolver

namespace Visitor

/-! ### Levels do not matter -/

section Levels

variable {options : ResolverOptions} {v : Visitor}

theorem outcome_valueWithin (hv : v.registry = .standard options) (hguarded : v.guarded = true)
    (disk : Disk) {levels : Nat} {x : Value} (hroom : v.room x ≤ levels) :
    (valueWithin levels v x).outcome disk = (v.value x).outcome disk := by
  have hvalue : v.room x ≤ v.enough x.depth := v.unfollowed_mul_le x.depth
  have hsame {fewer more : Nat} (hfewer : v.room x ≤ fewer) (hle : fewer ≤ more) :
      (valueWithin fewer v x).outcome disk = (valueWithin more v x).outcome disk := by
    obtain ⟨result, hresult⟩ := (ends_valueWithin hv hguarded hfewer).outcome disk
    have hmore := (refines_levels (.refl hv) rfl (fun _ => rfl) hle x).outcome_eq hresult
    exact Eq.trans hresult hmore.symm
  rw [value, hsame hroom (Nat.le_max_left levels _), hsame hvalue (Nat.le_max_right levels _)]

/-- A definition is resolved alike at any levels that its properties have room in. -/
theorem outcome_resolve (hv : v.registry = .standard options) (hguarded : v.guarded = true)
    (disk : Disk) {levels : Nat} {d : Definition}
    (hroom : ∀ property y, d.get? property = some y → v.room y ≤ levels) {resolver : Resolver}
    (hbuiltin : resolver ∈ (Registry.standard options).resolvers) :
    (resolver.resolve (v.scope (valueWithin levels)) d).outcome disk =
      (v.resolveBy resolver d).outcome disk := by
  have hends := Resolving.respectful_ends options
  have hrefines := Resolving.respectful_refines options disk fun _ => False
  have hown : Parallel Resolving.Ends Eq (v.scope (valueWithin levels))
      (v.scope (valueWithin levels)) d d :=
    hends.discreet.parallel rfl fun property y hget => ends_valueWithin hv hguarded (hroom property y hget)
  have hsame : Parallel (Resolving.Compares disk (fun _ => False) Eq) Eq
      (v.scope (valueWithin levels))
      (v.scope (valueWithin (v.enough (Value.definition d).depth))) d d := by
    refine hrefines.discreet.parallel rfl fun property y hget => ?_
    obtain ⟨found, hfound⟩ :=
      (ends_valueWithin hv hguarded (hroom property y hget)).outcome disk
    refine Resolving.refines_of_some hfound (Eq.trans ?_ hfound)
    exact (outcome_valueWithin hv hguarded disk (v.room_le_enough hget)).trans
      (outcome_valueWithin hv hguarded disk (hroom property y hget)).symm
  obtain ⟨result, hresult⟩ := (hends.builtin hown hbuiltin).outcome disk
  have hmore : Resolving.Refines disk (fun _ => False)
      (resolver.resolve (v.scope (valueWithin levels)) d) (v.resolveBy resolver d) :=
    hrefines.builtin hsame hbuiltin
  exact Eq.trans hresult (hmore.outcome_eq hresult).symm

end Levels

/-! ### What is resolved on the way -/

/-- Something to be resolved: a value, or a definition by a resolver. -/
inductive Task where
  | value (v : Visitor) (x : Value)
  | definition (v : Visitor) (resolver : Resolver) (d : Definition)

/-- One thing is resolved on the way to another: a definition in the place of a value by the
resolver that its telltale calls for, the value of a name that is followed, and the values of the
properties that the resolver of a definition asks for. -/
inductive Calls (options : ResolverOptions) (disk : Disk) : Task → Task → Prop where
  | route {v : Visitor} {source : Path} {properties : List (String × Value)} {resolver : Resolver}
      (h : v.registry.lookup ⟨source, properties⟩ = .ok resolver) :
      Calls options disk (.value v (.nested source properties))
        (.definition v resolver ⟨source, properties⟩)
  | follow {v : Visitor} {name : String} {x : Value} (hget : v.document.root.get? name = some x)
      (hnew : name ∉ v.chain) :
      Calls options disk (.value v (.reference (.property name)))
        (.value { v with chain := v.chain ++ [name] } x)
  | directory {v : Visitor} {d : Definition} {x : Value} (hget : d.get? "directory" = some x) :
      Calls options disk (.definition v (.directory options) d) (.value v x)
  | file {v : Visitor} {d : Definition} {x : Value} (hget : d.get? "file" = some x) :
      Calls options disk (.definition v (.file options) d) (.value v x)
  /-- The encoding of a file is asked for only once its name is known. -/
  | encoding {v : Visitor} {d : Definition} {x y : Value} {a : Artifact} {text : String}
      (hfile : d.get? "file" = some x) (hfound : (v.value x).outcome disk = some (.ok a))
      (htext : a.asString? = some text) (hget : d.get? "encoding" = some y) :
      Calls options disk (.definition v (.file options) d) (.value v y)

/-- By itself a definition comes to the handler of a directory. -/
def Provides (options : ResolverOptions) (disk : Disk) (v : Visitor) (d : Definition)
    (base : Path) : Prop :=
  ∃ handler, (v.resolveBy (.directory options) d).outcome disk = some (.ok (.handler handler)) ∧
    handler.conduct = .directory base options.mode.maxAge

/-- On the way to something, or as that itself, a directory definition comes to the handler of a
directory. -/
def Yields (options : ResolverOptions) (disk : Disk) (task : Task) (base : Path) : Prop :=
  ∃ v d, Relation.ReflTransGen (Calls options disk) task (.definition v (.directory options) d) ∧
    v.Provides options disk d base

section Yields

variable {options : ResolverOptions} {disk : Disk} {v : Visitor} {d : Definition} {base : Path}

theorem yields_iff {task : Task} :
    Yields options disk task base ↔
      (∃ v d, task = .definition v (.directory options) d ∧ v.Provides options disk d base) ∨
        ∃ next, Calls options disk task next ∧ Yields options disk next base := by
  refine ⟨?_, ?_⟩
  · rintro ⟨v, d, hcourse, hprovides⟩
    rcases hcourse.cases_head with rfl | ⟨next, hcalls, hrest⟩
    · exact .inl ⟨v, d, rfl, hprovides⟩
    · exact .inr ⟨next, hcalls, v, d, hrest, hprovides⟩
  · rintro (⟨v, d, rfl, hprovides⟩ | ⟨next, hcalls, v, d, hrest, hprovides⟩)
    · exact ⟨v, d, .refl, hprovides⟩
    · exact ⟨v, d, .head hcalls hrest, hprovides⟩

theorem yields_value_iff {x : Value} :
    Yields options disk (.value v x) base ↔
      ∃ next, Calls options disk (.value v x) next ∧ Yields options disk next base := by
  rw [yields_iff, or_iff_right]
  rintro ⟨w, d, htask, -⟩
  cases htask

theorem not_yields_literal {data : Json} :
    ¬ Yields options disk (.value v (.literal data)) base := by
  rw [yields_value_iff]
  rintro ⟨next, hcalls, -⟩
  cases hcalls

theorem not_yields_env {name : String} :
    ¬ Yields options disk (.value v (.reference (.env name))) base := by
  rw [yields_value_iff]
  rintro ⟨next, hcalls, -⟩
  cases hcalls

theorem yields_property_iff {name : String} :
    Yields options disk (.value v (.reference (.property name))) base ↔
      ∃ x, v.document.root.get? name = some x ∧ name ∉ v.chain ∧
        Yields options disk (.value { v with chain := v.chain ++ [name] } x) base := by
  rw [yields_value_iff]
  refine ⟨?_, ?_⟩
  · rintro ⟨next, hcalls, hyields⟩
    cases hcalls with
    | follow hget hnew => exact ⟨_, hget, hnew, hyields⟩
  · rintro ⟨x, hget, hnew, hyields⟩
    exact ⟨_, .follow hget hnew, hyields⟩

theorem yields_nested_iff {source : Path} {properties : List (String × Value)} :
    Yields options disk (.value v (.nested source properties)) base ↔
      ∃ resolver, v.registry.lookup ⟨source, properties⟩ = .ok resolver ∧
        Yields options disk (.definition v resolver ⟨source, properties⟩) base := by
  rw [yields_value_iff]
  refine ⟨?_, ?_⟩
  · rintro ⟨next, hcalls, hyields⟩
    cases hcalls with
    | route h => exact ⟨_, h, hyields⟩
  · rintro ⟨resolver, h, hyields⟩
    exact ⟨_, .route h, hyields⟩

theorem not_yields_inline : ¬ Yields options disk (.definition v .inline d) base := by
  rw [yields_iff]
  generalize hresolver : Resolver.inline = resolver
  rintro (⟨w, e, htask, -⟩ | ⟨next, hcalls, -⟩)
  · obtain ⟨-, rfl, -⟩ := Task.definition.inj htask
    exact Resolver.inline_ne_directory options hresolver
  · cases hcalls with
    | directory => exact Resolver.inline_ne_directory options hresolver
    | file | encoding => exact Resolver.inline_ne_file options hresolver

theorem yields_directory_iff :
    Yields options disk (.definition v (.directory options) d) base ↔
      v.Provides options disk d base ∨
        ∃ x, d.get? "directory" = some x ∧ Yields options disk (.value v x) base := by
  rw [yields_iff]
  refine or_congr ?_ ?_
  · refine ⟨?_, fun hprovides => ⟨v, d, rfl, hprovides⟩⟩
    rintro ⟨w, e, htask, hprovides⟩
    obtain ⟨rfl, -, rfl⟩ := Task.definition.inj htask
    exact hprovides
  · refine ⟨?_, fun ⟨x, hget, hyields⟩ => ⟨_, .directory hget, hyields⟩⟩
    rintro ⟨next, hcalls, hyields⟩
    generalize hresolver : Resolver.directory options = resolver at hcalls
    cases hcalls with
    | directory hget => exact ⟨_, hget, hyields⟩
    | file | encoding => exact absurd hresolver (Resolver.directory_ne_file options)

theorem yields_file_iff :
    Yields options disk (.definition v (.file options) d) base ↔
      (∃ x, d.get? "file" = some x ∧ Yields options disk (.value v x) base) ∨
        ∃ x a text y, d.get? "file" = some x ∧ (v.value x).outcome disk = some (.ok a) ∧
          a.asString? = some text ∧ d.get? "encoding" = some y ∧
            Yields options disk (.value v y) base := by
  rw [yields_iff, or_iff_right]
  · refine ⟨?_, ?_⟩
    · rintro ⟨next, hcalls, hyields⟩
      generalize hresolver : Resolver.file options = resolver at hcalls
      cases hcalls with
      | directory => exact absurd hresolver.symm (Resolver.directory_ne_file options)
      | file hget => exact .inl ⟨_, hget, hyields⟩
      | encoding hfile hfound htext hget =>
          exact .inr ⟨_, _, _, _, hfile, hfound, htext, hget, hyields⟩
    · rintro (⟨x, hget, hyields⟩ | ⟨x, a, text, y, hfile, hfound, htext, hget, hyields⟩)
      · exact ⟨_, .file hget, hyields⟩
      · exact ⟨_, .encoding hfile hfound htext hget, hyields⟩
  · rintro ⟨w, e, htask, -⟩
    obtain ⟨-, hresolver, -⟩ := Task.definition.inj htask
    exact Resolver.directory_ne_file options hresolver.symm

end Yields

/-! ### What is served is what the course yields -/

section Served

variable {options : ResolverOptions} {v : Visitor} {disk : Disk}

/-- A definition has served what it yields if its properties do. -/
theorem mem_served_resolve (hv : v.registry = .standard options) (hguarded : v.guarded = true)
    {levels : Nat} {d : Definition} {base : Path}
    (hroom : ∀ property y, d.get? property = some y → v.room y ≤ levels)
    (hvalue : ∀ property y, d.get? property = some y →
      (base ∈ (valueWithin levels v y).served disk ↔ Yields options disk (.value v y) base))
    {resolver : Resolver} (hbuiltin : resolver ∈ (Registry.standard options).resolvers) :
    base ∈ (resolver.resolve (v.scope (valueWithin levels)) d).served disk ↔
      Yields options disk (.definition v resolver d) base := by
  have hparts (property : String) :
      (∃ y, d.get? property = some y ∧
          base ∈ ((v.scope (valueWithin levels)).value y).served disk) ↔
        ∃ y, d.get? property = some y ∧ Yields options disk (.value v y) base :=
    exists_congr fun y => and_congr_right fun hget => hvalue property y hget
  have hmem := hbuiltin
  simp only [Registry.standard, Registry.builtin, List.mem_cons, List.not_mem_nil, or_false] at hmem
  rcases hmem with rfl | rfl | rfl
  · rw [Resolver.mem_served_directory, yields_directory_iff, hparts, or_comm,
      ← Resolver.outcome_directory_eq_handler, outcome_resolve hv hguarded disk hroom hbuiltin]
    exact Iff.rfl
  · rw [Resolver.mem_served_file, yields_file_iff, hparts]
    refine or_congr_right (exists_congr fun x => exists_congr fun a => exists_congr fun text =>
      exists_congr fun y => and_congr_right fun hfile => ?_)
    change (valueWithin levels v x).outcome disk = some (.ok a) ∧ _ ↔ _
    rw [outcome_valueWithin hv hguarded disk (hroom "file" x hfile)]
    exact and_congr_right fun _ => and_congr_right fun _ => and_congr_right fun hget =>
      hvalue "encoding" y hget
  · have hsilent : (Resolver.inline.resolve (v.scope (valueWithin levels)) d).served disk = [] := by
      simp only [Resolver.inline]
      cases d.get? "inline" <;> rfl
    rw [hsilent]
    exact iff_of_false List.not_mem_nil not_yields_inline

/-- A definition has served what it yields by the resolver that its telltale calls for. -/
theorem mem_served_route (hv : v.registry = .standard options) (hguarded : v.guarded = true)
    {levels : Nat} {d : Definition} {base : Path}
    (hroom : ∀ property y, d.get? property = some y → v.room y ≤ levels)
    (hvalue : ∀ property y, d.get? property = some y →
      (base ∈ (valueWithin levels v y).served disk ↔ Yields options disk (.value v y) base)) :
    base ∈ (route (valueWithin levels) v d).served disk ↔
      ∃ resolver, v.registry.lookup d = .ok resolver ∧
        Yields options disk (.definition v resolver d) base := by
  simp only [route, hv]
  rcases (Registry.standard options).lookup_cases d with
    ⟨resolver, hbuiltin, hlookup⟩ | ⟨f, hf, hlookup⟩
  · simp only [hlookup _ fun _ _ => rfl, Except.ok.injEq, exists_eq_left']
    exact mem_served_resolve hv hguarded hroom hvalue hbuiltin
  · simp [hlookup _ fun _ _ => rfl]

theorem mem_served_follow (hguarded : v.guarded = true) {ask : Ask} {name : String} {x : Value}
    {base : Path} (hget : v.document.root.get? name = some x)
    (hask : v.chain.contains name = false →
      (base ∈ (ask { v with chain := v.chain ++ [name] } x).served disk ↔
        Yields options disk (.value { v with chain := v.chain ++ [name] } x) base)) :
    base ∈ (follow ask v name).served disk ↔
      name ∉ v.chain ∧ Yields options disk (.value { v with chain := v.chain ++ [name] } x) base := by
  cases hseen : v.chain.contains name with
  | true =>
      have hrefused : (v.guarded && v.chain.contains name) = true := by
        rw [hguarded, hseen]
        rfl
      have hmem : name ∈ v.chain := by simpa using hseen
      rw [follow_of_contains hrefused]
      exact iff_of_false List.not_mem_nil fun h => h.1 hmem
  | false =>
      have hfree : (v.guarded && v.chain.contains name) = false := by rw [hseen, Bool.and_false]
      have hnew : name ∉ v.chain := by simpa using hseen
      rw [follow_of_get? hfree hget, hask hseen, and_iff_right hnew]

/-- A value has served what it yields: by induction on the levels, as long as there is room. -/
theorem mem_served_valueWithin (hv : v.registry = .standard options) (hguarded : v.guarded = true)
    (disk : Disk) {levels : Nat} {x : Value} (hroom : v.room x ≤ levels) (base : Path) :
    base ∈ (valueWithin levels v x).served disk ↔ Yields options disk (.value v x) base := by
  induction levels generalizing v x with
  | zero =>
      have hpos := x.depth_pos
      unfold room at hroom
      omega
  | succ levels ih =>
      rw [valueWithin]
      cases x with
      | literal data => exact iff_of_false List.not_mem_nil not_yields_literal
      | nested source properties =>
          have hless (property : String) (y : Value)
              (hget : Definition.get? ⟨source, properties⟩ property = some y) :
              v.room y ≤ levels :=
            Nat.le_of_lt_succ (Nat.lt_of_lt_of_le (room_lt_nested hget) hroom)
          rw [yields_nested_iff]
          exact mem_served_route hv hguarded hless
            fun property y hget => ih hv hguarded (hless property y hget)
      | reference target =>
          cases target with
          | env name =>
              refine iff_of_false ?_ not_yields_env
              simp only [level]
              cases v.environment.get? name <;> exact List.not_mem_nil
          | property name =>
              rw [yields_property_iff]
              cases hget : v.document.root.get? name with
              | none => simp [level, Definition.has, hget]
              | some y =>
                  simp only [level, Definition.has, hget, Option.isSome_some, if_true,
                    Option.some.injEq, exists_eq_left']
                  refine mem_served_follow hguarded hget fun hnew => ?_
                  have hfollowed : ({ v with chain := v.chain ++ [name] } : Visitor).registry =
                      .standard options := hv
                  have hless := room_extend_le hget hnew
                  rw [room_reference] at hroom
                  exact ih hfollowed hguarded (by omega)

/-! ### Whole resolutions -/

/-- What a visitor that follows nothing yet has to resolve first when it is asked for something. -/
inductive Begins (v : Visitor) : Inquiry → Task → Prop where
  | root {name : String} {x : Value} (hget : v.document.root.get? name = some x) :
      Begins v (.root name) (.value { v with chain := [name] } x)
  | required {d : Definition} {property : String} {x : Value} (hget : d.get? property = some x) :
      Begins v (.required d property) (.value v x)
  | optional {d : Definition} {property : String} {x : Value} (hget : d.get? property = some x) :
      Begins v (.optional d property) (.value v x)
  | definition {d : Definition} {resolver : Resolver} (h : v.registry.lookup d = .ok resolver) :
      Begins v (.definition d) (.definition v resolver d)
  | chosen {telltale : String} {d : Definition} {resolver : Resolver}
      (h : v.registry.find? telltale = some resolver) :
      Begins v (.chosen telltale d) (.definition v resolver d)

theorem mem_served_upwardRoot (hv : v.registry = .standard options) (hguarded : v.guarded = true)
    {name : String} {base : Path} :
    base ∈ (v.upwardRoot name).served disk ↔
      ∃ x, v.document.root.get? name = some x ∧ name ∉ v.chain ∧
        Yields options disk (.value { v with chain := v.chain ++ [name] } x) base := by
  cases hget : v.document.root.get? name with
  | none => simp [upwardRoot, followRoot, Definition.has, hget]
  | some x =>
      simp only [upwardRoot, followRoot, Definition.has, hget, Option.isSome_some, if_true,
        Option.some.injEq, exists_eq_left']
      refine mem_served_follow hguarded hget fun hnew => ?_
      have hfollowed : ({ v with chain := v.chain ++ [name] } : Visitor).registry =
          .standard options := hv
      have hroom := v.unfollowed_mul_le 0
      rw [Nat.zero_add] at hroom
      exact mem_served_valueWithin hfollowed hguarded disk
        (Nat.le_trans (room_extend_le hget hnew) hroom) base

/-- Whatever is asked for, the directories served are those that the course yields. -/
theorem mem_served_inquire (hv : v.registry = .standard options) (hguarded : v.guarded = true)
    (hchain : v.chain = []) (inquiry : Inquiry) (base : Path) :
    base ∈ (v.inquire inquiry).served disk ↔
      ∃ task, v.Begins inquiry task ∧ Yields options disk task base := by
  have hvalue (d : Definition) (property : String) (y : Value) (hget : d.get? property = some y) :
      base ∈ (valueWithin (v.enough (Value.definition d).depth) v y).served disk ↔
        Yields options disk (.value v y) base :=
    mem_served_valueWithin hv hguarded disk (v.room_le_enough hget) base
  have hproperty (d : Definition) (property : String) :
      (∃ y, d.get? property = some y ∧
          base ∈ (valueWithin (v.enough (Value.definition d).depth) v y).served disk) ↔
        ∃ y, d.get? property = some y ∧ Yields options disk (.value v y) base :=
    exists_congr fun y => and_congr_right fun hget => hvalue d property y hget
  cases inquiry with
  | root name =>
      rw [inquire, Resolving.mem_served_map, mem_served_upwardRoot hv hguarded]
      refine ⟨?_, ?_⟩
      · rintro ⟨x, hget, -, hyields⟩
        rw [hchain] at hyields
        exact ⟨_, .root hget, hyields⟩
      · rintro ⟨task, hbegins, hyields⟩
        cases hbegins with
        | root hget =>
            refine ⟨_, hget, by simp [hchain], ?_⟩
            rw [hchain]
            exact hyields
  | required d property =>
      rw [inquire, Resolving.mem_served_map, upward, Resolver.mem_served_upward]
      apply (hproperty d property).trans
      constructor
      · rintro ⟨y, hget, hyields⟩
        exact ⟨_, .required hget, hyields⟩
      · rintro ⟨task, hbegins, hyields⟩
        cases hbegins with
        | required hget => exact ⟨_, hget, hyields⟩
  | optional d property =>
      rw [inquire, upward?, Resolver.mem_served_upward?]
      apply (hproperty d property).trans
      constructor
      · rintro ⟨y, hget, hyields⟩
        exact ⟨_, .optional hget, hyields⟩
      · rintro ⟨task, hbegins, hyields⟩
        cases hbegins with
        | optional hget => exact ⟨_, hget, hyields⟩
  | definition d =>
      rw [inquire, Resolving.mem_served_map, resolve,
        mem_served_route hv hguarded (fun property y hget => v.room_le_enough hget) (hvalue d)]
      constructor
      · rintro ⟨resolver, hlookup, hyields⟩
        exact ⟨_, .definition hlookup, hyields⟩
      · rintro ⟨task, hbegins, hyields⟩
        cases hbegins with
        | definition hlookup => exact ⟨_, hlookup, hyields⟩
  | chosen telltale d =>
      simp only [inquire]
      cases hfind : v.registry.find? telltale with
      | none =>
          refine iff_of_false List.not_mem_nil ?_
          rintro ⟨task, hbegins, -⟩
          cases hbegins with
          | chosen hother => exact absurd (hfind.symm.trans hother) (by simp)
      | some resolver =>
          have hbuiltin : resolver ∈ (Registry.standard options).resolvers :=
            hv ▸ List.mem_of_find?_eq_some hfind
          have hresolve : base ∈ (v.resolveBy resolver d).served disk ↔
              Yields options disk (.definition v resolver d) base :=
            mem_served_resolve hv hguarded (fun property y hget => v.room_le_enough hget)
              (hvalue d) hbuiltin
          rw [Resolving.mem_served_map, hresolve]
          refine ⟨fun hyields => ⟨_, .chosen hfind, hyields⟩, ?_⟩
          rintro ⟨task, hbegins, hyields⟩
          cases hbegins with
          | chosen hother =>
              obtain rfl := Option.some.inj (hfind.symm.trans hother)
              exact hyields

end Served

end Visitor

end Signpost
