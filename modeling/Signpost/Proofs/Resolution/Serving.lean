import Signpost.Proofs.Disk.Containment
import Signpost.Proofs.Resolution.Containment
import Signpost.Proofs.Resolution.Sharing

/-!
Which directories resolutions have served.  Whatever its questions are answered, a resolution
in a document with an absolute path has a directory served only in normal form and under the
root, as long as resolvers leave it to the directory resolver to have directories served.
-/

namespace Signpost

/-- A directory that may be served: its path is absolute, in normal form and under the root. -/
structure ResolverOptions.Admits (options : ResolverOptions) (base : Path) : Prop where
  isAbsolute : base.isAbsolute = true
  normal : base.normalize = base
  isUnder : ∀ root, options.rootPath = some root → base.isUnder root.normalize = true

theorem ResolverOptions.admits_of_confine {options : ResolverOptions} {disk : Disk}
    {p base : Path} (hp : p.isAbsolute = true)
    (h : disk.confine options.rootPath p = .ok base) : options.Admits base := by
  have hbase : base = p.normalize ∧
      ∀ root, options.rootPath = some root → base.isUnder root.normalize = true := by
    cases hroot : options.rootPath with
    | none =>
        rw [hroot] at h
        exact ⟨(Except.ok.inj h).symm, fun root hsome => absurd hsome (by simp)⟩
    | some own =>
        rw [hroot] at h
        obtain ⟨hnormal, hunder, -⟩ := Disk.confine_some_eq_ok h
        refine ⟨hnormal, fun root hsome => ?_⟩
        rw [← Option.some.inj hsome]
        exact hunder
  obtain ⟨rfl, hunder⟩ := hbase
  exact ⟨(Path.isAbsolute_normalize p).trans hp, Path.normalize_normalize hp, hunder⟩

/-- The path of a document is absolute, or the document has none. -/
def Document.Rooted (document : Document) : Prop :=
  document.path.isAbsolute = true ∨ document.path.text = ""

/-- Documents are rooted when they have been read. -/
theorem Document.rooted_of_parse {here path : Path} {contents : String} {document : Document}
    (hhere : here.isAbsolute = true) (h : parse here path contents = .ok document) :
    document.Rooted := by
  unfold parse at h
  dsimp only at h
  split at h
  · contradiction
  · obtain rfl := Except.ok.inj h
    exact Path.isAbsolute_absolute hhere path
  · contradiction

/-! ### Plans by the directories that they have served -/

namespace Plan

variable {α β : Type} {C : Path → Prop} {maxAge : Nat}

/-- Whatever its questions are answered, a plan has only directories in `C` served. -/
inductive Serves (C : Path → Prop) (maxAge : Nat) : Plan α → Prop where
  | done {a : α} : Serves C maxAge (.done a)
  | confine {root : Option Path} {path : Path} {next : Except Escape Path → Plan α}
      (h : ∀ disk : Disk, Serves C maxAge (next (disk.confine root path))) :
      Serves C maxAge (.confine root path next)
  | read {path : Path} {next : Except IoError ByteArray → Plan α}
      (h : ∀ answer, Serves C maxAge (next answer)) : Serves C maxAge (.read path next)
  | serve {base : Path} {next : Handler → Plan α} (hbase : C base)
      (h : ∀ handler, Serves C maxAge (next handler)) : Serves C maxAge (.serve base maxAge next)
  | make {conduct : Conduct} {next : Handler → Plan α}
      (h : ∀ handler, Serves C maxAge (next handler)) : Serves C maxAge (.make conduct next)
  | exhausted : Serves C maxAge .exhausted

theorem Serves.bind {p : Plan α} {f : α → Plan β} (h : p.Serves C maxAge)
    (hf : ∀ a, (f a).Serves C maxAge) : (p.bind f).Serves C maxAge := by
  induction h with
  | done => exact hf _
  | confine _ ih => exact .confine ih
  | read _ ih => exact .read ih
  | serve hbase _ ih => exact .serve hbase ih
  | make _ ih => exact .make ih
  | exhausted => exact .exhausted

/-- A run leaves handlers for directories in `C` behind, and no others. -/
theorem Serves.run {p : Plan α} (h : p.Serves C maxAge) (disk : Disk) {s : Shared}
    (hs : s.Faithful maxAge) :
    (p.run disk s).2.Faithful maxAge ∧ Shared.Grows C maxAge s (p.run disk s).2 := by
  induction h generalizing s with
  | done => exact ⟨hs, .refl s⟩
  | confine _ ih => exact ih disk hs
  | read _ ih => exact ih _ hs
  | @serve base next hbase _ ih =>
      obtain ⟨hlast, hgrows⟩ := ih _ (hs.server base).2
      exact ⟨hlast, (hs.grows_server hbase).trans hgrows⟩
  | @make conduct next _ ih =>
      have hnext : (s.handler conduct).2.Faithful maxAge := ⟨hs.settled, hs.conduct⟩
      exact ih _ hnext
  | exhausted => exact ⟨hs, .refl s⟩

end Plan

/-- A resolution that has only directories served that may be. -/
def Resolving.Serves {α : Type} (options : ResolverOptions) (p : Resolving α) : Prop :=
  Plan.Serves options.Admits options.mode.maxAge (ExceptT.run p)

namespace Resolving

variable {α β : Type} {options : ResolverOptions}

theorem serves_pure (a : α) : Serves options (pure a) := .done

theorem serves_throw (e : ResolveError) : Serves options (throw e : Resolving α) := .done

theorem Serves.bind {p : Resolving α} {f : α → Resolving β} (h : p.Serves options)
    (hf : ∀ a, (f a).Serves options) : (p >>= f).Serves options := by
  refine Plan.Serves.bind h fun result => ?_
  cases result with
  | ok a => exact hf a
  | error e => exact .done

theorem Serves.map {p : Resolving α} (h : p.Serves options) (f : α → β) :
    (f <$> p).Serves options := by
  rw [map_eq_pure_bind]
  exact h.bind fun a => serves_pure (f a)

theorem serves_confine (root : Option Path) (path : Path) : (confine root path).Serves options := by
  refine .confine fun disk => ?_
  cases disk.confine root path <;> exact .done

theorem serves_read (path : Path) : (read path).Serves options := by
  refine .read fun answer => ?_
  cases answer <;> exact .done

end Resolving

/-! ### Resolvers and visitors -/

/-- A scope of a rooted document in which only directories are served that may be. -/
structure Scope.Serves (options : ResolverOptions) (scope : Scope) : Prop where
  rooted : scope.document.Rooted
  value : ∀ x, (scope.value x).Serves options
  root : ∀ name, (scope.root name).Serves options

/-- A resolver that has a directory served, if the scope does not, only as it may be. -/
def Resolver.Serves (options : ResolverOptions) (resolver : Resolver) : Prop :=
  ∀ scope d, scope.Serves options → (resolver.resolve scope d).Serves options

namespace Resolver

open Resolving (serves_pure serves_throw serves_confine serves_read)

variable {options : ResolverOptions} {scope : Scope} {d : Definition}

theorem serves_requireString (resolver property : String) (a : Artifact) :
    (requireString resolver property a).Serves options := by
  unfold requireString
  split
  · exact serves_pure _
  · exact serves_throw _

theorem serves_upward (h : scope.Serves options) (d : Definition) (property : String) :
    (scope.upward d property).Serves options := by
  unfold Scope.upward
  split
  · exact h.value _
  · exact serves_throw _

theorem serves_upward? (h : scope.Serves options) (d : Definition) (property : String) :
    (scope.upward? d property).Serves options := by
  unfold Scope.upward?
  split
  · exact (h.value _).map _
  · exact serves_pure _

theorem serves_encodingOf (h : scope.Serves options) (d : Definition) :
    (encodingOf scope d).Serves options := by
  refine (serves_upward? h d "encoding").bind fun found => ?_
  split
  · exact serves_pure _
  · refine (serves_requireString _ _ _).bind fun raw => ?_
    split
    · exact serves_pure _
    · exact serves_throw _

theorem serves_servedBase (h : scope.Serves options) (d : Definition) :
    (servedBase options scope d).Serves options := by
  simp only [servedBase, baseOf]
  split
  · exact .done
  · simp only [bind_assoc]
    refine (serves_upward h d "directory").bind fun a => ?_
    refine (serves_requireString _ _ a).bind fun name => ?_
    split
    · exact .done
    · refine .confine fun disk => ?_
      cases hanswer : disk.confine options.rootPath (scope.document.path.resolveAgainst name) with
      | error e => exact .done
      | ok base =>
          have hpath := Path.isAbsolute_resolveAgainst h.rooted name
          exact .serve (options.admits_of_confine hpath hanswer) fun handler => .done

theorem serves_directory (options : ResolverOptions) : (directory options).Serves options := by
  intro scope d h
  rw [directory_eq]
  exact (serves_servedBase h d).map _

theorem serves_file (options : ResolverOptions) : (file options).Serves options := by
  intro scope d h
  simp only [file]
  split
  · exact serves_throw _
  · refine (serves_upward h d "file").bind fun a => ?_
    refine (serves_requireString _ _ a).bind fun name => ?_
    refine (serves_encodingOf h d).bind fun encoding => ?_
    refine (serves_confine _ _).bind fun path => ?_
    refine (serves_read path).bind fun content => ?_
    split
    · exact serves_pure _
    · exact serves_throw _

theorem serves_inline (options : ResolverOptions) : inline.Serves options := by
  intro scope d h
  simp only [inline]
  split
  · exact serves_pure _
  · exact serves_throw _

theorem serves_standard (options : ResolverOptions) :
    ∀ resolver ∈ (Registry.standard options).resolvers, resolver.Serves options := by
  intro resolver hresolver
  simp only [Registry.standard, Registry.builtin, List.mem_cons, List.not_mem_nil,
    or_false] at hresolver
  rcases hresolver with rfl | rfl | rfl
  · exact serves_directory options
  · exact serves_file options
  · exact serves_inline options

end Resolver

namespace Visitor

open Resolving (serves_pure serves_throw)

/-- A visitor of a rooted document, with resolvers that have directories served only as they may
be. -/
structure Serves (options : ResolverOptions) (v : Visitor) : Prop where
  rooted : v.document.Rooted
  resolvers : ∀ resolver ∈ v.registry.resolvers, resolver.Serves options

variable {options : ResolverOptions} {v : Visitor}

theorem Serves.follow (h : v.Serves options) {ask : Ask}
    (hask : ∀ (w : Visitor) (x : Value), w.Serves options → (ask w x).Serves options)
    (name : String) : (Visitor.follow ask v name).Serves options := by
  have hfollowed : ({ v with chain := v.chain ++ [name] } : Visitor).Serves options :=
    ⟨h.rooted, h.resolvers⟩
  unfold Visitor.follow
  split
  · exact serves_throw _
  · split
    · exact hask _ _ hfollowed
    · exact serves_throw _

theorem Serves.followRoot (h : v.Serves options) {ask : Ask}
    (hask : ∀ (w : Visitor) (x : Value), w.Serves options → (ask w x).Serves options)
    (name : String) : (Visitor.followRoot ask v name).Serves options := by
  unfold Visitor.followRoot
  split
  · exact h.follow hask name
  · exact serves_throw _

theorem Serves.scope (h : v.Serves options) {ask : Ask}
    (hask : ∀ (w : Visitor) (x : Value), w.Serves options → (ask w x).Serves options) :
    (v.scope ask).Serves options :=
  ⟨h.rooted, fun x => hask v x h, h.followRoot hask⟩

theorem Serves.route (h : v.Serves options) {ask : Ask}
    (hask : ∀ (w : Visitor) (x : Value), w.Serves options → (ask w x).Serves options)
    (d : Definition) : (Visitor.route ask v d).Serves options := by
  unfold Visitor.route
  rcases v.registry.lookup_cases d with ⟨resolver, hmem, hlookup⟩ | ⟨f, -, hlookup⟩
  · rw [hlookup d fun _ _ => rfl]
    exact h.resolvers resolver hmem _ d (h.scope hask)
  · rw [hlookup d fun _ _ => rfl]
    exact serves_throw _

/-- Every value is resolved so: by induction on the levels. -/
theorem serves_valueWithin (levels : Nat) (v : Visitor) (x : Value) (h : v.Serves options) :
    (valueWithin levels v x).Serves options := by
  induction levels generalizing v x with
  | zero => exact .exhausted
  | succ levels ih =>
      rw [valueWithin]
      cases x with
      | literal data => exact serves_pure _
      | nested source properties => exact h.route ih ⟨source, properties⟩
      | reference target =>
          cases target with
          | property name =>
              simp only [level]
              split
              · exact h.follow ih name
              · exact serves_throw _
          | env name =>
              simp only [level]
              cases v.environment.get? name with
              | some text => exact serves_pure _
              | none => exact serves_throw _

theorem Serves.inquire (h : v.Serves options) (inquiry : Inquiry) :
    (v.inquire inquiry).Serves options := by
  have hscope (levels : Nat) : (v.scope (valueWithin levels)).Serves options :=
    h.scope (serves_valueWithin levels)
  cases inquiry with
  | root name => exact (h.followRoot (serves_valueWithin _) name).map _
  | required d property => exact (Resolver.serves_upward (hscope _) d property).map _
  | optional d property => exact Resolver.serves_upward? (hscope _) d property
  | definition d => exact (h.route (serves_valueWithin _) d).map _
  | chosen telltale d =>
      simp only [Visitor.inquire]
      cases hfind : v.registry.find? telltale with
      | none => exact serves_pure _
      | some resolver =>
          exact (h.resolvers resolver (List.mem_of_find?_eq_some hfind) _ d (hscope _)).map _

end Visitor

end Signpost
