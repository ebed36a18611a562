import Signpost.Proofs.Cache.Alone
import Signpost.Proofs.Resolution.Respect
import Signpost.Service

/-!
What a resolution comes to does not depend on what earlier ones have left.  The handlers
that resolutions share act as those would that are made anew for every question; so a
resolution ends, up to which handlers they are, as it does where nothing is shared.
-/

namespace Signpost

/-- The paths that `confine` lets through. -/
def Disk.Confined (disk : Disk) (root : Option Path) (p : Path) : Prop :=
  ∃ path, disk.confine root path = .ok p

/-! ### The handlers shared -/

namespace Shared

/-- Nobody waits for a handler, and the handler under a key is that of the directory spelled
so. -/
structure Faithful (s : Shared) (maxAge : Nat) : Prop where
  settled : s.servers.Settled
  conduct : ∀ key handler, s.servers.get? key = some handler →
    handler.conduct = .directory ⟨key⟩ maxAge

theorem faithful_start (maxAge : Nat) : start.Faithful maxAge where
  settled := Cache.settled_empty "directory"
  conduct := by simp [start, Cache.get?, Cache.empty]

/-- A directory is served by the handler for it. -/
theorem Faithful.server {s : Shared} {maxAge : Nat} (h : s.Faithful maxAge) (base : Path) :
    (s.server base maxAge).1.conduct = .directory base maxAge ∧
      (s.server base maxAge).2.Faithful maxAge := by
  obtain ⟨hvalue, hsettled, hown, hothers⟩ :=
    h.settled.obtain base.text ⟨s.nextHandler, .directory base maxAge⟩
  have hconduct : ((s.servers.get? base.text).getD
      ⟨s.nextHandler, .directory base maxAge⟩).conduct = .directory base maxAge := by
    cases hget : s.servers.get? base.text with
    | none => rfl
    | some handler => exact h.conduct base.text handler hget
  refine ⟨(congrArg Handler.conduct hvalue).trans hconduct, hsettled, ?_⟩
  intro key handler hget
  by_cases hkey : key = base.text
  · subst hkey
    obtain rfl : _ = handler := Option.some.inj (hown.symm.trans hget)
    exact hconduct
  · exact h.conduct key handler ((hothers key hkey).symm.trans hget)

/-- What is shared after these directories have been served, one after the other. -/
def serving (maxAge : Nat) (bases : List Path) : Shared :=
  bases.foldl (fun s base => (s.server base maxAge).2) start

theorem Faithful.foldl_server {s : Shared} {maxAge : Nat} (h : s.Faithful maxAge)
    (bases : List Path) :
    (bases.foldl (fun s base => (s.server base maxAge).2) s).Faithful maxAge := by
  induction bases generalizing s with
  | nil => exact h
  | cons base rest ih => exact ih (h.server base).2

theorem faithful_serving (maxAge : Nat) (bases : List Path) :
    (serving maxAge bases).Faithful maxAge :=
  (faithful_start maxAge).foldl_server bases

end Shared

/-! ### Plans that differ in their handlers only -/

namespace Plan

variable {α β : Type}

/-- Two plans that ask the same questions on a disk, and end alike whichever handlers they are
given, as long as these serve the directory asked for. -/
inductive Alike (disk : Disk) (maxAge : Nat) (R : α → α → Prop) : Plan α → Plan α → Prop where
  | done {a b : α} (h : R a b) : Alike disk maxAge R (.done a) (.done b)
  | confine {root : Option Path} {path : Path} {next other : Except Escape Path → Plan α}
      (h : Alike disk maxAge R (next (disk.confine root path)) (other (disk.confine root path))) :
      Alike disk maxAge R (.confine root path next) (.confine root path other)
  | read {path : Path} {next other : Except IoError ByteArray → Plan α}
      (h : Alike disk maxAge R (next (disk.read path)) (other (disk.read path))) :
      Alike disk maxAge R (.read path next) (.read path other)
  | serve {base : Path} {next other : Handler → Plan α}
      (h : ∀ first second : Handler, first.conduct = .directory base maxAge →
        second.conduct = .directory base maxAge → Alike disk maxAge R (next first) (other second)) :
      Alike disk maxAge R (.serve base maxAge next) (.serve base maxAge other)
  | exhausted : Alike disk maxAge R .exhausted .exhausted

theorem Alike.bind {disk : Disk} {maxAge : Nat} {R : α → α → Prop} {S : β → β → Prop}
    {p q : Plan α} {f g : α → Plan β} (h : Alike disk maxAge R p q)
    (hf : ∀ a b, R a b → Alike disk maxAge S (f a) (g b)) :
    Alike disk maxAge S (p.bind f) (q.bind g) := by
  induction h with
  | done hab => exact hf _ _ hab
  | confine _ ih => exact .confine ih
  | read _ ih => exact .read ih
  | serve _ ih => exact .serve ih
  | exhausted => exact .exhausted

/-- What a plan ends with where nothing is shared: every handler it asks for is made anew. -/
def outcome (disk : Disk) : Plan α → Option α
  | done a => some a
  | confine root path next => (next (disk.confine root path)).outcome disk
  | read path next => (next (disk.read path)).outcome disk
  | serve base maxAge next => (next ⟨0, .directory base maxAge⟩).outcome disk
  | make conduct next => (next ⟨0, conduct⟩).outcome disk
  | exhausted => none

theorem outcome_bind (disk : Disk) (p : Plan α) (f : α → Plan β) :
    (p.bind f).outcome disk = (p.outcome disk).bind fun a => (f a).outcome disk := by
  induction p with
  | done a => rfl
  | confine root path next ih => exact ih (disk.confine root path)
  | read path next ih => exact ih (disk.read path)
  | serve base maxAge next ih => exact ih ⟨0, .directory base maxAge⟩
  | make conduct next ih => exact ih ⟨0, conduct⟩
  | exhausted => rfl

theorem run_bind (disk : Disk) (s : Shared) (p : Plan α) (f : α → Plan β) :
    (p.bind f).run disk s =
      match p.run disk s with
      | (some a, next) => (f a).run disk next
      | (none, next) => (none, next) := by
  induction p generalizing s with
  | done a => rfl
  | confine root path next ih => exact ih _ s
  | read path next ih => exact ih _ s
  | serve base maxAge next ih => exact ih _ _
  | make conduct next ih => exact ih _ _
  | exhausted => rfl

/-- Run where handlers are shared, a plan ends as the other does where nothing is. -/
theorem Alike.run {disk : Disk} {maxAge : Nat} {R : α → α → Prop} {p q : Plan α}
    (h : Alike disk maxAge R p q) {s : Shared} (hs : s.Faithful maxAge) :
    Option.Rel R (p.run disk s).1 (q.outcome disk) ∧ (p.run disk s).2.Faithful maxAge := by
  induction h generalizing s with
  | done hab => exact ⟨.some hab, hs⟩
  | confine _ ih => exact ih hs
  | read _ ih => exact ih hs
  | @serve base next other _ ih =>
      obtain ⟨hconduct, hnext⟩ := hs.server base
      exact ih _ ⟨0, .directory base maxAge⟩ hconduct rfl hnext
  | exhausted => exact ⟨.none, hs⟩

end Plan

/-! ### Resolutions -/

/-- Results that are the same failure, or related. -/
inductive Resolved {α : Type} (R : α → α → Prop) :
    Except ResolveError α → Except ResolveError α → Prop where
  | ok {a b : α} (h : R a b) : Resolved R (.ok a) (.ok b)
  | error (e : ResolveError) : Resolved R (.error e) (.error e)

theorem Resolved.of_ok {α : Type} {R : α → α → Prop} {a : α} {result : Except ResolveError α}
    (h : Resolved R (.ok a) result) : ∃ b, result = .ok b ∧ R a b := by
  cases h with
  | ok hab => exact ⟨_, rfl, hab⟩

theorem Resolved.of_error {α : Type} {R : α → α → Prop} {e : ResolveError}
    {result : Except ResolveError α} (h : Resolved R (.error e) result) : result = .error e := by
  cases h with
  | error => rfl

theorem Resolved.to_ok {α : Type} {R : α → α → Prop} {b : α} {result : Except ResolveError α}
    (h : Resolved R result (.ok b)) : ∃ a, result = .ok a ∧ R a b := by
  cases h with
  | ok hab => exact ⟨_, rfl, hab⟩

theorem Resolved.to_error {α : Type} {R : α → α → Prop} {e : ResolveError}
    {result : Except ResolveError α} (h : Resolved R result (.error e)) : result = .error e := by
  cases h with
  | error => rfl

theorem Resolved.rel_some_left {α : Type} {R : α → α → Prop}
    {first second : Option (Except ResolveError α)} (h : Option.Rel (Resolved R) first second)
    {a : Except ResolveError α} (ha : first = some a) : ∃ b, second = some b ∧ Resolved R a b := by
  subst ha
  cases h with
  | some hab => exact ⟨_, rfl, hab⟩

theorem Resolved.rel_some_right {α : Type} {R : α → α → Prop}
    {first second : Option (Except ResolveError α)} (h : Option.Rel (Resolved R) first second)
    {b : Except ResolveError α} (hb : second = some b) : ∃ a, first = some a ∧ Resolved R a b := by
  subst hb
  cases h with
  | some hab => exact ⟨_, rfl, hab⟩

/-- Outcomes that are alike are none together, and the same failure together. -/
theorem Resolved.rel_none_iff {α : Type} {R : α → α → Prop}
    {first second : Option (Except ResolveError α)} (h : Option.Rel (Resolved R) first second) :
    first = none ↔ second = none := by
  cases h <;> simp

theorem Resolved.rel_error_iff {α : Type} {R : α → α → Prop}
    {first second : Option (Except ResolveError α)} (h : Option.Rel (Resolved R) first second)
    (e : ResolveError) : first = some (.error e) ↔ second = some (.error e) := by
  cases h with
  | none => simp
  | some hab => cases hab <;> simp

/-- Results that are alike to one are alike to each other. -/
theorem Resolved.join {α : Type} {R : α → α → Prop} {first second third : Except ResolveError α}
    (hfirst : Resolved R first third) (hsecond : Resolved R second third)
    (hR : ∀ a b c, R a c → R b c → R a b) : Resolved R first second := by
  cases hfirst with
  | error e =>
      rw [hsecond.to_error]
      exact .error e
  | ok hac =>
      obtain ⟨b, rfl, hbc⟩ := hsecond.to_ok
      exact .ok (hR _ b _ hac hbc)

/-- Two handlers for one directory within the root. -/
def Handler.ServesAlike (options : ResolverOptions) (disk : Disk) (first second : Handler) : Prop :=
  ∃ base, disk.Confined options.rootPath base ∧
    first.conduct = .directory base options.mode.maxAge ∧
    second.conduct = .directory base options.mode.maxAge

theorem Handler.ServesAlike.join {options : ResolverOptions} {disk : Disk}
    {first second third : Handler} (hfirst : ServesAlike options disk first third)
    (hsecond : ServesAlike options disk second third) : ServesAlike options disk first second := by
  obtain ⟨base, hbase, hown, hthird⟩ := hfirst
  obtain ⟨other, -, hother, hsame⟩ := hsecond
  obtain ⟨rfl, -⟩ := Conduct.directory.inj (hthird.symm.trans hsame)
  exact ⟨base, hbase, hown, hother⟩

theorem Artifact.Related.join {options : ResolverOptions} {disk : Disk}
    {first second third : Artifact}
    (hfirst : Artifact.Related (Handler.ServesAlike options disk) first third)
    (hsecond : Artifact.Related (Handler.ServesAlike options disk) second third) :
    Artifact.Related (Handler.ServesAlike options disk) first second := by
  cases hfirst with
  | data value =>
      cases hsecond with
      | data => exact .data value
  | handler hown =>
      cases hsecond with
      | handler hother => exact .handler (hown.join hother)

namespace Resolving

/-- Resolutions that differ in their handlers only. -/
def Alike (options : ResolverOptions) (disk : Disk) (α : Type) (R : α → α → Prop)
    (p q : Resolving α) : Prop :=
  Plan.Alike disk options.mode.maxAge (Resolved R) (ExceptT.run p) (ExceptT.run q)

theorem respectful_alike (options : ResolverOptions) (disk : Disk) :
    Respectful options (disk.Confined options.rootPath) (Handler.ServesAlike options disk)
      (Alike options disk) where
  pure hab := .done (.ok hab)
  throw _ := .done (.error _)
  bind hpq hf := by
    refine Plan.Alike.bind hpq ?_
    intro first second hsame
    cases hsame with
    | ok hab => exact hf _ _ hab
    | error e => exact .done (.error e)
  confine path := by
    refine .confine ?_
    cases hanswer : disk.confine options.rootPath path with
    | ok p => exact .done (.ok ⟨rfl, path, hanswer⟩)
    | error e => exact .done (.error _)
  read {path} _ := by
    refine .read ?_
    cases disk.read path with
    | ok content => exact .done (.ok rfl)
    | error e => exact .done (.error _)
  serve hbase := .serve fun first second hfirst hsecond =>
    .done (.ok ⟨_, hbase, hfirst, hsecond⟩)

/-- What a resolution ends with where nothing is shared; nothing if it was not allowed enough
levels. -/
def outcome {α : Type} (disk : Disk) (p : Resolving α) : Option (Except ResolveError α) :=
  Plan.outcome disk (ExceptT.run p)

/-- Go on with what a resolution has come to, unless it has failed. -/
def goOn {α β : Type} (f : α → Option (Except ResolveError β)) :
    Except ResolveError α → Option (Except ResolveError β)
  | .ok a => f a
  | .error e => some (.error e)

theorem outcome_bind {α β : Type} (disk : Disk) (p : Resolving α) (f : α → Resolving β) :
    (p >>= f).outcome disk =
      (p.outcome disk).bind (goOn fun a => (f a).outcome disk) := by
  change Plan.outcome disk (Plan.bind (ExceptT.run p) (ExceptT.bindCont f)) = _
  rw [Plan.outcome_bind]
  congr 1
  funext result
  cases result <;> rfl

theorem outcome_confine (disk : Disk) (root : Option Path) (path : Path) :
    (confine root path).outcome disk = some ((disk.confine root path).mapError .escape) := by
  unfold outcome confine
  change Plan.outcome disk (.confine root path _) = _
  rw [Plan.outcome]
  cases disk.confine root path <;> rfl

theorem outcome_read (disk : Disk) (path : Path) :
    (read path).outcome disk = some ((disk.read path).mapError .io) := by
  unfold outcome read
  change Plan.outcome disk (.read path _) = _
  rw [Plan.outcome]
  cases disk.read path <;> rfl

theorem Alike.run {options : ResolverOptions} {disk : Disk} {α : Type} {R : α → α → Prop}
    {p q : Resolving α} (h : Alike options disk α R p q) {s : Shared}
    (hs : s.Faithful options.mode.maxAge) :
    Option.Rel (Resolved R) (p.run disk s).1 (q.outcome disk) ∧
      (p.run disk s).2.Faithful options.mode.maxAge :=
  Plan.Alike.run h hs

theorem Alike.answer {options : ResolverOptions} {disk : Disk} {α : Type} {R : α → α → Prop}
    {p q : Resolving α} (h : Alike options disk α R p q) {s : Shared}
    (hs : s.Faithful options.mode.maxAge) :
    Resolved R (p.answer disk s).1 ((q.outcome disk).getD (.error tooDeep)) ∧
      (p.answer disk s).2.Faithful options.mode.maxAge := by
  obtain ⟨hresult, hnext⟩ := h.run hs
  unfold Resolving.answer
  generalize p.run disk s = run at hresult hnext ⊢
  generalize q.outcome disk = fresh at hresult ⊢
  obtain ⟨_ | result, next⟩ := run
  · cases hresult with
    | none => exact ⟨.error _, hnext⟩
  · cases hresult with
    | some hsame => exact ⟨hsame, hnext⟩

end Resolving

namespace Visitor

variable {options : ResolverOptions} {v : Visitor}

theorem alike_followRoot (hv : v.registry = .standard options) (disk : Disk) (levels : Nat)
    (name : String) :
    Resolving.Alike options disk Artifact (Artifact.Related (Handler.ServesAlike options disk))
      (followRoot (valueWithin levels) v name) (followRoot (valueWithin levels) v name) :=
  (Resolving.respectful_alike options disk).followRootWithin (fun _ => .done (.error _))
    .exhausted hv levels name

/-- Whatever has been served before, a root property comes to what it does where nothing is
shared. -/
theorem rel_outcome_upwardRoot (hv : v.registry = .standard options) (disk : Disk)
    (known : List Path) (name : String) :
    Option.Rel (Resolved (Artifact.Related (Handler.ServesAlike options disk)))
      ((v.upwardRoot name).run disk (.serving options.mode.maxAge known)).1
      ((v.upwardRoot name).outcome disk) :=
  ((alike_followRoot hv disk (v.enough 0) name).run
    (Shared.faithful_serving options.mode.maxAge known)).1

end Visitor

end Signpost
