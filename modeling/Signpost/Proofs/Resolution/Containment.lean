import Mathlib
import Signpost.Proofs.Disk.Containment
import Signpost.Proofs.Resolution.Inquiry
import Signpost.Proofs.Resolution.Outcome

/-!
Resolutions stay within the root.  A resolution opens a file, or has a directory served, only
after its path has been let through; which paths a resolution uses, and which handlers it
leaves behind for later ones, is read off its plan as it is run.
-/

namespace Signpost

/-! ### The handlers left behind -/

namespace Shared

/-- Every handler of `later` has been there before, or is for a directory in `C`. -/
def Grows (C : Path → Prop) (maxAge : Nat) (s later : Shared) : Prop :=
  ∀ key handler, later.servers.get? key = some handler →
    s.servers.get? key = some handler ∨
      ∃ base, C base ∧ base.text = key ∧ handler.conduct = .directory base maxAge

variable {C : Path → Prop} {maxAge : Nat} {s : Shared}

theorem Grows.refl (s : Shared) : Grows C maxAge s s :=
  fun _ _ hget => .inl hget

theorem Grows.trans {later last : Shared} (h : Grows C maxAge s later)
    (hlast : Grows C maxAge later last) : Grows C maxAge s last := by
  intro key handler hget
  rcases hlast key handler hget with hget | hnew
  · exact h key handler hget
  · exact .inr hnew

/-- Serving a directory adds a handler for it, if anything. -/
theorem Faithful.grows_server (h : s.Faithful maxAge) {base : Path} (hbase : C base) :
    Grows C maxAge s (s.server base maxAge).2 := by
  obtain ⟨-, -, -, hothers⟩ := h.settled.obtain base.text ⟨s.nextHandler, .directory base maxAge⟩
  intro key handler hget
  by_cases hkey : key = base.text
  · subst hkey
    exact .inr ⟨base, hbase, rfl, (h.server base).2.conduct base.text handler hget⟩
  · exact .inl ((hothers key hkey).symm.trans hget)

end Shared

/-! ### The paths used -/

namespace Plan

variable {α β : Type}

/-- The paths that a plan uses when it is run, one after the other: the files that it opens and
the directories that it has served. -/
def used (disk : Disk) (s : Shared) : Plan α → List Path
  | done _ => []
  | confine root path next => (next (disk.confine root path)).used disk s
  | read path next => path :: (next (disk.read path)).used disk s
  | serve base maxAge next =>
      let (handler, s) := s.server base maxAge
      base :: (next handler).used disk s
  | make conduct next =>
      let (handler, s) := s.handler conduct
      (next handler).used disk s
  | exhausted => []

/-- On this disk a plan uses paths in `C` only and ends with a result in `Q` if it ends, whichever
handlers it is given, as long as these serve the directory asked for. -/
inductive Keeps (disk : Disk) (maxAge : Nat) (C : Path → Prop) (Q : α → Prop) : Plan α → Prop where
  | done {a : α} (h : Q a) : Keeps disk maxAge C Q (.done a)
  | confine {root : Option Path} {path : Path} {next : Except Escape Path → Plan α}
      (h : Keeps disk maxAge C Q (next (disk.confine root path))) :
      Keeps disk maxAge C Q (.confine root path next)
  | read {path : Path} {next : Except IoError ByteArray → Plan α} (hpath : C path)
      (h : Keeps disk maxAge C Q (next (disk.read path))) : Keeps disk maxAge C Q (.read path next)
  | serve {base : Path} {next : Handler → Plan α} (hbase : C base)
      (h : ∀ handler : Handler, handler.conduct = .directory base maxAge →
        Keeps disk maxAge C Q (next handler)) : Keeps disk maxAge C Q (.serve base maxAge next)
  | exhausted : Keeps disk maxAge C Q .exhausted

variable {disk : Disk} {maxAge : Nat} {C : Path → Prop}

theorem Keeps.bind {Q : α → Prop} {S : β → Prop} {p : Plan α} {f : α → Plan β}
    (h : p.Keeps disk maxAge C Q) (hf : ∀ a, Q a → (f a).Keeps disk maxAge C S) :
    (p.bind f).Keeps disk maxAge C S := by
  induction h with
  | done ha => exact hf _ ha
  | confine _ ih => exact .confine ih
  | read hpath _ ih => exact .read hpath ih
  | serve hbase _ ih => exact .serve hbase ih
  | exhausted => exact .exhausted

/-- What a run comes to, by the questions of its plan: the handlers that are shared stay those of
their directories, so the plan is given what it relies on. -/
theorem Keeps.run {Q : α → Prop} {p : Plan α} (h : p.Keeps disk maxAge C Q) {s : Shared}
    (hs : s.Faithful maxAge) :
    (∀ path ∈ p.used disk s, C path) ∧ (∀ a, (p.run disk s).1 = some a → Q a) ∧
      (p.run disk s).2.Faithful maxAge ∧ Shared.Grows C maxAge s (p.run disk s).2 := by
  induction h generalizing s with
  | done ha =>
      refine ⟨fun path hpath => absurd hpath List.not_mem_nil, fun a hrun => ?_, hs, .refl s⟩
      exact Option.some.inj hrun ▸ ha
  | confine _ ih => exact ih hs
  | read hpath _ ih =>
      obtain ⟨hused, hrest⟩ := ih hs
      exact ⟨List.forall_mem_cons.mpr ⟨hpath, hused⟩, hrest⟩
  | @serve base next hbase _ ih =>
      obtain ⟨hconduct, hnext⟩ := hs.server base
      obtain ⟨hused, hresult, hlast, hgrows⟩ := ih _ hconduct hnext
      exact ⟨List.forall_mem_cons.mpr ⟨hbase, hused⟩, hresult, hlast,
        (hs.grows_server hbase).trans hgrows⟩
  | exhausted =>
      exact ⟨fun path hpath => absurd hpath List.not_mem_nil, fun a hrun => (by cases hrun), hs,
        .refl s⟩

end Plan

namespace Resolving

/-- A resolution that uses only paths which the root lets through, and whose result is as `R` has
the results of resolutions. -/
def Keeps (options : ResolverOptions) (disk : Disk) (α : Type) (R : α → α → Prop)
    (p _ : Resolving α) : Prop :=
  Plan.Keeps disk options.mode.maxAge (disk.Confined options.rootPath)
    (fun result => ∀ a, result = .ok a → ∃ b, R a b) (ExceptT.run p)

theorem Keeps.failed {options : ResolverOptions} {disk : Disk} {α : Type} {R : α → α → Prop}
    (e : ResolveError) (other : Resolving α) : Keeps options disk α R (throw e) other :=
  .done fun _ hfound => by cases hfound

theorem respectful_keeps (options : ResolverOptions) (disk : Disk) :
    Respectful options (disk.Confined options.rootPath) (Handler.ServesAlike options disk)
      (Keeps options disk) where
  pure {α R a b} hab := by
    refine .done fun found hfound => ⟨b, ?_⟩
    cases hfound
    exact hab
  throw _ := Keeps.failed _ _
  bind hp hf := by
    refine Plan.Keeps.bind hp ?_
    intro result hresult
    cases result with
    | ok a =>
        obtain ⟨b, hab⟩ := hresult a rfl
        exact hf a b hab
    | error e => exact Keeps.failed e (throw e)
  confine path := by
    refine .confine ?_
    cases hanswer : disk.confine options.rootPath path with
    | ok p =>
        refine .done fun found hfound => ⟨found, rfl, path, ?_⟩
        rw [hanswer, Except.ok.inj hfound]
    | error e => exact Keeps.failed (.escape e) (throw (.escape e))
  read {path} hpath := by
    refine .read hpath ?_
    cases disk.read path with
    | ok content => exact .done fun found _ => ⟨found, rfl⟩
    | error e => exact Keeps.failed (.io e) (throw (.io e))
  serve {base} hbase := .serve hbase fun handler hconduct => .done fun found hfound => by
    cases hfound
    exact ⟨handler, base, hbase, hconduct, hconduct⟩

end Resolving

/-! ### Whole resolutions -/

namespace Visitor

variable {options : ResolverOptions} {v : Visitor}

theorem keeps_inquire (hv : v.registry = .standard options) (disk : Disk) (inquiry : Inquiry) :
    Resolving.Keeps options disk (Option Artifact)
      (Option.Rel (Artifact.Related (Handler.ServesAlike options disk)))
      (v.inquire inquiry) (v.inquire inquiry) := by
  have h := Resolving.respectful_keeps options disk
  exact h.inquireWithin (fun chain => .failed (.circular chain) _) .exhausted hv inquiry

end Visitor

/-- One resolution: what is asked for, in which document and environment, and the disk as it is
meanwhile. -/
structure Resolution where
  disk : Disk
  document : Document
  environment : Environment
  inquiry : Inquiry

namespace Resolution

/-- What the built-in resolvers do about it. -/
def plan (r : Resolution) (options : ResolverOptions) : Resolving (Option Artifact) :=
  (Visitor.start (.standard options) r.document r.environment).inquire r.inquiry

/-- What it comes to, and what it leaves to later ones. -/
def answer (r : Resolution) (options : ResolverOptions) (s : Shared) :
    Except ResolveError (Option Artifact) × Shared :=
  (r.plan options).answer r.disk s

/-- The files that it opens and the directories that it has served. -/
def used (r : Resolution) (options : ResolverOptions) (s : Shared) : List Path :=
  Plan.used r.disk s (ExceptT.run (r.plan options))

/-- What is shared after these resolutions, one after the other. -/
def after (options : ResolverOptions) (past : List Resolution) : Shared :=
  past.foldl (fun s r => (r.answer options s).2) .start

variable {options : ResolverOptions}

theorem keeps (r : Resolution) (options : ResolverOptions) :
    Resolving.Keeps options r.disk (Option Artifact)
      (Option.Rel (Artifact.Related (Handler.ServesAlike options r.disk)))
      (r.plan options) (r.plan options) :=
  Visitor.keeps_inquire rfl r.disk r.inquiry

/-- One step: where the handlers shared are those of their directories, a resolution uses what the
root lets through, and leaves the handlers so. -/
theorem answer_of_faithful (r : Resolution) {s : Shared} (hs : s.Faithful options.mode.maxAge) :
    (∀ path ∈ r.used options s, r.disk.Confined options.rootPath path) ∧
      (∀ handler, (r.answer options s).1 = .ok (some (.handler handler)) →
        ∃ base, r.disk.Confined options.rootPath base ∧
          handler.conduct = .directory base options.mode.maxAge) ∧
      (r.answer options s).2.Faithful options.mode.maxAge ∧
      Shared.Grows (r.disk.Confined options.rootPath) options.mode.maxAge s
        (r.answer options s).2 := by
  obtain ⟨hused, hresult, hlast, hgrows⟩ := Plan.Keeps.run (r.keeps options) hs
  unfold answer Resolving.answer Resolving.run
  generalize Plan.run r.disk s _ = run at hresult hlast hgrows ⊢
  obtain ⟨_ | result, last⟩ := run
  · exact ⟨hused, fun handler hfound => (by cases hfound), hlast, hgrows⟩
  · refine ⟨hused, ?_, hlast, hgrows⟩
    rintro handler ⟨⟩
    obtain ⟨found, hfound⟩ := hresult _ rfl _ rfl
    cases hfound with
    | some hrelated =>
        cases hrelated with
        | handler hserves =>
            obtain ⟨base, hbase, hconduct, -⟩ := hserves
            exact ⟨base, hbase, hconduct⟩

theorem faithful_after (options : ResolverOptions) (past : List Resolution) :
    (after options past).Faithful options.mode.maxAge := by
  suffices h : ∀ s : Shared, s.Faithful options.mode.maxAge →
      (past.foldl (fun s r => (r.answer options s).2) s).Faithful options.mode.maxAge from
    h _ (Shared.faithful_start _)
  induction past with
  | nil => exact fun _ hs => hs
  | cons r rest ih => exact fun s hs => ih _ (r.answer_of_faithful hs).2.2.1

theorem contains_of_confined {disk : Disk} {root p : Path} (hroot : root.isAbsolute = true)
    (h : disk.Confined (some root) p) : disk.Contains root p := by
  obtain ⟨path, hconfine⟩ := h
  exact Disk.contains_of_confine hroot hconfine

/-- Whatever has been resolved before, on whichever disks, a resolution stays within an absolute
root: the files that it opens, the directory of the handler that it comes to, and the directories
of the handlers that it leaves behind all lie there on the disk as it is meanwhile. -/
theorem stays_within_root (mode : Mode) {root : Path} (hroot : root.isAbsolute = true)
    (past : List Resolution) (r : Resolution) :
    let options : ResolverOptions := ⟨mode, some root⟩
    let before := after options past
    (∀ p ∈ r.used options before, r.disk.Contains root p) ∧
      (∀ handler, (r.answer options before).1 = .ok (some (.handler handler)) →
        ∃ base, r.disk.Contains root base ∧ handler.conduct = .directory base mode.maxAge) ∧
      ∀ key handler, (r.answer options before).2.servers.get? key = some handler →
        before.servers.get? key = some handler ∨
          ∃ base, r.disk.Contains root base ∧ base.text = key ∧
            handler.conduct = .directory base mode.maxAge := by
  intro options before
  obtain ⟨hused, hresult, -, hgrows⟩ := r.answer_of_faithful (faithful_after options past)
  refine ⟨fun p hp => contains_of_confined hroot (hused p hp), ?_, ?_⟩
  · intro handler hhandler
    obtain ⟨base, hbase, hconduct⟩ := hresult handler hhandler
    exact ⟨base, contains_of_confined hroot hbase, hconduct⟩
  · intro key handler hget
    rcases hgrows key handler hget with hold | ⟨base, hbase, hkey, hconduct⟩
    · exact .inl hold
    · exact .inr ⟨base, contains_of_confined hroot hbase, hkey, hconduct⟩

/-- The root property `a`, which is the contents of the file `/x/f`. -/
def ofFile (disk : Disk) : Resolution where
  disk := disk
  document := ⟨⟨"/d"⟩, ⟨⟨"/d"⟩, [("a", .nested ⟨"/d"⟩ [("file", .literal (.string "/x/f"))])]⟩⟩
  environment := ⟨[]⟩
  inquiry := .root "a"

/-- A disk with two directories `x`, the file being in one of them, and a link to the inside of
the directory that holds the other one. -/
def linkedDisk : Disk where
  listed? place := [(["x"], .directory), (["x", "f"], .file ⟨#[104]⟩ 0), (["o"], .directory),
    (["o", "in"], .directory), (["o", "x"], .directory), (["l"], .link ⟨"/o/in"⟩)].lookup place
  here := []

theorem stays_within_root_file :
    (ofFile linkedDisk).used ⟨.production, some ⟨"/x"⟩⟩ (after ⟨.production, some ⟨"/x"⟩⟩ []) =
        [⟨"/x/f"⟩] ∧
      linkedDisk.Contains ⟨"/x"⟩ ⟨"/x/f"⟩ := by
  have hused : (ofFile linkedDisk).used ⟨.production, some ⟨"/x"⟩⟩
      (after ⟨.production, some ⟨"/x"⟩⟩ []) = [⟨"/x/f"⟩] := by
    cbv
  refine ⟨hused, (stays_within_root .production (by decide) [] (ofFile linkedDisk)).1 _ ?_⟩
  rw [hused]
  exact List.mem_singleton_self _

theorem traces_linkedDisk :
    linkedDisk.Traces Disk.linkBudget [] (Step.ofPath ⟨"/l/../x"⟩) ["o", "x"] := by
  have hsteps : Step.ofPath ⟨"/l/../x"⟩ = [.down "l", .up, .down "x"] := by decide
  have htarget : Step.ofPath ⟨"/o/in"⟩ = [.down "o", .down "in"] := by decide
  rw [hsteps]
  refine .through ⟨by decide, by decide⟩ rfl ?_
  rw [htarget]
  refine .into ⟨by decide, by decide⟩ rfl (fun _ => by decide) ?_
  refine .into ⟨by decide, by decide⟩ rfl (fun _ => by decide) (.up ?_)
  exact .into ⟨by decide, by decide⟩ rfl (fun _ => by decide) .here

/-- A root with a `..` behind a link keeps resolutions to the directory that its normal form
names, which is not the one that the root itself leads to. -/
theorem used_outside_linked_root :
    Path.isAbsolute ⟨"/l/../x"⟩ = true ∧
      (ofFile linkedDisk).used ⟨.production, some ⟨"/l/../x"⟩⟩ .start = [⟨"/x/f"⟩] ∧
      linkedDisk.canonical? ⟨"/x/f"⟩ = some ["x", "f"] ∧
      linkedDisk.canonical? ⟨"/l/../x"⟩ = some ["o", "x"] ∧ ¬ ["o", "x"] <+: ["x", "f"] := by
  have hroot : Path.isAbsolute ⟨"/l/../x"⟩ = true := by decide
  have hown := (Disk.canonical?_eq_some_iff_traces hroot).mpr ⟨by decide, traces_linkedDisk⟩
  exact ⟨hroot, by cbv, by cbv, hown, by decide⟩

end Resolution

end Signpost
