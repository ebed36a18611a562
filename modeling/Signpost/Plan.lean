import Signpost.Cache
import Signpost.Handler
import Signpost.ResolveError

/-!
Resolutions as plans.  A plan says what a resolution asks of the world, one
question after the other: whether a path stays within the root, what a file
holds, which handler serves a directory.  Running a plan answers its questions
from a disk and a cache of handlers; several plans may be run in turns.
-/

namespace Signpost

/-- A resolution with a result of type `α`. -/
inductive Plan (α : Type) where
  | done (result : α)
  /-- Ask for the normal form of a path that must stay within a root. -/
  | confine (root : Option Path) (path : Path) (next : Except Escape Path → Plan α)
  /-- Ask for the bytes of a file. -/
  | read (path : Path) (next : Except IoError ByteArray → Plan α)
  /-- Ask for the handler of a directory. -/
  | serve (base : Path) (maxAge : Nat) (next : Handler → Plan α)
  /-- Ask for a new handler. -/
  | make (conduct : Conduct) (next : Handler → Plan α)
  /-- The resolution goes deeper than it was allowed to. -/
  | exhausted

namespace Plan

variable {α β : Type}

/-- The plan that goes on with the result of another. -/
def bind (p : Plan α) (f : α → Plan β) : Plan β :=
  match p with
  | done a => f a
  | confine root path next => confine root path fun answer => (next answer).bind f
  | read path next => read path fun answer => (next answer).bind f
  | serve base maxAge next => serve base maxAge fun handler => (next handler).bind f
  | make conduct next => make conduct fun handler => (next handler).bind f
  | exhausted => exhausted

instance : Monad Plan where
  pure := done
  bind := bind

@[simp]
theorem done_bind (a : α) (f : α → Plan β) : (done a).bind f = f a := rfl

@[simp]
theorem exhausted_bind (f : α → Plan β) : (exhausted : Plan α).bind f = exhausted := rfl

theorem bind_done (p : Plan α) : p.bind done = p := by
  induction p with
  | done a => rfl
  | confine root path next ih => simp [bind, ih]
  | read path next ih => simp [bind, ih]
  | serve base maxAge next ih => simp [bind, ih]
  | make conduct next ih => simp [bind, ih]
  | exhausted => rfl

theorem bind_assoc {γ : Type} (p : Plan α) (f : α → Plan β) (g : β → Plan γ) :
    (p.bind f).bind g = p.bind fun a => (f a).bind g := by
  induction p with
  | done a => rfl
  | confine root path next ih => simp [bind, ih]
  | read path next ih => simp [bind, ih]
  | serve base maxAge next ih => simp [bind, ih]
  | make conduct next ih => simp [bind, ih]
  | exhausted => rfl

instance : LawfulMonad Plan :=
  LawfulMonad.mk' Plan bind_done (fun _ _ => rfl) bind_assoc

end Plan

/-- What resolutions share: the handlers of directories, and the number of the
next handler. -/
structure Shared where
  servers : Cache Handler Empty
  nextHandler : Nat

namespace Shared

/-- Before the first resolution. -/
def start : Shared := ⟨.empty "directory", 0⟩

/-- The handler of a directory, made if there is none yet. -/
def server (s : Shared) (base : Path) (maxAge : Nat) : Handler × Shared :=
  let (handler, servers) :=
    s.servers.obtain base.text ⟨s.nextHandler, .directory base maxAge⟩
  (handler, ⟨servers, s.nextHandler + 1⟩)

/-- A new handler. -/
def handler (s : Shared) (conduct : Conduct) : Handler × Shared :=
  (⟨s.nextHandler, conduct⟩, { s with nextHandler := s.nextHandler + 1 })

end Shared

namespace Plan

variable {α : Type}

/-- Answer the next question of a plan. -/
def advance (disk : Disk) (s : Shared) : Plan α → Plan α × Shared
  | done a => (done a, s)
  | confine root path next => (next (disk.confine root path), s)
  | read path next => (next (disk.read path), s)
  | serve base maxAge next =>
      let (handler, s) := s.server base maxAge
      (next handler, s)
  | make conduct next =>
      let (handler, s) := s.handler conduct
      (next handler, s)
  | exhausted => (exhausted, s)

/-- Answer all questions of a plan; no result if it is exhausted. -/
def run (disk : Disk) (s : Shared) : Plan α → Option α × Shared
  | done a => (some a, s)
  | confine root path next => (next (disk.confine root path)).run disk s
  | read path next => (next (disk.read path)).run disk s
  | serve base maxAge next =>
      let (handler, s) := s.server base maxAge
      (next handler).run disk s
  | make conduct next =>
      let (handler, s) := s.handler conduct
      (next handler).run disk s
  | exhausted => (none, s)

end Plan

/-- A resolution that may fail. -/
abbrev Resolving (α : Type) := ExceptT ResolveError Plan α

namespace Resolving

/-- Ask for the normal form of a path that must stay within a root. -/
def confine (root : Option Path) (path : Path) : Resolving Path :=
  ExceptT.mk (.confine root path fun answer =>
    match answer with
    | .ok p => .done (.ok p)
    | .error e => .done (.error (.escape e)))

/-- Ask for the bytes of a file. -/
def read (path : Path) : Resolving ByteArray :=
  ExceptT.mk (.read path fun answer =>
    match answer with
    | .ok content => .done (.ok content)
    | .error e => .done (.error (.io e)))

/-- Ask for the handler of a directory. -/
def serve (base : Path) (maxAge : Nat) : Resolving Handler :=
  ExceptT.mk (.serve base maxAge fun handler => .done (.ok handler))

/-- Ask for a new handler. -/
def make (conduct : Conduct) : Resolving Handler :=
  ExceptT.mk (.make conduct fun handler => .done (.ok handler))

/-- A resolution that goes too deep. -/
def exhausted {α : Type} : Resolving α :=
  ExceptT.mk .exhausted

end Resolving

end Signpost
