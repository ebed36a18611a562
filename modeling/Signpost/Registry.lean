import Signpost.Resolver.Directory
import Signpost.Resolver.File
import Signpost.Resolver.Inline

/-!
Registries of resolvers.  No two resolvers of a registry have one telltale, and
a definition belongs to the only resolver whose telltale it carries.
-/

namespace Signpost

/-- Resolvers in the order in which they were registered. -/
structure Registry where
  resolvers : List Resolver

namespace Registry

/-- The registry without resolvers. -/
def empty : Registry := ⟨[]⟩

/-- The resolver of a telltale. -/
def find? (r : Registry) (telltale : String) : Option Resolver :=
  r.resolvers.find? fun resolver => resolver.telltale == telltale

/-- The registry with one more resolver, whose telltale must be free. -/
def register (r : Registry) (resolver : Resolver) : Except ResolveError Registry :=
  match r.find? resolver.telltale with
  | some existing =>
      .error (.duplicateTelltale resolver.telltale existing.sort resolver.sort)
  | none => .ok ⟨r.resolvers ++ [resolver]⟩

/-- The registry with more resolvers, one after the other. -/
def registerAll (r : Registry) (resolvers : List Resolver) : Except ResolveError Registry :=
  resolvers.foldlM register r

/-- The telltales in the order of registration. -/
def telltales (r : Registry) : List String := r.resolvers.map Resolver.telltale

/-- The sorts in the order of registration. -/
def sorts (r : Registry) : List String := r.resolvers.map Resolver.sort

/-- The only resolver whose telltale a definition carries. -/
def lookup (r : Registry) (d : Definition) : Except ResolveError Resolver :=
  match r.resolvers.filter fun resolver => d.has resolver.telltale with
  | [resolver] => .ok resolver
  | [] => .error (.noMatch d r.telltales)
  | many => .error (.ambiguous d (many.map Resolver.telltale))

/-- The text of a registry in diagnostics. -/
def text (r : Registry) : String :=
  "ResolverRegistry \x7b telltales: " ++ quotedList r.telltales ++ " \x7d"

/-- The built-in resolvers. -/
def builtin (options : ResolverOptions) : List Resolver :=
  [.directory options, .file options, .inline]

/-- The registry of the built-in resolvers. -/
def standard (options : ResolverOptions) : Registry := ⟨builtin options⟩

theorem registerAll_builtin (options : ResolverOptions) :
    empty.registerAll (builtin options) = .ok (standard options) := rfl

end Registry

end Signpost
