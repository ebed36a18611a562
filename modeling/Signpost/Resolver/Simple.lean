import Signpost.Resolver

/-!
Simple resolvers to compose a registry of one's own: constant data, another
property's artifact, a fixed failure, and handlers of a fixed reply.
-/

namespace Signpost

namespace Resolver

/-- Resolves every definition to the same data. -/
def constant (sort telltale : String) (value : Json) : Resolver :=
  ⟨sort, telltale, fun _ _ => return .data value⟩

/-- Resolves a definition to what another property of it resolves to. -/
def forward (sort telltale property : String) : Resolver :=
  ⟨sort, telltale, fun scope d => scope.upward d property⟩

/-- Resolves a definition to what another property of it resolves to, or to the
word `absent` where there is none. -/
def forwardOptional (sort telltale property : String) : Resolver :=
  ⟨sort, telltale, fun scope d => do
    match ← scope.upward? d property with
    | some artifact => return artifact
    | none => return .string "absent"⟩

/-- Resolves a definition to what a root property resolves to. -/
def forwardRoot (sort telltale property : String) : Resolver :=
  ⟨sort, telltale, fun scope _ => scope.root property⟩

/-- The text of a scope in diagnostics. -/
def scopeText (path : Path) (chain : List String) : String :=
  "Visitor \x7b upward_path: " ++ quoted path.text ++ ", chain: " ++ quotedList chain ++ " \x7d"

/-- Resolves a definition to the text of the scope it is resolved in. -/
def trail (sort telltale : String) : Resolver :=
  ⟨sort, telltale, fun scope _ => return .string (scopeText scope.document.path scope.chain)⟩

/-- Resolves no definition, with always the same failure. -/
def failing (sort telltale : String) (cause : IoError) : Resolver :=
  ⟨sort, telltale, fun _ _ => throw (.io cause)⟩

/-- Resolves every definition to a new handler of a fixed reply. -/
def replying (sort telltale name : String) (reply : Reply) : Resolver :=
  ⟨sort, telltale, fun _ _ => return .handler (← Resolving.make (.fixed name reply))⟩

end Resolver

end Signpost
