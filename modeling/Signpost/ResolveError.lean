import Signpost.Containment
import Signpost.Value

/-!
Why a definition cannot be resolved.  All but failures of the file system are
mistakes in the definition document, and name the place of the mistake.
-/

namespace Signpost

/-- The causes of a failed resolution. -/
inductive ResolveError where
  /-- A required property is absent. -/
  | missingProperty (property : String) (definition : Definition)
  /-- A property came out with the wrong shape. -/
  | invalidType (resolver property expected found : String)
  /-- No telltale appears on the definition. -/
  | noMatch (definition : Definition) (known : List String)
  /-- Several telltales appear on the definition. -/
  | ambiguous (definition : Definition) (telltales : List String)
  /-- Two resolvers claim one telltale. -/
  | duplicateTelltale (telltale existing incoming : String)
  /-- A property was being followed already. -/
  | circular (chain : List String)
  /-- A reference points at nothing. -/
  | unresolved (reference : String)
  /-- A handler was wanted. -/
  | notAHandler (property found : String)
  | unsupportedEncoding (resolver encoding : String)
  /-- A path leaves the root directory. -/
  | escape (cause : Escape)
  | io (cause : IoError)
deriving Repr

namespace ResolveError

/-- The sentence that tells the error. -/
def message : ResolveError → String
  | missingProperty property definition => s!"'{property}' argument is required: {definition.text}"
  | invalidType resolver property expected found =>
      s!"'{property}' argument to {resolver} resolver must be a {expected}, but was a: {found}"
  | noMatch definition known =>
      s!"No resolver matches definition {definition.text}; expected one of: "
        ++ ", ".intercalate known
  | ambiguous definition telltales =>
      s!"Ambiguous definition {definition.text}: matches telltales "
        ++ ", ".intercalate telltales
  | duplicateTelltale telltale existing incoming =>
      s!"Telltale '{telltale}' is already claimed by resolver '{existing}', "
        ++ s!"cannot register '{incoming}'"
  | circular chain => "Circular definition: " ++ " -> ".intercalate chain
  | unresolved reference => s!"Unresolved reference '{reference}'"
  | notAHandler property found =>
      s!"Property '{property}' must resolve to a request handler, but resolved to a: {found}"
  | unsupportedEncoding resolver encoding =>
      s!"Unsupported encoding '{encoding}' for {resolver} resolver"
  | escape cause => cause.message
  | io cause => cause.message

/-- Whether the mistake lies in the definition document. -/
def isConfiguration : ResolveError → Bool
  | io _ => false
  | _ => true

end ResolveError

end Signpost
