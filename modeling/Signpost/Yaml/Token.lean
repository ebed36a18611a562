import Signpost.Yaml.Tag

/-!
Tokens of a document: the marks that structure it and the scalars it holds.
-/

namespace Signpost.Yaml

/-- The smallest meaningful parts of a document. -/
inductive Token where
  /-- The version the document is written for. -/
  | version (major minor : Nat)
  /-- A handle that abbreviates the beginning of tags. -/
  | tagHandle (handle : List Char) (meaning : Tag)
  | documentStart
  | documentEnd
  | sequenceStart
  | mappingStart
  /-- The end of an indented sequence or mapping. -/
  | blockEnd
  | flowSequenceStart
  | flowSequenceEnd
  | flowMappingStart
  | flowMappingEnd
  /-- An item of an indented sequence. -/
  | entry
  /-- The comma between items in brackets. -/
  | flowEntry
  | key
  | value
  | aliasOf (name : List Char)
  | anchor (name : List Char)
  | tag (handle : List Char) (suffix : Tag)
  | scalar (plain : Bool) (text : List Char)
deriving DecidableEq, Repr

end Signpost.Yaml
