/-!
Tags of nodes.  Escapes can spell any bytes, also such as encode no text, so a
tag is held as bytes.
-/

namespace Signpost.Yaml

/-- The bytes of a tag. -/
structure Tag where
  bytes : List UInt8
deriving DecidableEq, Repr

namespace Tag

/-- The tag that ASCII characters spell. -/
def ofChars (cs : List Char) : Tag := ⟨cs.map fun c => c.toNat.toUInt8⟩

/-- The tag of all that `!!` abbreviates. -/
def core (name : String) : Tag := ofChars ("tag:yaml.org,2002:" ++ name).toList

/-- What a tag says: it ends before its first zero byte. -/
def ended (tag : Tag) : Tag := ⟨tag.bytes.takeWhile (· != 0)⟩

/-- A handle's meaning with the rest of a tag behind it. -/
def join (meaning suffix : Tag) : Tag := ⟨meaning.bytes ++ suffix.bytes⟩

/-- An exclamation mark comes first. -/
def isMarked (tag : Tag) : Bool := tag.bytes.head? == some 0x21

/-- A tag of the document's own invention: a text behind an exclamation mark. -/
def isLocal (tag : Tag) : Bool :=
  tag.isMarked && (String.fromUTF8? ⟨(tag.bytes.drop 1).toArray⟩).isSome

end Tag

end Signpost.Yaml
