import Signpost.Base64
import Signpost.Resolver.Directory

/-!
The contents of files, as text or in base64.
-/

namespace Signpost

/-- How the contents of a file become a text. -/
inductive FileEncoding where
  /-- The contents must be UTF-8. -/
  | utf8
  | base64
deriving DecidableEq, Repr

namespace FileEncoding

/-- The encoding a word names. -/
def ofText? (raw : String) : Option FileEncoding :=
  let word := foldCase raw
  if word = "utf-8" ∨ word = "utf8" then some utf8
  else if word = "base64" then some base64
  else none

/-- The text of a file's contents. -/
def decode (encoding : FileEncoding) (content : ByteArray) : Except IoError String :=
  match encoding with
  | utf8 => Disk.decodeText content
  | base64 => .ok (String.ofList (Base64.encode content.data.toList))

end FileEncoding

namespace Resolver

/-- The encoding that a definition asks for. -/
def encodingOf (scope : Scope) (d : Definition) : Resolving FileEncoding := do
  match ← scope.upward? d "encoding" with
  | none => return .utf8
  | some artifact =>
      let raw ← requireString "file" "encoding" artifact
      match FileEncoding.ofText? raw with
      | some encoding => return encoding
      | none => throw (.unsupportedEncoding "file" raw)

/-- Resolves a definition to the contents of its `file`. -/
def file (options : ResolverOptions) : Resolver where
  sort := "file"
  telltale := "file"
  resolve scope d := do
    if !d.has "file" then throw (.missingProperty "file" d)
    let name ← requireString "file" "file" (← scope.upward d "file")
    let encoding ← encodingOf scope d
    let path ← Resolving.confine options.rootPath (scope.document.path.resolveAgainst name)
    let content ← Resolving.read path
    match encoding.decode content with
    | .ok text => return .string text
    | .error e => throw (.io e)

end Resolver

end Signpost
