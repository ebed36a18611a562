import Signpost.Http.MediaType.Application
import Signpost.Http.MediaType.Audio
import Signpost.Http.MediaType.Experimental
import Signpost.Http.MediaType.Image
import Signpost.Http.MediaType.Other
import Signpost.Http.MediaType.Text
import Signpost.Http.MediaType.Vendor
import Signpost.Http.MediaType.Video
import Signpost.Path

/-!
Media types by the extension of a file's name.
-/

namespace Signpost

/-- The formats that the server knows.  No extension stands in two of them. -/
def mediaFormats : List MediaFormat :=
  textFormats ++ imageFormats ++ applicationFormats ++ audioFormats ++ videoFormats ++
    otherFormats ++ experimentalFormats ++ vendorFormats

/-- The type of a file of no known extension. -/
def unknownMediaType : String := "application/octet-stream"

/-- What stands behind the last dot of a name, unless the name begins with it. -/
def extension? (name : String) : Option String :=
  let tail := name.toList.reverse.takeWhile (· != '.')
  if tail.length + 1 < name.length then some (String.ofList tail.reverse) else none

/-- A letter without its case: a sharp or long s, the kelvin sign and the joined letters stand
for the letters that they are read as. -/
def withoutCase : Char → List Char
  | '\u00df' => ['s', 's']
  | '\u1e9e' => ['s', 's']
  | '\u017f' => ['s']
  | '\u212a' => ['k']
  | '\ufb00' => ['f', 'f']
  | '\ufb01' => ['f', 'i']
  | '\ufb02' => ['f', 'l']
  | '\ufb03' => ['f', 'f', 'i']
  | '\ufb04' => ['f', 'f', 'l']
  | '\ufb05' => ['s', 't']
  | '\ufb06' => ['s', 't']
  | c => [c.toLower]

/-- The type of a file by its path. -/
def mediaType (p : Path) : String :=
  match p.fileName?.bind extension? with
  | none => unknownMediaType
  | some ext =>
      (mediaTypeAmong? mediaFormats (String.ofList (ext.toList.flatMap withoutCase))).getD
        unknownMediaType

end Signpost
