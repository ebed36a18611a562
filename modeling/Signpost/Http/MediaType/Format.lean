/-!
Formats of files: a media type and the extensions that tell it.
-/

namespace Signpost

/-- A media type with the extensions, in small letters, of the files that hold it. -/
structure MediaFormat where
  mediaType : String
  extensions : List String
deriving Repr

/-- The media type that a list of formats gives to an extension. -/
def mediaTypeAmong? (formats : List MediaFormat) (ext : String) : Option String :=
  (formats.find? (·.extensions.contains ext)).map MediaFormat.mediaType

end Signpost
