/-!
Failures of the world around the server: what went wrong in general, and the
sentence that says it.
-/

namespace Signpost

/-- The general sort of a failure. -/
inductive IoErrorKind where
  | notFound
  | permissionDenied
  | notADirectory
  | isADirectory
  | invalidFilename
  | filesystemLoop
  | invalidData
  | invalidInput
  | addressInUse
  | other
deriving DecidableEq, Repr

/-- A failure with the sentence that tells it. -/
structure IoError where
  kind : IoErrorKind
  message : String
deriving DecidableEq, Repr

namespace IoError

/-- A failure that only its sentence describes. -/
def other (message : String) : IoError := ⟨.other, message⟩

def notFound : IoError := ⟨.notFound, "No such file or directory (os error 2)"⟩

def notADirectory : IoError := ⟨.notADirectory, "Not a directory (os error 20)"⟩

def isADirectory : IoError := ⟨.isADirectory, "Is a directory (os error 21)"⟩

def nameTooLong : IoError := ⟨.invalidFilename, "File name too long (os error 36)"⟩

def tooManyLinks : IoError := ⟨.filesystemLoop, "Too many levels of symbolic links (os error 40)"⟩

def notUtf8 : IoError := ⟨.invalidData, "stream did not contain valid UTF-8"⟩

def nulInName : IoError := ⟨.invalidInput, "file name contained an unexpected NUL byte"⟩

def addressInUse : IoError := ⟨.addressInUse, "Address already in use (os error 98)"⟩

end IoError

end Signpost
