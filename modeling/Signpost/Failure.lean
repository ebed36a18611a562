import Signpost.Document
import Signpost.ResolveError
import Signpost.Settings

/-!
Why a server does not run, and the report of it: a sentence, and below it the
causes one under the other.
-/

namespace Signpost

/-- Why requests do not come in. -/
inductive TransportError where
  | bind (address : String) (cause : IoError)
  | http (cause : IoError)
deriving DecidableEq, Repr

/-- The sentence that tells the error. -/
def TransportError.message : TransportError → String
  | bind address cause => s!"Failed to bind to {address}: {cause.message}"
  | http cause => s!"HTTP error: {cause.message}"

/-- Why a server does not run. -/
inductive Failure where
  | definition (error : DocumentError)
  | resolution (error : ResolveError)
  | transport (error : TransportError)
  | settings (error : SettingsError)

/-- The sentence that tells the failure. -/
def Failure.message : Failure → String
  | definition error => "Definition error: " ++ error.message
  | resolution error => "Resolution error: " ++ error.message
  | transport error => "Transport error: " ++ error.message
  | settings error => "Configuration error: " ++ error.message

/-- A sentence, and the causes of what it tells, each the cause of the one
before it. -/
structure Report where
  message : String
  causes : List String
deriving DecidableEq, Repr

namespace Report

/-- The text with blanks before every line but the first. -/
def indented (blanks : String) (text : String) : String :=
  String.ofList (text.toList.flatMap fun c => if c = '\n' then '\n' :: blanks.toList else [c])

/-- The lines of several causes, numbered from `n`. -/
def numbered (n : Nat) : List String → List String
  | [] => []
  | cause :: rest =>
      (String.ofList (List.replicate (5 - (toString n).length) ' ') ++ s!"{n}: "
        ++ indented "       " cause) :: numbered (n + 1) rest

/-- The text of a report. -/
def text (r : Report) : String :=
  "Error: " ++ r.message ++
    match r.causes with
    | [] => ""
    | [cause] => "\n\nCaused by:\n    " ++ indented "    " cause
    | causes => "\n\nCaused by:\n" ++ "\n".intercalate (numbered 0 causes)

end Report

/-- The causes of a document that could not be had. -/
def DocumentError.causes : DocumentError → List String
  | unreadable _ cause => [cause.message]
  | illFormed _ => []
  | notAMapping _ _ => []

/-- The report of requests that do not come in. -/
def TransportError.report (e : TransportError) : Report :=
  match e with
  | bind _ cause => ⟨e.message, [cause.message]⟩
  | http cause => ⟨e.message, [cause.message]⟩

/-- The report of a failure. -/
def Failure.report (f : Failure) : Report :=
  match f with
  | definition e => ⟨f.message, e.message :: e.causes⟩
  | resolution e => ⟨f.message, [e.message]⟩
  | transport e => ⟨f.message, e.message :: e.report.causes⟩
  | settings _ => ⟨f.message, []⟩

end Signpost
