/-!
References: texts that begin with a dollar sign and stand for a value kept
elsewhere, either a property of the document's root or a variable of the
environment.  A doubled dollar sign is no reference, nor is a lone one.
-/

namespace Signpost

/-- A pointer to a value that lives elsewhere. -/
inductive Reference where
  /-- A property of the root of the same document. -/
  | property (name : String)
  /-- A variable of the environment. -/
  | env (name : String)
deriving DecidableEq, Repr

namespace Reference

/-- The reference that the characters of a raw text spell. -/
def ofChars? : List Char → Option Reference
  | '$' :: '$' :: _ => none
  | '$' :: 'e' :: 'n' :: 'v' :: '.' :: c :: rest => some (env (String.ofList (c :: rest)))
  | '$' :: c :: rest => some (property (String.ofList (c :: rest)))
  | _ => none

/-- The reference that a raw text of a document spells. -/
def parse? (raw : String) : Option Reference :=
  ofChars? raw.toList

/-- The name referred to, without its namespace. -/
def name : Reference → String
  | property name => name
  | env name => name

/-- The spelling of a reference in a document. -/
def text : Reference → String
  | property name => "$" ++ name
  | env name => "$env." ++ name

end Reference

end Signpost
