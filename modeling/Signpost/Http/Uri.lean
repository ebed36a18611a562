/-!
Request targets: a path with an optional query, alone or behind a scheme and an
authority; an authority alone; or an asterisk.
-/

namespace Signpost

/-- A request target.  The path is empty only where an authority stands alone. -/
structure Uri where
  scheme : Option String
  authority : Option String
  path : String
  query : Option String
deriving DecidableEq, Repr, Inhabited

namespace Uri

/-- The longest target, in bytes. -/
def maxSize : Nat := 65534

/-- The characters that may stand in a path as they are. -/
def isPathChar (c : Char) : Bool :=
  let n := c.toNat
  n == 0x21 || n == 0x22 || (0x24 ≤ n && n ≤ 0x3B) || n == 0x3D || (0x40 ≤ n && n ≤ 0x5F)
    || (0x61 ≤ n && n ≤ 0x7E) || 0x7F ≤ n

/-- The characters that may stand in a query as they are. -/
def isQueryChar (c : Char) : Bool :=
  let n := c.toNat
  n == 0x21 || (0x24 ≤ n && n ≤ 0x3B) || n == 0x3D || 0x3F ≤ n

/-- The characters that may stand in an authority. -/
def isAuthorityChar (c : Char) : Bool :=
  c.isAlphanum || ['-', '.', '_', '~', '!', '$', '&', '\x27', '(', ')', '*', '+', ',', ';', '=',
    ':', '@', '[', ']', '%'].contains c

/-- A path and a query, as far as a fragment; nothing where a character has no
place there. -/
def pathAndQuery? (text : List Char) : Option (String × Option String) :=
  let text := text.takeWhile (· != '#')
  let path := text.takeWhile (· != '?')
  let rest := text.drop path.length
  if path.all isPathChar && (rest.drop 1).all isQueryChar then
    some (String.ofList path, if rest.isEmpty then none else some (String.ofList (rest.drop 1)))
  else none

/-- The characters that may stand in a scheme. -/
def isSchemeChar (c : Char) : Bool :=
  c.isAlphanum || ['+', '-', '.', '~'].contains c

/-- The scheme before `://` in lower case where it is one of the web's own. -/
def scheme? (text : List Char) : Option (String × List Char) :=
  let name := text.takeWhile isSchemeChar
  match text.drop name.length with
  | ':' :: '/' :: '/' :: rest =>
      let spelled := String.ofList name
      let lower := String.ofList (name.map Char.toLower)
      some (if lower = "http" || lower = "https" then lower else spelled, rest)
  | _ => none

/-- The target that a text spells. -/
def parse? (text : String) : Option Uri :=
  let chars := text.toList
  if maxSize < text.utf8ByteSize then none
  else if chars = ['*'] then some ⟨none, none, "*", none⟩
  else if chars.head? = some '/' then
    (pathAndQuery? chars).map fun (path, query) => ⟨none, none, path, query⟩
  else
    match scheme? chars with
    | some (scheme, rest) =>
        let authority := rest.takeWhile fun c => c != '/' && c != '?' && c != '#'
        if authority.isEmpty || !authority.all isAuthorityChar then none
        else
          (pathAndQuery? (rest.drop authority.length)).map fun (path, query) =>
            ⟨some scheme, some (String.ofList authority), if path = "" then "/" else path, query⟩
    | none =>
        if chars.isEmpty || !chars.all isAuthorityChar then none
        else some ⟨none, some text, "", none⟩

/-- The spelling of a target. -/
def text (uri : Uri) : String :=
  let start := match uri.scheme with
    | some scheme => scheme ++ "://"
    | none => ""
  let finish := match uri.query with
    | some query => "?" ++ query
    | none => ""
  start ++ uri.authority.getD "" ++ uri.path ++ finish

/-- The target with another path, all else kept.  The path and the query are
read anew, and must be what was meant to be written. -/
def withPath? (uri : Uri) (path : String) : Option Uri :=
  let written := match uri.query with
    | some query => path ++ "?" ++ query
    | none => path
  if maxSize < written.utf8ByteSize then none
  else
    (pathAndQuery? written.toList).bind fun (path, query) =>
      if path.toList.head? = some '/' ∧ (uri.scheme.isSome ∨ uri.authority.isNone) then
        some { uri with path, query }
      else none

end Uri

end Signpost
