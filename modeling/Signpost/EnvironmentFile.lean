import Signpost.Disk
import Signpost.Environment
import Signpost.Text.Alphanumeric
import Signpost.Text.Blank

/-!
Files of variables.  Each line assigns a value to a name; quotes and
backslashes may carry a value over several lines, and a value may hold the
values of other variables.  What is set already stays, and the first mistake
ends the reading with what came before it in force.
-/

namespace Signpost

namespace EnvironmentFile

/-- The name of the file. -/
def fileName : String := ".env"

/-! ## Lines -/

/-- Where the reading of a line stands between two characters. -/
inductive LinePlace where
  | plain
  /-- Behind a blank. -/
  | gap
  /-- Behind a backslash. -/
  | escape
  /-- Between double quotes. -/
  | weak
  | weakEscape
  /-- Between single quotes. -/
  | strong
  | strongEscape
deriving DecidableEq, Repr

namespace LinePlace

/-- What a character outside quotes opens. -/
def opened : Char → LinePlace
  | '\\' => escape
  | '\x22' => weak
  | '\x27' => strong
  | _ => plain

/-- The place behind a character; a `#` in a gap begins a comment instead. -/
def next : LinePlace → Char → LinePlace
  | gap, c => opened c
  | escape, _ => plain
  | plain, c => if isBlank c && c != '\n' && c != '\r' then gap else opened c
  | weak, '\\' => weakEscape
  | weak, '\x22' => plain
  | weak, _ => weak
  | weakEscape, _ => weak
  | strong, '\\' => strongEscape
  | strong, '\x27' => plain
  | strong, _ => strong
  | strongEscape, _ => strong

end LinePlace

/-- How a line ends: somewhere, or with a comment behind some text. -/
inductive LineEnd where
  | place (place : LinePlace)
  | comment (before : List Char)
deriving DecidableEq, Repr

/-- Read a line to its end; `before` holds what has been read, the last first. -/
def lineEnd (place : LinePlace) (before : List Char) : List Char → LineEnd
  | [] => .place place
  | c :: rest =>
      if place = .gap ∧ c = '#' then .comment before.reverse
      else lineEnd (place.next c) (c :: before) rest

/-- The text without the line feed at its end, or the carriage return and the
line feed. -/
def dropLineFeed (text : List Char) : List Char :=
  match text.reverse with
  | '\n' :: '\r' :: rest => rest.reverse
  | '\n' :: rest => rest.reverse
  | _ => text

/-- The first character that is not blank is a `#`. -/
def isComment (text : List Char) : Bool :=
  (text.dropWhile isBlank).head? == some '#'

/-- The lines joined to whole statements.  `held` is what earlier lines left
open, and nothing stands for a statement that cannot be read, after which no
more follow. -/
def statements (held : List Char) (place : LinePlace) :
    List (Option (List Char)) → List (Option (List Char))
  | [] => if place = .plain then [] else [none]
  | none :: _ => [none]
  | some line :: rest =>
      let text := held ++ line
      if isComment text then some [] :: statements [] .plain rest
      else
        match lineEnd place [] line with
        | .comment before => some (held ++ before) :: statements [] .plain rest
        | .place .plain => some (dropLineFeed text) :: statements [] .plain rest
        | .place open_ => statements text open_ rest

/-- The lines of a file, each with the line feed at its end. -/
def splitLines : List UInt8 → List (List UInt8)
  | [] => []
  | b :: rest =>
      if b = 0x0A then [b] :: splitLines rest
      else
        match splitLines rest with
        | [] => [[b]]
        | line :: lines => (b :: line) :: lines

/-- The characters of a line, where its bytes are well-formed UTF-8. -/
def lineText? (line : List UInt8) : Option (List Char) :=
  (String.fromUTF8? ⟨line.toArray⟩).map String.toList

/-- The file without the mark that may begin it. -/
def dropMark : List UInt8 → List UInt8
  | 0xEF :: 0xBB :: 0xBF :: rest => rest
  | content => content

/-- The statements of a file. -/
def ofBytes (content : ByteArray) : List (Option (List Char)) :=
  statements [] .plain ((splitLines (dropMark content.data.toList)).map lineText?)

/-! ## Values -/

/-- Where the reading of a value stands between two characters. -/
inductive ValuePlace where
  | plain
  /-- Between double quotes. -/
  | weak
  /-- Between single quotes. -/
  | strong
  /-- Behind a backslash. -/
  | escape (inQuotes : Bool)
  /-- In a name behind a dollar sign. -/
  | name (inQuotes : Bool) (begun : List Char)
  /-- In a name between braces. -/
  | braced (inQuotes : Bool) (begun : List Char)
  /-- Behind the value. -/
  | over
deriving DecidableEq, Repr

/-- The place that text goes on at. -/
def ValuePlace.text (inQuotes : Bool) : ValuePlace :=
  if inQuotes then weak else plain

/-- The character that one behind a backslash stands for. -/
def escaped? (c : Char) : Option Char :=
  if c = '\\' ∨ c = '\x27' ∨ c = '\x22' ∨ c = '$' ∨ c = ' ' then some c
  else if c = 'n' then some '\n'
  else none

/-- The value that a text spells.  `lookup` gives the values of other variables;
their names are kept with the last character first. -/
def value? (lookup : String → String) (place : ValuePlace) : List Char → Option (List Char)
  | [] =>
      match place with
      | .plain | .escape false | .over => some []
      | .name false begun => some (lookup (String.ofList begun.reverse)).toList
      | _ => none
  | c :: rest =>
      match place with
      | .over =>
          if c = ' ' ∨ c = '\t' then value? lookup .over rest
          else if c = '#' then some []
          else none
      | .escape inQuotes => do
          let d ← escaped? c
          return d :: (← value? lookup (.text inQuotes) rest)
      | .strong =>
          if c = '\x27' then value? lookup .plain rest
          else (c :: ·) <$> value? lookup .strong rest
      | .name inQuotes begun =>
          if isAlphanumeric c then value? lookup (.name inQuotes (c :: begun)) rest
          else if c = '\x7b' ∧ begun = [] then value? lookup (.braced inQuotes []) rest
          else do
            let found := (lookup (String.ofList begun.reverse)).toList
            if c = '$' then return found ++ (← value? lookup (.name inQuotes []) rest)
            else return found ++ c :: (← value? lookup (.text inQuotes) rest)
      | .braced inQuotes begun =>
          if c = '\x7d' then do
            let found := (lookup (String.ofList begun.reverse)).toList
            return found ++ (← value? lookup (.text inQuotes) rest)
          else value? lookup (.braced inQuotes (c :: begun)) rest
      | .weak =>
          if c = '$' then value? lookup (.name true []) rest
          else if c = '\x22' then value? lookup .plain rest
          else if c = '\\' then value? lookup (.escape true) rest
          else (c :: ·) <$> value? lookup .weak rest
      | .plain =>
          if c = '$' then value? lookup (.name false []) rest
          else if c = '\x27' then value? lookup .strong rest
          else if c = '\x22' then value? lookup .weak rest
          else if c = '\\' then value? lookup (.escape false) rest
          else if c = ' ' ∨ c = '\t' then value? lookup .over rest
          else (c :: ·) <$> value? lookup .plain rest

/-! ## Statements -/

/-- What a statement says. -/
inductive Statement where
  | nothing
  | assign (name value : String)
deriving DecidableEq, Repr

/-- The characters of a name, the first of which is no digit and no dot. -/
def isNameChar (c : Char) : Bool := c.isAlphanum || c == '_' || c == '.'

/-- The name that a text begins with, and the rest behind the blanks after it. -/
def takeName? (text : List Char) : Option (String × List Char) :=
  match text with
  | c :: _ =>
      if c.isAlpha || c == '_' then
        some (String.ofList (text.takeWhile isNameChar),
          (text.dropWhile isNameChar).dropWhile isBlank)
      else none
  | [] => none

/-- The rest behind the equals sign that a text begins with, and the blanks
after it. -/
def takeEquals? : List Char → Option (List Char)
  | '=' :: rest => some (rest.dropWhile isBlank)
  | _ => none

/-- The name that is assigned to, and the rest behind the equals sign.  The
word `export` may stand before the name, or be the name. -/
def takeTarget? (text : List Char) : Option (String × List Char) := do
  let (name, rest) ← takeName? text
  match takeEquals? rest with
  | some value => return (name, value)
  | none =>
      if name = "export" then
        let (name, rest) ← takeName? rest
        return (name, ← takeEquals? rest)
      else none

/-- Read a statement. -/
def statement? (lookup : String → String) (text : List Char) : Option Statement := do
  let text := trimBlanks text
  if text.isEmpty || isComment text then return .nothing
  let (name, rest) ← takeTarget? text
  if rest.isEmpty || isComment rest then return .assign name ""
  return .assign name (String.ofList (← value? lookup .plain rest))

end EnvironmentFile

namespace Environment

/-- What is left of a text behind a beginning and an equals sign. -/
def behind? (beginning text : List Char) : Option (List Char) :=
  let start := beginning ++ ['=']
  if start.isPrefixOf text then some (text.drop start.length) else none

/-- The value asked for by a name.  A variable is looked up by the text before its
value, so a name may go on into the value: where `A` holds `b=c`, the name `A=b`
has the value `c`. -/
def asked? (e : Environment) (name : String) : Option String :=
  let proper := name.toList.takeWhile (· != '=')
  match name.toList.drop proper.length with
  | [] => e.get? name
  | _ :: beginning =>
      (e.get? (String.ofList proper)).bind fun value =>
        (behind? beginning value.toList).map String.ofList

/-- The value asked for by a name, or nothing. -/
def valueOf (e : Environment) (name : String) : String := (e.asked? name).getD ""

/-- The environment after the statements of a file.  None comes of a value that
holds the character NUL, which no variable can. -/
def follow? (e : Environment) : List (Option (List Char)) → Option Environment
  | [] => some e
  | none :: _ => some e
  | some text :: rest =>
      match EnvironmentFile.statement? e.valueOf text with
      | none => some e
      | some .nothing => e.follow? rest
      | some (.assign name value) =>
          if (e.get? name).isSome then e.follow? rest
          else if value.toList.contains '\x00' then none
          else (e.set name value).follow? rest

/-- The file of variables in a directory or the nearest one above it; none if
the search fails on the way. -/
def nearestFile? (disk : Disk) : List Path → Option ByteArray
  | [] => none
  | directory :: above =>
      match disk.find (directory.join ⟨EnvironmentFile.fileName⟩) with
      | .ok (_, .file content _) => some content
      | .ok _ => nearestFile? disk above
      | .error e => if e = .notFound then nearestFile? disk above else none

/-- The environment after the file of variables nearest to the current
directory, if there is one. -/
def withNearestFile? (e : Environment) (disk : Disk) : Option Environment :=
  match nearestFile? disk disk.herePath.ancestors with
  | some content => e.follow? (EnvironmentFile.ofBytes content)
  | none => some e

end Environment

end Signpost
