import Signpost.Json
import Signpost.Yaml.Tag

/-!
What plain scalars mean.  An unquoted word is null, a truth value, an integer,
a float or, where none of these fits, text.  Digits behind a leading zero are
text, integers of more than 64 bits are refused, and a float that is not finite
becomes null.
-/

namespace Signpost.Yaml

/-- The words for null. -/
def nullWords : List String := ["~", "null", "Null", "NULL"]

/-- The words for the truth values. -/
def boolWords : List (String × Bool) :=
  [("true", true), ("True", true), ("TRUE", true), ("false", false), ("False", false),
   ("FALSE", false)]

/-- The value of a digit in a radix up to sixteen. -/
def radixDigit? (radix : Nat) (c : Char) : Option Nat :=
  let n := c.toNat
  let value :=
    if 48 ≤ n ∧ n ≤ 57 then n - 48
    else if 97 ≤ n ∧ n ≤ 102 then n - 87
    else if 65 ≤ n ∧ n ≤ 70 then n - 55
    else 16
  if value < radix then some value else none

/-- The number that a nonempty run of digits spells. -/
def natOfDigits? (radix : Nat) : List Char → Option Nat
  | [] => none
  | digits => digits.foldlM (fun n c => (radixDigit? radix c).map (n * radix + ·)) 0

/-- Digits behind a leading zero, with or without a sign: text, not a number. -/
def isZeroPadded (s : List Char) : Bool :=
  let digits :=
    match s with
    | '-' :: rest => rest
    | '+' :: rest => rest
    | _ => s
  match digits with
  | '0' :: d :: rest => (d :: rest).all Char.isDigit
  | _ => false

/-- The integer a word spells without regard to its size: decimal, or behind
`0x`, `0o` and `0b` in the radix they name, with a sign in front of it all. -/
def intOfWord? (s : List Char) : Option Int :=
  let (negative, digits) :=
    match s with
    | '-' :: rest => (true, rest)
    | '+' :: rest => (false, rest)
    | _ => (false, s)
  let radixed :=
    match digits with
    | '0' :: 'x' :: rest => natOfDigits? 16 rest
    | '0' :: 'o' :: rest => natOfDigits? 8 rest
    | '0' :: 'b' :: rest => natOfDigits? 2 rest
    | _ => none
  let magnitude := radixed <|> if isZeroPadded s then none else natOfDigits? 10 digits
  magnitude.map fun n => if negative then -(n : Int) else n

/-- The integers that fit into 64 bits, signed or not. -/
def fitsWord (i : Int) : Bool := -Int.pow 2 63 ≤ i && i < Int.pow 2 64

/-- The integers that fit into 128 bits, signed or not. -/
def fitsDoubleWord (i : Int) : Bool := -Int.pow 2 127 ≤ i && i < Int.pow 2 128

/-- The parts of a decimal: all its digits as one number, and the power of ten
that scales it. -/
def decimalOfWord? (s : List Char) : Option (Nat × Int) := do
  let whole := s.takeWhile Char.isDigit
  let rest := s.drop whole.length
  let (fraction, rest) :=
    match rest with
    | '.' :: more => (more.takeWhile Char.isDigit, more.dropWhile Char.isDigit)
    | _ => ([], rest)
  let digits ← natOfDigits? 10 (whole ++ fraction)
  let exponent ←
    match rest with
    | [] => some (0 : Int)
    | e :: more =>
        if e = 'e' ∨ e = 'E' then
          match more with
          | '-' :: ds => (natOfDigits? 10 ds).map fun n => -(n : Int)
          | '+' :: ds => (natOfDigits? 10 ds).map Int.ofNat
          | ds => (natOfDigits? 10 ds).map Int.ofNat
        else none
  return (digits, exponent - fraction.length)

/-- The words for what is no finite number. -/
def nonFiniteWords : List String :=
  [".inf", ".Inf", ".INF", "+.inf", "+.Inf", "+.INF", "-.inf", "-.Inf", "-.INF",
   ".nan", ".NaN", ".NAN"]

/-- The float a word spells; null for what is no finite number.  A decimal
beyond the doubles is no float. -/
def floatOfWord? (s : List Char) : Option Json :=
  if nonFiniteWords.contains (String.ofList s) then some .null
  else
    let (negative, rest) :=
      match s with
      | '-' :: rest => (true, rest)
      | '+' :: rest => (false, rest)
      | _ => (false, s)
    (decimalOfWord? rest).bind fun (digits, power) =>
      (Double.ofDecimal? negative digits power).map .float

/-- An integer as data, or nothing where it is refused for its size. -/
def integerData (i : Int) : Option Json :=
  if fitsWord i then some (.integer i) else none

/-- What an unquoted scalar means, or nothing where it is refused. -/
def plainData (s : List Char) : Option Json :=
  let word := String.ofList s
  if s = [] ∨ nullWords.contains word then some .null
  else
    match boolWords.lookup word with
    | some b => some (.bool b)
    | none =>
        match (intOfWord? s).filter fitsDoubleWord with
        | some i => integerData i
        | none =>
            if isZeroPadded s then some (.string word)
            else some ((floatOfWord? s).getD (.string word))

/-- What a scalar with a tag means, or nothing where it does not fit its tag.
Local tags are refused.  Behind an exclamation mark and no text a tag has no
meaning, as if it were not there; any other tag makes a text. -/
def taggedData (tag : Tag) (plain : Bool) (s : List Char) : Option Json :=
  let word := String.ofList s
  if tag.isLocal then none
  else if tag = .core "bool" then (boolWords.lookup word).map .bool
  else if tag = .core "int" then ((intOfWord? s).filter fitsDoubleWord).bind integerData
  else if tag = .core "float" then floatOfWord? s
  else if tag = .core "null" then if nullWords.contains word then some .null else none
  else if tag.isMarked && plain then plainData s
  else some (.string word)

/-- What a scalar means. -/
def scalarData (tag : Option Tag) (plain : Bool) (s : List Char) : Option Json :=
  match tag with
  | some t => taggedData t plain s
  | none => if plain then plainData s else some (.string (String.ofList s))

end Signpost.Yaml
