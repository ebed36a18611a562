/-!
Blank characters: the White_Space property of Unicode, and the trimming and
ASCII case folding that settings and document values go through.
-/

namespace Signpost

/-- The first and last code point of every run of white space. -/
def blankRanges : List (Nat × Nat) :=
  [(0x09, 0x0D), (0x20, 0x20), (0x85, 0x85), (0xA0, 0xA0), (0x1680, 0x1680),
   (0x2000, 0x200A), (0x2028, 0x2029), (0x202F, 0x202F), (0x205F, 0x205F),
   (0x3000, 0x3000)]

/-- A character that carries no ink: Unicode's White_Space. -/
def isBlank (c : Char) : Bool :=
  blankRanges.any fun range => range.1 ≤ c.toNat && c.toNat ≤ range.2

/-- The text without the blanks at its two ends. -/
def trimBlanks (s : List Char) : List Char :=
  ((s.dropWhile isBlank).reverse.dropWhile isBlank).reverse

/-- A text that holds nothing but blanks. -/
def isBlankText (s : String) : Bool :=
  s.toList.all isBlank

/-- The lower-case form of the Latin capitals; every other character stays.
The words compared with it hold no `k` and no `i`, and those are the only
ASCII letters that are the lower case of a letter outside ASCII. -/
def foldCase (s : String) : String :=
  String.ofList (s.toList.map Char.toLower)

end Signpost
