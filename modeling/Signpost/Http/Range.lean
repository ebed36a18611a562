import Signpost.Text.Pieces

/-!
Byte ranges of a `range` header field: which bytes of a file are asked for, and
whether the file has them.
-/

namespace Signpost

/-- One asked-for range. -/
inductive RangeSpec where
  /-- From a byte on, as far as another one or the end. -/
  | fromTo (first : Nat) (last : Option Nat)
  /-- The last so many bytes. -/
  | suffix (count : Nat)
deriving DecidableEq, Repr

namespace RangeSpec

/-- A number below 2^64 in digits only, without a leading zero. -/
def number? (s : List Char) : Option Nat :=
  if s.isEmpty || !s.all Char.isDigit || (1 < s.length && s.head? == some '0') then none
  else
    let n := s.foldl (fun n c => n * 10 + (c.toNat - 48)) 0
    if n < Nat.pow 2 64 then some n else none

/-- The range between two commas. -/
def ofPart? (s : List Char) : Option RangeSpec :=
  let first := s.takeWhile (· != '-')
  match s.drop first.length with
  | [] => none
  | _ :: last =>
      if first.isEmpty then
        match number? last with
        | some 0 => none
        | some n => some (.suffix n)
        | none => none
      else
        match number? first with
        | none => none
        | some n =>
            if last.isEmpty then some (.fromTo n none)
            else (number? last).map fun m => .fromTo n (some m)

/-- A piece without the one blank that may stand in front of it. -/
def dropBlank (s : List Char) : List Char :=
  if s.head? = some ' ' ∨ s.head? = some '\t' then s.drop 1 else s

/-- All ranges of a header field; a blank may follow a comma. -/
def parse? (value : String) : Option (List RangeSpec) :=
  let chars := value.toList
  let unit := "bytes=".toList
  if unit.isPrefixOf chars then
    match piecesBetween ',' (chars.drop unit.length) with
    | [] => none
    | first :: rest => do
        let head ← ofPart? first
        let tail ← rest.mapM fun part => ofPart? (dropBlank part)
        return head :: tail
  else none

/-- The first and the last byte of a range in a file of a size; a range that
goes beyond the end is cut there. -/
def bounds? (size : Nat) : RangeSpec → Option (Nat × Nat)
  | fromTo first last =>
      let last := min (last.getD (size - 1)) (size - 1)
      if first ≤ last then some (first, last) else none
  | suffix count =>
      if size < count then none
      else if size - count ≤ size - 1 then some (size - count, size - 1)
      else none

/-- Two ranges have a byte in common. -/
def overlap (a b : Nat × Nat) : Bool := a.1 ≤ b.2 && b.1 ≤ a.2

/-- No two of these ranges have a byte in common. -/
def disjoint : List (Nat × Nat) → Bool
  | [] => true
  | a :: rest => rest.all (fun b => !overlap a b) && disjoint rest

/-- The ranges that a header field asks of a file of a size, if the file can
serve all of them. -/
def satisfy? (value : String) (size : Nat) : Option (List (Nat × Nat)) := do
  let ranges ← (← parse? value).mapM (bounds? size)
  if disjoint ranges then some ranges else none

end RangeSpec

end Signpost
