import Signpost.Http.Message
import Signpost.Text.Blank
import Signpost.Text.Pieces

/-!
Content codings in an `accept-encoding` header field: words between commas,
each with an optional weight behind a semicolon.
-/

namespace Signpost

namespace Coding

/-- A weight in thousandths: `q=`, and a number between zero and one with at
most three decimals. -/
def weight? : List Char → Option Nat
  | q :: '=' :: whole :: rest =>
      if (q = 'q' ∨ q = 'Q') ∧ (whole = '0' ∨ whole = '1') then
        let thousands := if whole = '1' then 1000 else 0
        match rest with
        | [] => some thousands
        | '.' :: decimals =>
            if decimals.all Char.isDigit ∧ decimals.length ≤ 3 then
              let parts := List.zipWith (fun unit c => unit * (c.toNat - 48)) [100, 10, 1] decimals
              let value := thousands + parts.foldl Nat.add 0
              if value ≤ 1000 then some value else none
            else none
        | _ => none
      else none
  | _ => none

/-- One item of the field asks for the file as it is. -/
def asksIdentity (item : List Char) : Bool :=
  let name := item.takeWhile (· != ';')
  let weight :=
    match item.drop name.length with
    | [] => some 1000
    | _ :: text => weight? (trimBlanks text)
  foldCase (String.ofList (trimBlanks name)) == "identity" && weight.any (0 < ·)

/-- The header fields name the file as it is among the codings that are welcome. -/
def takesIdentity (headers : Headers) : Bool :=
  (headers.texts "accept-encoding").any fun value =>
    (piecesBetween ',' value.toList).any asksIdentity

end Coding

end Signpost
