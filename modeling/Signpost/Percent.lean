/-!
Percent coding.  A percent sign with two hexadecimal digits stands for a byte;
a percent sign without them stands for itself.
-/

namespace Signpost

namespace Percent

/-- The value of a hexadecimal digit, given as its byte. -/
def digitValue? (b : UInt8) : Option Nat :=
  let n := b.toNat
  if 48 ≤ n ∧ n ≤ 57 then some (n - 48)
  else if 97 ≤ n ∧ n ≤ 102 then some (n - 87)
  else if 65 ≤ n ∧ n ≤ 70 then some (n - 55)
  else none

/-- The byte that two digits spell. -/
def pairValue? (high low : UInt8) : Option UInt8 :=
  match digitValue? high, digitValue? low with
  | some h, some l => some (UInt8.ofNat (h * 16 + l))
  | _, _ => none

/-- The bytes that a coded text stands for. -/
def decodeBytes : List UInt8 → List UInt8
  | [] => []
  | [b] => [b]
  | [b, c] => [b, c]
  | b :: high :: low :: rest =>
      if b = 0x25 then
        match pairValue? high low with
        | some byte => byte :: decodeBytes rest
        | none => b :: decodeBytes (high :: low :: rest)
      else b :: decodeBytes (high :: low :: rest)

/-- The text that a coded text stands for, where its bytes are well-formed UTF-8. -/
def decode? (s : String) : Option String :=
  String.fromUTF8? ⟨(decodeBytes s.toUTF8.data.toList).toArray⟩

end Percent

end Signpost
