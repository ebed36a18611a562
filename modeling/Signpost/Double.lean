/-!
Finite double-precision numbers, kept as the bits of their binary form so that
reading and printing them is exact arithmetic on naturals.  A decimal is read
to the nearest double, halves to the even pattern; a double is printed with
the fewest digits that are read back as the same double.
-/

namespace Signpost

/-- A finite double: its sign, and the exponent and fraction bits as one
number, whose order is the order of the absolute values. -/
structure Double where
  negative : Bool
  magnitude : Nat
deriving DecidableEq, Repr

namespace Double

/-- The magnitude pattern at which the finite doubles end. -/
def infinity : Nat := 0x7FF * Nat.pow 2 52

/-- The integer that a power of two scales to the absolute value. -/
def significand (x : Double) : Nat :=
  if x.magnitude < Nat.pow 2 52 then x.magnitude
  else x.magnitude % Nat.pow 2 52 + Nat.pow 2 52

/-- The power of two that scales the significand. -/
def scale (x : Double) : Int :=
  if x.magnitude < Nat.pow 2 52 then -1074 else (x.magnitude / Nat.pow 2 52 : Nat) - 1075

/-- Two doubles denote the same number; the zeros of either sign agree. -/
def same (x y : Double) : Bool :=
  x.magnitude == y.magnitude && (x.negative == y.negative || x.magnitude == 0)

theorem same_refl (x : Double) : x.same x = true := by
  simp [same]

/-- A quotient rounded to the nearest integer, halves to the even one. -/
def roundQuotient (num den : Nat) : Nat :=
  let whole := num / den
  let rest := num % den
  if 2 * rest < den || (2 * rest == den && whole % 2 == 0) then whole else whole + 1

/-- A fraction over a power of two, as numerator and denominator. -/
def unscale (num den : Nat) (power : Int) : Nat × Nat :=
  if power < 0 then (num * Nat.pow 2 power.natAbs, den)
  else (num, den * Nat.pow 2 power.natAbs)

/-- The magnitude pattern nearest to a positive fraction. -/
def nearestPattern (num den : Nat) : Nat :=
  let guess := (num.log2 : Int) - den.log2 - 53
  let low := unscale num den guess
  let power := max (if low.1 < low.2 * Nat.pow 2 53 then guess else guess + 1) (-1074)
  let scaled := unscale num den power
  (power + 1074).toNat * Nat.pow 2 52 + roundQuotient scaled.1 scaled.2

/-- The double nearest to `digits · 10 ^ power`, or nothing when that lies
beyond the finite doubles. -/
def ofDecimal? (negative : Bool) (digits : Nat) (power : Int) : Option Double :=
  if digits = 0 then some ⟨negative, 0⟩
  else
    let top := (Nat.toDigits 10 digits).length + power
    if top > 310 then none
    else if top < -330 then some ⟨negative, 0⟩
    else
      let pattern :=
        if power < 0 then nearestPattern digits (Nat.pow 10 power.natAbs)
        else nearestPattern (digits * Nat.pow 10 power.natAbs) 1
      if pattern < infinity then some ⟨negative, pattern⟩ else none

/-- The bounds of the numbers that are read as `x`, and `x` itself between
them, as integers over one common denominator. -/
structure Neighbourhood where
  lower : Nat
  value : Nat
  upper : Nat
  unit : Nat
  /-- Whether the bounds themselves are read as the double. -/
  closed : Bool

/-- What is read as `x`: half a step up and half a step down, where the step
below a power of two is half as wide. -/
def neighbourhood (x : Double) : Neighbourhood :=
  let m := x.significand
  let narrow := m == Nat.pow 2 52 && x.magnitude ≥ Nat.pow 2 53
  let power := x.scale - 2
  let up := if power < 0 then 1 else Nat.pow 2 power.natAbs
  { lower := (if narrow then 4 * m - 1 else 4 * m - 2) * up
    value := 4 * m * up
    upper := (4 * m + 2) * up
    unit := if power < 0 then Nat.pow 2 power.natAbs else 1
    closed := m % 2 == 0 }

/-- Whether `num / den` is read as the double of this neighbourhood. -/
def Neighbourhood.holds (n : Neighbourhood) (num den : Nat) : Bool :=
  let point := num * n.unit
  let lower := n.lower * den
  let upper := n.upper * den
  if n.closed then lower ≤ point && point ≤ upper else lower < point && point < upper

/-- The point of the grid of multiples of `num / den` that is read as the
double and lies nearest to it, if there is one: a point of the grid lies in
the neighbourhood only if one of the value's two neighbours on it does. -/
def Neighbourhood.onGrid? (n : Neighbourhood) (num den : Nat) : Option Nat :=
  let below := n.value * den / (n.unit * num)
  let gapBelow := n.value * den - below * num * n.unit
  let gapAbove := (below + 1) * num * n.unit - n.value * den
  let lowFits := below != 0 && n.holds (below * num) den
  let highFits := n.holds ((below + 1) * num) den
  match lowFits, highFits with
  | true, true =>
      if gapBelow < gapAbove || (gapBelow == gapAbove && below % 2 == 0) then some below
      else some (below + 1)
  | true, false => some below
  | false, true => some (below + 1)
  | false, false => none

/-- The first hit on ever finer decimal grids, the first being `10 ^ (steps - 345)`. -/
def Neighbourhood.search (n : Neighbourhood) : Nat → Nat × Int
  | 0 => (0, 0)
  | steps + 1 =>
      let power := (steps : Int) - 345
      let hit :=
        if power < 0 then n.onGrid? 1 (Nat.pow 10 power.natAbs)
        else n.onGrid? (Nat.pow 10 power.natAbs) 1
      match hit with
      | some digits => (digits, power)
      | none => n.search steps

/-- The absolute value as `digits · 10 ^ power` with the fewest digits that are
read back as it. -/
def shortest (x : Double) : Nat × Int :=
  if x.magnitude = 0 then (0, 0) else x.neighbourhood.search 655

/-- Digits with a point behind the first `places` of them. -/
def pointAfter (places : Nat) (digits : List Char) : List Char :=
  digits.take places ++ '.' :: digits.drop places

/-- The text of a decimal: positional from `0.00001` up to sixteen digits
before the point, else with an exponent that bears its sign. -/
def decimalText (digits : Nat) (power : Int) : List Char :=
  let text := Nat.toDigits 10 digits
  let count := text.length
  let before := count + power
  if 0 ≤ power && before ≤ 16 then text ++ List.replicate power.toNat '0' ++ ['.', '0']
  else if 0 < before && before ≤ 16 then pointAfter before.toNat text
  else if -5 < before && before ≤ 0 then
    ['0', '.'] ++ List.replicate before.natAbs '0' ++ text
  else
    let exponent := before - 1
    let mantissa := if count = 1 then text else pointAfter 1 text
    let mark := if exponent < 0 then ['e', '-'] else ['e', '+']
    mantissa ++ mark ++ Nat.toDigits 10 exponent.natAbs

/-- The text of a double; a whole number keeps `.0`, and a zero its sign. -/
def text (x : Double) : String :=
  let decimal := x.shortest
  String.ofList ((if x.negative then ['-'] else []) ++ decimalText decimal.1 decimal.2)

end Double

end Signpost
