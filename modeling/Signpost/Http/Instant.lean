import Signpost.Http.Date

/-!
Moments, written as a date and a time of day at Greenwich.
-/

namespace Signpost

/-- A moment: the seconds since 1970, and the nanoseconds since the second. -/
structure Instant where
  seconds : Nat
  nanos : Nat
deriving DecidableEq, Repr

namespace Instant

/-- The part of a second, in thousandths, millionths or billionths, whichever
is the first to be exact. -/
def fraction (nanos : Nat) : String :=
  if nanos = 0 then ""
  else if nanos % 1000000 = 0 then "." ++ HttpDate.padded 3 (nanos / 1000000)
  else if nanos % 1000 = 0 then "." ++ HttpDate.padded 6 (nanos / 1000)
  else "." ++ HttpDate.padded 9 nanos

/-- A moment as `1994-11-06T08:49:37.123456789+00:00`. -/
def text (t : Instant) : String :=
  let rest := t.seconds % 86400
  let (year, yearDay) := HttpDate.yearOf 1970 (t.seconds / 86400) 8030
  let (month, monthDay) := HttpDate.monthOf year 1 yearDay 11
  HttpDate.padded 4 year ++ "-" ++ HttpDate.padded 2 month ++ "-"
    ++ HttpDate.padded 2 (monthDay + 1) ++ "T" ++ HttpDate.padded 2 (rest / 3600) ++ ":"
    ++ HttpDate.padded 2 (rest / 60 % 60) ++ ":" ++ HttpDate.padded 2 (rest % 60)
    ++ fraction t.nanos ++ "+00:00"

end Instant

end Signpost
