/-!
Dates in header fields.  Three spellings are read: the fixed one of today, the
one with a two-digit year, and the one of C; today's is written.
-/

namespace Signpost

namespace HttpDate

/-- The days of the week from that of the first of January 1970 on. -/
def longWeekdays : List String :=
  ["Thursday", "Friday", "Saturday", "Sunday", "Monday", "Tuesday", "Wednesday"]

def weekdays : List String :=
  ["Thu", "Fri", "Sat", "Sun", "Mon", "Tue", "Wed"]

def months : List String :=
  ["Jan", "Feb", "Mar", "Apr", "May", "Jun", "Jul", "Aug", "Sep", "Oct", "Nov", "Dec"]

/-- A year with a 29th of February. -/
def isLeap (year : Nat) : Bool :=
  (year % 4 == 0 && year % 100 != 0) || year % 400 == 0

/-- How many days a month has. -/
def monthLength (year month : Nat) : Nat :=
  match month with
  | 2 => if isLeap year then 29 else 28
  | 4 => 30
  | 6 => 30
  | 9 => 30
  | 11 => 30
  | _ => 31

/-- How many days a year has. -/
def yearLength (year : Nat) : Nat := if isLeap year then 366 else 365

/-- The days from the start of 1970 to the start of a year. -/
def daysToYear (year : Nat) : Nat :=
  (List.range' 1970 (year - 1970)).foldl (fun n y => n + yearLength y) 0

/-- The days from the start of a year to the start of a month. -/
def daysToMonth (year month : Nat) : Nat :=
  (List.range' 1 (month - 1)).foldl (fun n m => n + monthLength year m) 0

/-- The days from the start of 1970 to a day. -/
def daysTo (year month day : Nat) : Nat :=
  daysToYear year + daysToMonth year month + (day - 1)

/-- A number of just these digits. -/
def number? (digits : List Char) : Option Nat :=
  if digits.all Char.isDigit && !digits.isEmpty then
    some (digits.foldl (fun n c => n * 10 + (c.toNat - 48)) 0)
  else none

/-- The characters from `start` on, `count` of them. -/
def slice (s : List Char) (start count : Nat) : List Char := (s.drop start).take count

/-- The month of an abbreviated name. -/
def month? (name : List Char) : Option Nat :=
  (months.findIdx? (· == String.ofList name)).map (· + 1)

/-- A date as it is spelled, its month counted from one and its day of the week
from a Thursday. -/
structure Spelled where
  weekday : Nat
  year : Nat
  month : Nat
  day : Nat
  hour : Nat
  minute : Nat
  second : Nat
deriving DecidableEq, Repr

namespace Spelled

/-- The day and the time exist, and the day falls on its day of the week. -/
def isReal (d : Spelled) : Bool :=
  d.second < 60 && d.minute < 60 && d.hour < 24 && 0 < d.day
    && d.day ≤ monthLength d.year d.month && 1970 ≤ d.year && d.year ≤ 9999
    && daysTo d.year d.month d.day % 7 == d.weekday

/-- The seconds since 1970. -/
def seconds (d : Spelled) : Nat :=
  daysTo d.year d.month d.day * 86400 + d.hour * 3600 + d.minute * 60 + d.second

end Spelled

/-- The hour, minute and second of `08:49:37`. -/
def time? (s : List Char) : Option (Nat × Nat × Nat) := do
  guard (s[2]? == some ':' && s[5]? == some ':')
  return (← number? (slice s 0 2), ← number? (slice s 3 2), ← number? (slice s 6 2))

/-- A date as `Sun, 06 Nov 1994 08:49:37 GMT`. -/
def fixed? (s : List Char) : Option Spelled := do
  guard (s.length == 29 && slice s 25 4 == " GMT".toList && s[16]? == some ' ')
  let weekday ← weekdays.findIdx? fun day => slice s 0 5 == (day ++ ", ").toList
  guard (s[7]? == some ' ' && s[11]? == some ' ')
  let (hour, minute, second) ← time? (slice s 17 8)
  let month ← month? (slice s 8 3)
  return ⟨weekday, ← number? (slice s 12 4), month, ← number? (slice s 5 2), hour, minute, second⟩

/-- A date as `Sunday, 06-Nov-94 08:49:37 GMT`, the year between 1970 and 2069. -/
def dashed? (s : List Char) : Option Spelled := do
  let weekday ← longWeekdays.findIdx? fun day => (day ++ ", ").toList.isPrefixOf s
  let s := (s.dropWhile (· != ' ')).drop 1
  guard (s.length == 22 && slice s 18 4 == " GMT".toList)
  guard (s[2]? == some '-' && s[6]? == some '-')
  let (hour, minute, second) ← time? (slice s 10 8)
  let month ← month? (slice s 3 3)
  let short ← number? (slice s 7 2)
  let year := if short < 70 then short + 2000 else short + 1900
  return ⟨weekday, year, month, ← number? (slice s 0 2), hour, minute, second⟩

/-- A date as `Sun Nov  6 08:49:37 1994`. -/
def spaced? (s : List Char) : Option Spelled := do
  guard (s.length == 24 && s[10]? == some ' ' && s[19]? == some ' ' && s[7]? == some ' ')
  let weekday ← weekdays.findIdx? fun day => slice s 0 4 == (day ++ " ").toList
  let (hour, minute, second) ← time? (slice s 11 8)
  let month ← month? (slice s 4 3)
  let digits := slice s 8 2
  let day ← number? (if digits.head? == some ' ' then digits.drop 1 else digits)
  return ⟨weekday, ← number? (slice s 20 4), month, day, hour, minute, second⟩

/-- The seconds since 1970 that a header field tells. -/
def parse? (value : String) : Option Nat :=
  let blank : Char → Bool := fun c => c == ' ' || c == '\t' || c == '\n' || c == '\r'
  let s := ((value.toList.dropWhile blank).reverse.dropWhile blank).reverse
  if value.toList.all (·.toNat < 128) then
    ((fixed? s <|> dashed? s <|> spaced? s).filter Spelled.isReal).map Spelled.seconds
  else none

/-- A number with at least `width` digits. -/
def padded (width n : Nat) : String :=
  let digits := Nat.toDigits 10 n
  String.ofList (List.replicate (width - digits.length) '0' ++ digits)

/-- The year and the day of the year, both counted from the start of `year`. -/
def yearOf (year days : Nat) : Nat → Nat × Nat
  | 0 => (year, days)
  | years + 1 =>
      if days < yearLength year then (year, days)
      else yearOf (year + 1) (days - yearLength year) years

/-- The month and the day of the month. -/
def monthOf (year month days : Nat) : Nat → Nat × Nat
  | 0 => (month, days)
  | left + 1 =>
      if days < monthLength year month then (month, days)
      else monthOf year (month + 1) (days - monthLength year month) left

/-- A time in the spelling of header fields. -/
def text (time : Nat) : String :=
  let days := time / 86400
  let rest := time % 86400
  let (year, yearDay) := yearOf 1970 days 8030
  let (month, monthDay) := monthOf year 1 yearDay 11
  (weekdays[days % 7]?).getD "" ++ ", " ++ padded 2 (monthDay + 1) ++ " "
    ++ (months[month - 1]?).getD "" ++ " " ++ padded 4 year ++ " " ++ padded 2 (rest / 3600)
    ++ ":" ++ padded 2 (rest / 60 % 60) ++ ":" ++ padded 2 (rest % 60) ++ " GMT"

/-- The first second of the year 10000. -/
def firstUntold : Nat := 253402300800

/-- A time that the spelling of header fields is made for: neither before 1970 nor after 9999. -/
def told? (time : Int) : Option Nat :=
  if 0 ≤ time ∧ time < firstUntold then some time.toNat else none

end HttpDate

end Signpost
