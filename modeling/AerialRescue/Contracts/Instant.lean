import AerialRescue.Contracts.Canonical
import AerialRescue.Lib.Guard

/-!
# The canonical instant

`YYYY-MM-DDTHH:MM:SS.sssZ` and nothing else.  A parsed instant is a
`datetime` in UTC: the calendar fields with the invariant that they name a real
date and time.  Differences and sums of instants go through the proleptic
Gregorian ordinal, as they do in `datetime`.
-/

namespace AerialRescue.Contracts.Instant

open AerialRescue.Lib.Guard
open AerialRescue.Contracts.Canonical

/-- Why a value is not a canonical instant. -/
inductive InstantRefusal where
  | form
  | calendar
deriving DecidableEq

/-! ## The calendar -/

/-- Whether a year has a 29 February. -/
def isLeap (year : Nat) : Bool :=
  year % 4 = 0 && (year % 100 != 0 || year % 400 = 0)

/-- The number of days of a month. -/
def daysInMonth (year month : Nat) : Nat :=
  if month = 2 then (if isLeap year then 29 else 28)
  else if month = 4 ∨ month = 6 ∨ month = 9 ∨ month = 11 then 30
  else 31

/-- The fields name a date and time of the years 1 to 9999. -/
def validFields
    (year month day hour minute second microsecond : Nat) : Bool :=
  1 ≤ year && year ≤ 9999 && 1 ≤ month && month ≤ 12 && 1 ≤ day &&
    day ≤ daysInMonth year month && hour < 24 && minute < 60 &&
    second < 60 && microsecond < 1000000

/-- An aware `datetime` in UTC. -/
@[ext]
structure DateTime where
  year : Nat
  month : Nat
  day : Nat
  hour : Nat
  minute : Nat
  second : Nat
  microsecond : Nat
  valid : validFields year month day hour minute second microsecond = true
deriving DecidableEq

/-- A `timedelta`, in microseconds. -/
abbrev Duration := Int

/-- Days before the first of January of a year. -/
def daysBeforeYear (year : Nat) : Nat :=
  let past := year - 1
  past * 365 + past / 4 - past / 100 + past / 400

/-- Days before the first of a month, within its year. -/
def daysBeforeMonth (year month : Nat) : Nat :=
  (List.range (month - 1)).foldl
    (fun days index => days + daysInMonth year (index + 1)) 0

namespace DateTime

/-- Microseconds since the start of the year 1. -/
def microseconds (value : DateTime) : Int :=
  let days :=
    daysBeforeYear value.year + daysBeforeMonth value.year value.month +
      (value.day - 1)
  let seconds :=
    (days * 24 + value.hour) * 3600 + value.minute * 60 + value.second
  (seconds * 1000000 + value.microsecond : Nat)

/-- `later - earlier` -/
def elapsed (earlier later : DateTime) : Duration :=
  later.microseconds - earlier.microseconds

end DateTime

/-- The year that holds a zero-based day number. -/
def yearOfDay (day : Nat) : Nat :=
  let estimate := day / 366 + 1
  let candidates := (List.range 30).map fun offset => estimate + offset
  (candidates.filter fun year => daysBeforeYear year ≤ day).getLastD 1

/-- The month of a zero-based day of a year. -/
def monthOfDay (year day : Nat) : Nat :=
  (((List.range 12).map fun index => index + 1).filter fun month =>
    daysBeforeMonth year month ≤ day).getLastD 1

/-- `value + delta`, absent when the sum leaves the years 1 to 9999. -/
def addDuration (value : DateTime) (delta : Duration) : Option DateTime :=
  let total := value.microseconds + delta
  if total < 0 then none
  else
    let micros := total.toNat
    let seconds := micros / 1000000
    let days := seconds / 86400
    let year := yearOfDay days
    let dayOfYear := days - daysBeforeYear year
    let month := monthOfDay year dayOfYear
    let day := dayOfYear - daysBeforeMonth year month + 1
    let clock := seconds % 86400
    if valid :
        validFields year month day (clock / 3600) (clock / 60 % 60)
          (clock % 60) (micros % 1000000) = true then
      some
        { year, month, day, hour := clock / 3600, minute := clock / 60 % 60,
          second := clock % 60, microsecond := micros % 1000000, valid }
    else
      none

/-! ## Text -/

/-- The value of a decimal digit. -/
def digitValue (character : Char) : Nat :=
  character.toNat - 48

/-- The decimal digit of a value below ten. -/
def digitChar (value : Nat) : Char :=
  Char.ofNat (48 + value)

/-- The value of a run of decimal digits. -/
def digitsValue (characters : List Char) : Nat :=
  characters.foldl (fun total character =>
    total * 10 + digitValue character) 0

/-- A value in exactly `width` decimal digits, dropping what is above. -/
def padded : Nat → Nat → List Char
  | 0, _ => []
  | width + 1, value =>
      padded width (value / 10) ++ [digitChar (value % 10)]

/-- The six digit groups of the canonical spelling, when it has that form. -/
def instantGroups : List Char → Option (List Char × List Char ×
    List Char × List Char × List Char × List Char × List Char)
  | [y1, y2, y3, y4, '-', m1, m2, '-', d1, d2, 'T', h1, h2, ':', n1, n2,
      ':', s1, s2, '.', f1, f2, f3, 'Z'] =>
      some ([y1, y2, y3, y4], [m1, m2], [d1, d2], [h1, h2], [n1, n2],
        [s1, s2], [f1, f2, f3])
  | _ => none

/-- `parse_instant`: the pattern first, then the calendar. -/
def parseInstant (text : String) : Except InstantRefusal DateTime := do
  let (years, months, days, hours, minutes, seconds, fraction) ←
    present (instantGroups text.toList) .form
  let digits :=
    years ++ months ++ days ++ hours ++ minutes ++ seconds ++ fraction
  ensure (digits.all isDigit) .form
  let year := digitsValue years
  let month := digitsValue months
  let day := digitsValue days
  let hour := digitsValue hours
  let minute := digitsValue minutes
  let second := digitsValue seconds
  let microsecond := digitsValue fraction * 1000
  ensure (year ≠ 0 ∧ 1 ≤ month ∧ month ≤ 12 ∧ 1 ≤ day ∧ day ≤ 31 ∧
    hour ≤ 23 ∧ minute ≤ 59 ∧ second ≤ 59) .form
  if valid :
      validFields year month day hour minute second microsecond = true then
    pure { year, month, day, hour, minute, second, microsecond, valid }
  else
    .error .calendar

/-- `format_instant`: milliseconds, floored. -/
def formatInstant (value : DateTime) : String :=
  String.ofList
    (padded 4 value.year ++ ['-'] ++ padded 2 value.month ++ ['-'] ++
      padded 2 value.day ++ ['T'] ++ padded 2 value.hour ++ [':'] ++
      padded 2 value.minute ++ [':'] ++ padded 2 value.second ++ ['.'] ++
      padded 3 (value.microsecond / 1000) ++ ['Z'])

end AerialRescue.Contracts.Instant
