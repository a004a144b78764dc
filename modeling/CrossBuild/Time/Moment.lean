/-!
# Moments

A `Moment` is an instant, counted in seconds and nanoseconds from 1970-01-01T00:00:00Z, together
with the offset from UTC of the zone it was written in. Two moments with different offsets may
be the same instant; they only print differently.

Calendar dates are proleptic Gregorian: a year is a leap year when it is divisible by 4 and,
being divisible by 100, also by 400. `daysFromCivil` counts the days from 1970-01-01 to a date
and `civilFromDays` inverts it, by eras of 400 years (146097 days) that start on March 1, so
that the leap day ends a year of the era.

`Moment.stamp` writes a moment as RFC 3339 in its own zone: `YYYY-MM-DDTHH:MM:SS`, then `Z` for
offset 0 or `+HH:MM` / `-HH:MM` (seconds of an offset are not written). `Moment.stampNanos`
adds the fraction of the second with its trailing zeros removed, and no point when it is 0.
-/

namespace CrossBuild.Time

/-- Whether a year has a February 29. -/
def isLeap (year : Int) : Bool :=
  year % 4 == 0 && (year % 100 != 0 || year % 400 == 0)

/-- The number of days of a month (1 to 12) in a year. -/
def daysIn (month : Nat) (year : Int) : Nat :=
  if month == 2 then (if isLeap year then 29 else 28)
  else if month == 4 || month == 6 || month == 9 || month == 11 then 30 else 31

/-- The days from 1970-01-01 to a date; negative before it. -/
def daysFromCivil (year : Int) (month day : Nat) : Int :=
  let y := if month ≤ 2 then year - 1 else year
  let era := y / 400
  let yoe := y - era * 400
  let mp : Int := if month > 2 then month - 3 else month + 9
  let doy := (153 * mp + 2) / 5 + day - 1
  let doe := yoe * 365 + yoe / 4 - yoe / 100 + doy
  era * 146097 + doe - 719468

/-- The date (year, month, day) that lies a number of days after 1970-01-01. -/
def civilFromDays (days : Int) : Int × Nat × Nat :=
  let z := days + 719468
  let era := z / 146097
  let doe := z - era * 146097
  let yoe := (doe - doe / 1460 + doe / 36524 - doe / 146096) / 365
  let doy := doe - (365 * yoe + yoe / 4 - yoe / 100)
  let mp := (5 * doy + 2) / 153
  let day := doy - (153 * mp + 2) / 5 + 1
  let month := if mp < 10 then mp + 3 else mp - 9
  let year := yoe + era * 400 + (if month ≤ 2 then 1 else 0)
  (year, month.toNat, day.toNat)

/-- An instant and the offset of the zone it is written in. -/
structure Moment where
  /-- Whole seconds since 1970-01-01T00:00:00Z. -/
  unix : Int
  /-- Nanoseconds past the second, below one billion. -/
  nanos : Nat
  /-- Seconds east of UTC of the zone. -/
  offset : Int
  deriving DecidableEq, Repr, Inhabited

/-- The moment of a date and time of day read in a zone `offset` seconds east of UTC. -/
def Moment.ofCivil (year : Int) (month day hour minute second nanos : Nat) (offset : Int) :
    Moment :=
  { unix := daysFromCivil year month day * 86400 + hour * 3600 + minute * 60 + second - offset,
    nanos, offset }

/-- The first instant of year 1 in UTC, which stands for an unset time. -/
def Moment.zero : Moment := Moment.ofCivil 1 1 1 0 0 0 0 0

/-- `n` written in decimal with at least `width` digits. -/
def padded (width : Nat) (n : Nat) : String :=
  let s := toString n
  String.ofList (List.replicate (width - s.length) '0') ++ s

/-- A year with at least four digits, and a minus sign before it. -/
def yearText (year : Int) : String :=
  if year < 0 then "-" ++ padded 4 year.natAbs else padded 4 year.toNat

/-- The zone part of a stamp. -/
def zoneText (offset : Int) : String :=
  if offset == 0 then "Z"
  else
    let minutes := offset.natAbs / 60
    (if offset < 0 then "-" else "+") ++ padded 2 (minutes / 60) ++ ":" ++ padded 2 (minutes % 60)

/-- The date and time of day of a moment in its zone, as `YYYY-MM-DDTHH:MM:SS`. -/
def Moment.civilText (t : Moment) : String :=
  let wall := t.unix + t.offset
  let days := wall / 86400
  let secs := (wall - days * 86400).toNat
  let (year, month, day) := civilFromDays days
  yearText year ++ "-" ++ padded 2 month ++ "-" ++ padded 2 day ++ "T" ++
    padded 2 (secs / 3600) ++ ":" ++ padded 2 (secs / 60 % 60) ++ ":" ++ padded 2 (secs % 60)

/-- A moment in RFC 3339, whole seconds. -/
def Moment.stamp (t : Moment) : String :=
  t.civilText ++ zoneText t.offset

/-- The fraction of a second, nine digits without trailing zeros, after a point; empty for 0. -/
def fractionText (nanos : Nat) : String :=
  let digits := (padded 9 nanos).toList.reverse.dropWhile (· == '0')
  if digits.isEmpty then "" else "." ++ String.ofList digits.reverse

/-- A moment in RFC 3339 with its nanoseconds. -/
def Moment.stampNanos (t : Moment) : String :=
  t.civilText ++ fractionText t.nanos ++ zoneText t.offset

end CrossBuild.Time
