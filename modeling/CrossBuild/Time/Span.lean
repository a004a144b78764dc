import CrossBuild.Time.Moment

/-!
# Spans of time

A span is a signed number of nanoseconds that fits in 64 bits. `Moment.since` is the span from
one moment to another, held at the nearest bound when it does not fit. `roundMillis` rounds a
span to a whole number of milliseconds, halves away from zero, and keeps a bound when rounding
would pass it.

`spanText` writes a span the short way: `0s` for nothing; below a second in the largest unit of
`ns`, `µs` and `ms` that fits, with a fraction; from a second on as hours, minutes and seconds,
leaving out leading zero units (`1h0m2.5s`, `3m0s`, `4.001s`). Fractions lose their trailing
zeros and, when nothing is left, their point.

| span (ns) | text |
|---|---|
| 0 | `0s` |
| 1500 | `1.5µs` |
| -2000000 | `-2ms` |
| 61789000000 | `1m1.789s` |
| 93722123000000 | `26h2m2.123s` |
-/

namespace CrossBuild.Time

/-- The smallest 64-bit span. -/
def spanMin : Int := -((Nat.pow 2 63 : Nat) : Int)

/-- The largest 64-bit span. -/
def spanMax : Int := ((Nat.pow 2 63 : Nat) : Int) - 1

/-- A number held within the 64-bit span bounds. -/
def clampSpan (d : Int) : Int :=
  if d < spanMin then spanMin else if spanMax < d then spanMax else d

/-- The span from `u` to `t`, in nanoseconds, held within the 64-bit bounds. -/
def Moment.since (t u : Moment) : Int :=
  clampSpan ((t.unix - u.unix) * 1000000000 + ((t.nanos : Int) - u.nanos))

/-- A span rounded to whole milliseconds, halves away from zero; a result past a bound is
that bound. -/
def roundMillis (d : Int) : Int :=
  let m : Int := 1000000
  let r := (d.tmod m).natAbs
  if d < 0 then
    if r + r < 1000000 then d + r else clampSpan (d - m + r)
  else
    if r + r < 1000000 then d - r else clampSpan (d + m - r)

/-- The last `prec` decimal digits of `v` as a fraction after a point, without trailing zeros;
empty when they are all zero. -/
def fractionDigits (v prec : Nat) : String :=
  let digits := ((List.range prec).reverse.map fun i => Char.ofNat (48 + v / Nat.pow 10 i % 10))
  let kept := (digits.reverse.dropWhile (· == '0')).reverse
  if kept.isEmpty then "" else "." ++ String.ofList kept

/-- A span written the short way. -/
def spanText (d : Int) : String :=
  let u := d.natAbs
  let sign := if d < 0 then "-" else ""
  if u == 0 then "0s"
  else if u < 1000 then sign ++ toString u ++ "ns"
  else if u < 1000000 then sign ++ toString (u / 1000) ++ fractionDigits u 3 ++ "µs"
  else if u < 1000000000 then sign ++ toString (u / 1000000) ++ fractionDigits u 6 ++ "ms"
  else
    let secs := u / 1000000000
    let mins := secs / 60
    let hours := mins / 60
    let front :=
      if mins == 0 then ""
      else (if hours == 0 then "" else toString hours ++ "h") ++ toString (mins % 60) ++ "m"
    sign ++ front ++ toString (secs % 60) ++ fractionDigits u 9 ++ "s"

end CrossBuild.Time
