import CrossBuild.Time.Moment

/-!
# Reading RFC 3339 stamps

`readStamp` reads a text against the layout `2006-01-02T15:04:05Z07:00`, element by element,
on the bytes of its UTF-8 encoding:

| element | accepts | range |
|---|---|---|
| year | four digits | |
| month, day, minute, second | two digits | 1-12, -, 0-59, 0-59 |
| hour | one or two digits | 0-23 |
| fraction | `.` or `,` and digits right after the seconds; digits past the ninth are dropped | |
| zone | `Z`, or a sign, two digits, `:`, two digits | at most 24 hours and 60 minutes |

The separators `-`, `-`, `T`, `:`, `:` must stand between the elements, and nothing may follow
the zone. Each failure has its own message (`StampFault.message`): the first element that does
not fit is named with the text from where it starts; a value out of range is named; the day is
checked against its month last. In messages a text is quoted with every byte that is not
printable ASCII written `\xhh`.
-/

namespace CrossBuild.Time

/-- The layout stamps are read against. -/
def stampLayout : String := "2006-01-02T15:04:05Z07:00"

/-- The bytes of a text. -/
def bytesOf (s : String) : List Nat :=
  s.toUTF8.toList.map (·.toNat)

/-- Whether a byte is an ASCII digit. -/
def isDigitByte (b : Nat) : Bool := 48 ≤ b && b ≤ 57

/-- Bytes between double quotes, with the quote and backslash escaped and every byte outside
printable ASCII written as `\x` and two hexadecimal digits. -/
def quoteBytes (bs : List Nat) : String :=
  let hex (n : Nat) : Char := if n < 10 then Char.ofNat (48 + n) else Char.ofNat (87 + n)
  let one (b : Nat) : List Char :=
    if b ≥ 0x80 || b < 0x20 then ['\\', 'x', hex (b / 16), hex (b % 16)]
    else if b == 34 || b == 92 then ['\\', Char.ofNat b]
    else [Char.ofNat b]
  String.ofList ('"' :: bs.flatMap one ++ ['"'])

/-- Why a text is no stamp. -/
inductive StampFault where
  /-- The bytes from `rest` on do not fit the layout element `elem`. -/
  | mismatch (text rest : List Nat) (elem : String)
  /-- A field is out of its range; `what` names it. -/
  | range (text : List Nat) (what : String)
  /-- Bytes are left after the zone. -/
  | extra (text rest : List Nat)
  deriving DecidableEq, Repr

/-- The message of a stamp fault. -/
def StampFault.message : StampFault → String
  | .mismatch t r e =>
    "parsing time " ++ quoteBytes t ++ " as " ++ quoteBytes (bytesOf stampLayout) ++
      ": cannot parse " ++ quoteBytes r ++ " as " ++ quoteBytes (bytesOf e)
  | .range t w => "parsing time " ++ quoteBytes t ++ ": " ++ w ++ " out of range"
  | .extra t r => "parsing time " ++ quoteBytes t ++ ": extra text: " ++ quoteBytes r

/-- The value of decimal digits. -/
def digitsNat (bs : List Nat) : Nat :=
  bs.foldl (fun n b => n * 10 + (b - 48)) 0

/-- Exactly two digits at the start. -/
def twoDigits : List Nat → Option (Nat × List Nat)
  | a :: b :: rest => if isDigitByte a && isDigitByte b then some (digitsNat [a, b], rest) else none
  | _ => none

/-- One digit, or two when a second follows. -/
def oneOrTwoDigits : List Nat → Option (Nat × List Nat)
  | a :: b :: rest =>
    if !isDigitByte a then none
    else if isDigitByte b then some (digitsNat [a, b], rest) else some (a - 48, b :: rest)
  | [a] => if isDigitByte a then some (a - 48, []) else none
  | [] => none

/-- A separator byte. -/
def separator (text : List Nat) (c : Char) (bs : List Nat) : Except StampFault (List Nat) :=
  match bs with
  | b :: rest => if b == c.toNat then .ok rest else .error (.mismatch text bs (String.singleton c))
  | [] => .error (.mismatch text [] (String.singleton c))

/-- A fixed two-digit field with its range. -/
def field (text : List Nat) (elem what : String) (lo hi : Nat) (bs : List Nat) :
    Except StampFault (Nat × List Nat) :=
  match twoDigits bs with
  | none => .error (.mismatch text bs elem)
  | some (n, rest) => if n < lo || hi < n then .error (.range text what) else .ok (n, rest)

/-- The fraction of a second right after the seconds, in nanoseconds, and the rest. -/
def fraction (bs : List Nat) : Nat × List Nat :=
  match bs with
  | p :: d :: _ =>
    if (p == 46 || p == 44) && isDigitByte d then
      let ds := (bs.drop 1).takeWhile isDigitByte
      let kept := ds.take 9
      (digitsNat kept * Nat.pow 10 (9 - kept.length), bs.drop (1 + ds.length))
    else (0, bs)
  | _ => (0, bs)

/-- The zone: its offset in seconds and the rest. -/
def zone (text : List Nat) (bs : List Nat) : Except StampFault (Int × List Nat) :=
  match bs with
  | 90 :: rest => .ok (0, rest)
  | _ =>
    match bs with
    | s :: h1 :: h2 :: c :: m1 :: m2 :: rest =>
      if c != 58 then .error (.mismatch text bs "Z07:00")
      else
        let hr := twoDigits [h1, h2]
        let mm := if hr.isSome then twoDigits [m1, m2] else none
        let hv := (hr.map (·.1)).getD 0
        let mv := (mm.map (·.1)).getD 0
        if 60 < mv then .error (.range text "time zone offset minute")
        else if 24 < hv then .error (.range text "time zone offset hour")
        else if mm.isNone then .error (.mismatch text bs "Z07:00")
        else
          let off : Int := (hv * 60 + mv) * 60
          if s == 43 then .ok (off, rest)
          else if s == 45 then .ok (-off, rest)
          else .error (.mismatch text bs "Z07:00")
    | _ => .error (.mismatch text bs "Z07:00")

/-- Read an RFC 3339 stamp. -/
def readStamp (s : String) : Except StampFault Moment := do
  let text := bytesOf s
  let yearBytes := text.take 4
  if text.length < 4 || !yearBytes.all isDigitByte then throw (.mismatch text text "2006")
  let year := digitsNat yearBytes
  let r ← separator text '-' (text.drop 4)
  let (month, r) ← field text "01" "month" 1 12 r
  let r ← separator text '-' r
  let (day, r) ← match twoDigits r with
    | none => throw (.mismatch text r "02")
    | some p => pure p
  let r ← separator text 'T' r
  let (hour, r) ← match oneOrTwoDigits r with
    | none => throw (.mismatch text r "15")
    | some (h, rest) => if 24 ≤ h then throw (.range text "hour") else pure (h, rest)
  let r ← separator text ':' r
  let (minute, r) ← field text "04" "minute" 0 59 r
  let r ← separator text ':' r
  let (second, r) ← field text "05" "second" 0 59 r
  let (nanos, r) := fraction r
  let (offset, r) ← zone text r
  if !r.isEmpty then throw (.extra text r)
  if day < 1 || daysIn month year < day then throw (.range text "day")
  pure (Moment.ofCivil year month day hour minute second nanos offset)

end CrossBuild.Time
