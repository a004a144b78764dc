import CrossBuild.Text.Printable

/-!
# Quoted text

A quoted text is written between two delimiters, double quotes for strings and single quotes
for characters. Inside, the delimiter and the backslash get a backslash, a printable character
(`CrossBuild.Text.Printable`) stands as it is, the seven control characters with a letter escape
are written `\a \b \f \n \r \t \v`, the other ASCII controls and DEL as `\x` with two hexadecimal
digits, the other characters below U+10000 as `\u` with four, and the rest as `\U` with eight.
Hexadecimal digits are lowercase.

| character | written |
|---|---|
| delimiter, backslash | backslash, character |
| printable | itself |
| U+0007 U+0008 U+000C U+000A U+000D U+0009 U+000B | `\a \b \f \n \r \t \v` |
| other below U+0020, U+007F | `\xhh` |
| other below U+10000 | `\uhhhh` |
| other | `\Uhhhhhhhh` |
-/

namespace CrossBuild.Text

/-- The lowercase hexadecimal digit of a number below sixteen. -/
def hexDigit (n : Nat) : Char :=
  if n < 10 then Char.ofNat (48 + n) else Char.ofNat (87 + n)

/-- `n` written with exactly `width` lowercase hexadecimal digits, most significant first. -/
def hexDigits (width n : Nat) : List Char :=
  (List.range width).reverse.map fun i => hexDigit (n / Nat.pow 16 i % 16)

/-- How one character is written between delimiters `q`. -/
def escapeChar (q c : Char) : List Char :=
  if c = q ∨ c = '\\' then ['\\', c]
  else if isPrintable c then [c]
  else
    match c with
    | '\x07' => ['\\', 'a']
    | '\x08' => ['\\', 'b']
    | '\x0c' => ['\\', 'f']
    | '\n' => ['\\', 'n']
    | '\r' => ['\\', 'r']
    | '\t' => ['\\', 't']
    | '\x0b' => ['\\', 'v']
    | _ =>
      if c.toNat < 0x20 ∨ c.toNat = 0x7F then '\\' :: 'x' :: hexDigits 2 c.toNat
      else if c.toNat < 0x10000 then '\\' :: 'u' :: hexDigits 4 c.toNat
      else '\\' :: 'U' :: hexDigits 8 c.toNat

/-- The inside of a quoted text: every character escaped for delimiters `q`. -/
def escape (q : Char) (cs : List Char) : List Char :=
  cs.flatMap (escapeChar q)

/-- A text between double quotes, escaped as the table above says. -/
def quote (s : String) : String :=
  String.ofList ('"' :: escape '"' s.toList ++ ['"'])

/-- A character between single quotes, escaped as the table above says. -/
def quoteChar (c : Char) : String :=
  String.ofList ('\'' :: escapeChar '\'' c ++ ['\''])

@[simp] theorem escape_append (q : Char) (a b : List Char) :
    escape q (a ++ b) = escape q a ++ escape q b := by
  simp [escape]

end CrossBuild.Text
