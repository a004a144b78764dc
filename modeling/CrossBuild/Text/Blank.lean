/-!
# Blank characters

A *blank* is a character with the Unicode White_Space property: the ASCII tab, line feed,
vertical tab, form feed, carriage return and space, then U+0085, U+00A0, U+1680, U+2000 to
U+200A, U+2028, U+2029, U+202F, U+205F and U+3000. The zero-width space U+200B and the byte
order mark U+FEFF are not blanks.

`trimBlank` removes blanks from both ends of a text and nothing else.
-/

namespace CrossBuild.Text

/-- The White_Space characters of Unicode. -/
def isBlank (c : Char) : Bool :=
  match c.toNat with
  | 0x09 | 0x0A | 0x0B | 0x0C | 0x0D | 0x20 | 0x85 | 0xA0 => true
  | 0x1680 | 0x2028 | 0x2029 | 0x202F | 0x205F | 0x3000 => true
  | n => 0x2000 ≤ n && n ≤ 0x200A

/-- Drop the blanks at the start of a list of characters. -/
def dropBlank (cs : List Char) : List Char :=
  cs.dropWhile isBlank

/-- Drop the blanks at both ends of a list of characters. -/
def trimBlankList (cs : List Char) : List Char :=
  (dropBlank (dropBlank cs).reverse).reverse

/-- Drop the blanks at both ends of a text. -/
def trimBlank (s : String) : String :=
  String.ofList (trimBlankList s.toList)

end CrossBuild.Text
