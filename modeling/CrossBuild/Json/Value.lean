import CrossBuild.Text.Quoted

/-!
# JSON values

A JSON value as read from a text. A string keeps the characters written between its quotes as
well as the text they stand for, since some readers look at the written form.

`Value.render` writes a value over several lines, two spaces deeper for each level of nesting,
one member or item a line, with `": "` after each key; empty arrays and objects are `[]` and
`{}`. Strings are written with the escapes `\"`, `\\`, `\b`, `\f`, `\n`, `\r`, `\t`; the other
control characters, `<`, `>`, `&`, U+2028 and U+2029 as `\u` and four lowercase hexadecimal
digits; everything else as it is.
-/

namespace CrossBuild.Json

/-- A JSON value. -/
inductive Value where
  | null
  | bool (b : Bool)
  /-- A number, as written. -/
  | number (text : String)
  /-- A string: the characters between its quotes, and the text they stand for. -/
  | str (written : List Char) (text : String)
  | arr (items : List Value)
  | obj (members : List (String × Value))
  deriving Repr, Inhabited

/-- How one character of a string is written. -/
def escapeChar (c : Char) : List Char :=
  let u4 (n : Nat) : List Char := '\\' :: 'u' :: Text.hexDigits 4 n
  match c with
  | '"' => ['\\', '"']
  | '\\' => ['\\', '\\']
  | '\x08' => ['\\', 'b']
  | '\x0c' => ['\\', 'f']
  | '\n' => ['\\', 'n']
  | '\r' => ['\\', 'r']
  | '\t' => ['\\', 't']
  | '<' | '>' | '&' | '\u2028' | '\u2029' => u4 c.toNat
  | _ => if c.toNat < 0x20 then u4 c.toNat else [c]

/-- A text as a string value. -/
def Value.ofString (s : String) : Value :=
  .str (s.toList.flatMap escapeChar) s

/-- A list of texts as an array value; `none` stands for a missing list, written `null`. -/
def Value.ofStrings : Option (List String) → Value
  | none => .null
  | some xs => .arr (xs.map Value.ofString)

/-- A text written as a JSON string. -/
def quoted (s : String) : String :=
  String.ofList ('"' :: s.toList.flatMap escapeChar ++ ['"'])

/-- Two spaces for each level of nesting. -/
def indent (depth : Nat) : String :=
  String.ofList (List.replicate (2 * depth) ' ')

mutual

/-- A value written at a nesting depth. -/
def Value.render (depth : Nat) : Value → String
  | .null => "null"
  | .bool b => if b then "true" else "false"
  | .number t => t
  | .str w _ => String.ofList ('"' :: w ++ ['"'])
  | .arr [] => "[]"
  | .arr items => "[\n" ++ renderItems (depth + 1) items ++ "\n" ++ indent depth ++ "]"
  | .obj [] => "\x7b\x7d"
  | .obj members =>
    "\x7b\n" ++ renderMembers (depth + 1) members ++ "\n" ++ indent depth ++ "\x7d"

/-- Array items, one a line, separated by commas. -/
def renderItems (depth : Nat) : List Value → String
  | [] => ""
  | [v] => indent depth ++ v.render depth
  | v :: vs => indent depth ++ v.render depth ++ ",\n" ++ renderItems depth vs

/-- Object members, one a line, separated by commas. -/
def renderMembers (depth : Nat) : List (String × Value) → String
  | [] => ""
  | [(k, v)] => indent depth ++ quoted k ++ ": " ++ v.render depth
  | (k, v) :: ms =>
    indent depth ++ quoted k ++ ": " ++ v.render depth ++ ",\n" ++
      renderMembers depth ms

end

end CrossBuild.Json
