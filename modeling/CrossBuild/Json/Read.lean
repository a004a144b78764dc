import CrossBuild.Json.Value

/-!
# Reading JSON

`Json.read` reads a whole text as one JSON value, with blanks (space, tab, line feed, carriage
return) allowed around tokens. The first character that cannot continue the text stops the
reading with a message naming it and what was expected there:

| place | message after `invalid character C` |
|---|---|
| where a value starts | `looking for beginning of value` |
| where a key starts | `looking for beginning of object key string` |
| after a key | `after object key` |
| after a member | `after object key:value pair` |
| after an item | `after array element` |
| after the value | `after top-level value` |
| in a string | `in string` (a control character) |
| in a number | `in numeric literal` |
| in `true` | `in literal true (expecting 'r')`, and so on |

The character is quoted as `CrossBuild.Text.quoteChar` quotes it. A text that ends before its
value does fails with `unexpected end of JSON input`, wherever it ends.

A backslash in a string starts an escape: one of `"\/bfnrt`, or `u` and four hexadecimal
digits. Any other escape fails with ``invalid escape sequence `E` in string``, where `E` is the
escape as far as it was read, counted in UTF-8 bytes: two bytes after a backslash, six after
`\u`, or all the bytes left when fewer than six are (those fail as the end of the text when
they could still begin an escape). `E` is quoted (`CrossBuild.Text.quote`, a cut character as
its bytes `\xhh`) instead when it holds a backquote, a blank, the replacement character, a
character that is not printable or a cut character.

A string's text has its escapes resolved; a `\u` escape of a surrogate half that is not followed
by an escape of the matching half stands for U+FFFD.
-/

namespace CrossBuild.Json

/-- The message for a text that ends too early. -/
def endMessage : String := "unexpected end of JSON input"

/-- The message for an unexpected character. -/
def unexpected (c : Char) (place : String) : String :=
  "invalid character " ++ Text.quoteChar c ++ " " ++ place

/-- Whether a character is a blank between tokens. -/
def isBlank (c : Char) : Bool := c == ' ' || c == '\t' || c == '\n' || c == '\r'

/-- Whether a character is a decimal digit. -/
def isDigit (c : Char) : Bool := '0' ≤ c && c ≤ '9'

/-- Whether a character is a hexadecimal digit. -/
def isHex (c : Char) : Bool := isDigit c || ('a' ≤ c && c ≤ 'f') || ('A' ≤ c && c ≤ 'F')

/-- The value of a hexadecimal digit. -/
def hexValue (c : Char) : Nat :=
  if isDigit c then c.toNat - 48 else if c ≤ 'F' then c.toNat - 55 else c.toNat - 87

/-- The number of UTF-8 bytes of some characters. -/
def byteCount (cs : List Char) : Nat := cs.foldl (fun n c => n + c.utf8Size) 0

/-- The first `n` UTF-8 bytes of some characters: the characters that fit whole, and the
leading bytes of the next one when it does not. -/
def cutBytes : Nat → List Char → List Char × List UInt8
  | _, [] => ([], [])
  | n, c :: rest =>
    if c.utf8Size ≤ n then
      let (cs, cut) := cutBytes (n - c.utf8Size) rest
      (c :: cs, cut)
    else ([], (String.utf8EncodeChar c).take n)

/-- Whether an escape read as far as `cs` and the bytes `cut` can stand between backquotes. -/
def plainEscape (cs : List Char) (cut : List UInt8) : Bool :=
  cut.isEmpty && cs.all fun c => c != '\x60' && c != ' ' && c != '\uFFFD' && Text.isPrintable c

/-- The message for an escape that is not one, read as far as `cs` and the bytes `cut`. -/
def escapeMessage (cs : List Char) (cut : List UInt8) : String :=
  let shown :=
    if plainEscape cs cut then "\x60" ++ String.ofList cs ++ "\x60"
    else "\"" ++ String.ofList (Text.escape '"' cs) ++
      String.join (cut.map fun b => String.ofList ('\\' :: 'x' :: Text.hexDigits 2 b.toNat)) ++
      "\""
  "invalid escape sequence " ++ shown ++ " in string"

/-- The four digits of a `\u` escape, from the characters after the `u`. -/
def unicodeDigits (after : List Char) : Except String (List Char) :=
  let escape := '\\' :: 'u' :: after
  if byteCount after < 4 then
    if after.all isHex then .error endMessage else .error (escapeMessage escape [])
  else
    let ds := after.take 4
    if ds.length == 4 && ds.all isHex then .ok ds
    else
      let (cs, cut) := cutBytes 6 escape
      .error (escapeMessage cs cut)

/-- The written characters of a string up to its closing quote, and the rest after it. -/
def stringBody : Nat → List Char → List Char → Except String (List Char × List Char)
  | 0, _, _ => .error endMessage
  | _ + 1, _, [] => .error endMessage
  | fuel + 1, acc, c :: rest =>
    if c == '"' then .ok (acc.reverse, rest)
    else if c == '\\' then
      match rest with
      | [] => .error endMessage
      | e :: rest' =>
        if "bfnrt\\/\"".toList.contains e then stringBody fuel (e :: c :: acc) rest'
        else if e == 'u' then do
          let ds ← unicodeDigits rest'
          stringBody fuel (ds.reverse ++ e :: c :: acc) (rest'.drop 4)
        else
          let (cs, cut) := cutBytes 2 (c :: rest)
          .error (escapeMessage cs cut)
    else if c.toNat < 0x20 then .error (unexpected c "in string")
    else stringBody fuel (c :: acc) rest

/-- The code of four hexadecimal digits after `\u`, if they are there. -/
def escapeCode : List Char → Option (Nat × List Char)
  | '\\' :: 'u' :: a :: b :: c :: d :: rest =>
    if [a, b, c, d].all isHex then
      some ([a, b, c, d].foldl (fun n h => n * 16 + hexValue h) 0, rest)
    else none
  | _ => none

/-- The text that written string characters stand for. -/
def unescape : Nat → List Char → List Char
  | 0, _ => []
  | _ + 1, [] => []
  | fuel + 1, '\\' :: e :: rest =>
    match e with
    | 'b' => '\x08' :: unescape fuel rest
    | 'f' => '\x0c' :: unescape fuel rest
    | 'n' => '\n' :: unescape fuel rest
    | 'r' => '\r' :: unescape fuel rest
    | 't' => '\t' :: unescape fuel rest
    | 'u' =>
      match escapeCode ('\\' :: e :: rest) with
      | none => e :: unescape fuel rest
      | some (hi, after) =>
        if 0xD800 ≤ hi && hi < 0xE000 then
          match escapeCode after with
          | some (lo, after') =>
            if 0xD800 ≤ hi && hi < 0xDC00 && 0xDC00 ≤ lo && lo < 0xE000 then
              Char.ofNat (0x10000 + (hi - 0xD800) * 0x400 + (lo - 0xDC00)) :: unescape fuel after'
            else '\uFFFD' :: unescape fuel after
          | none => '\uFFFD' :: unescape fuel after
        else Char.ofNat hi :: unescape fuel after
    | _ => e :: unescape fuel rest
  | fuel + 1, c :: rest => c :: unescape fuel rest

/-- A string after its opening quote: the value and the rest. -/
def readString (cs : List Char) : Except String (Value × List Char) := do
  let (written, rest) ← stringBody (cs.length + 1) [] cs
  pure (.str written (String.ofList (unescape (written.length + 1) written)), rest)

/-- At least one digit and the digits after it, and the rest. -/
def digitRun (cs : List Char) : Except String (List Char × List Char) :=
  match cs with
  | d :: _ =>
    if isDigit d then .ok (cs.takeWhile isDigit, cs.dropWhile isDigit)
    else .error (unexpected d "in numeric literal")
  | [] => .error endMessage

/-- The fraction and exponent after the integer part of a number, and the rest. -/
def numberTail (cs : List Char) : Except String (List Char × List Char) := do
  let (frac, r) ← match cs with
    | '.' :: r => do
      let (ds, r') ← digitRun r
      pure ('.' :: ds, r')
    | r => pure ([], r)
  match r with
  | e :: r' =>
    if e == 'e' || e == 'E' then do
      let (sign, r'') := match r' with
        | '+' :: r'' => (['+'], r'')
        | '-' :: r'' => (['-'], r'')
        | r'' => ([], r'')
      let (ds, r3) ← digitRun r''
      pure (frac ++ e :: sign ++ ds, r3)
    else pure (frac, r)
  | [] => pure (frac, r)

/-- A number, from its first character: the value and the rest. -/
def readNumber (cs : List Char) : Except String (Value × List Char) := do
  let (sign, r) := match cs with
    | '-' :: r => (['-'], r)
    | r => ([], r)
  let (int, r) ← match r with
    | '0' :: r' => pure (['0'], r')
    | r => digitRun r
  let (tail, r) ← numberTail r
  pure (.number (String.ofList (sign ++ int ++ tail)), r)

/-- The letters of a literal after its first one, and the rest. -/
def literalTail (word : String) : List Char → List Char → Except String (List Char)
  | [], rest => .ok rest
  | w :: ws, c :: rest =>
    if c == w then literalTail word ws rest
    else
      .error (unexpected c ("in literal " ++ word ++ " (expecting " ++ Text.quoteChar w ++ ")"))
  | _ :: _, [] => .error endMessage

mutual

/-- A value after optional blanks: the value and the rest. -/
def readValue : Nat → List Char → Except String (Value × List Char)
  | 0, _ => .error endMessage
  | fuel + 1, cs =>
    match cs.dropWhile isBlank with
    | [] => .error endMessage
    | c :: rest =>
      if c == '{' then readObject fuel rest
      else if c == '[' then readArray fuel rest
      else if c == '"' then readString rest
      else if c == '-' || isDigit c then readNumber (c :: rest)
      else if c == 't' then do pure (.bool true, ← literalTail "true" "rue".toList rest)
      else if c == 'f' then do pure (.bool false, ← literalTail "false" "alse".toList rest)
      else if c == 'n' then do pure (.null, ← literalTail "null" "ull".toList rest)
      else .error (unexpected c "looking for beginning of value")

/-- An object after its opening brace. -/
def readObject : Nat → List Char → Except String (Value × List Char)
  | 0, _ => .error endMessage
  | fuel + 1, cs =>
    match cs.dropWhile isBlank with
    | [] => .error endMessage
    | '}' :: rest => .ok (.obj [], rest)
    | '"' :: rest => readMembers fuel [] rest
    | c :: _ => .error (unexpected c "looking for beginning of object key string")

/-- Object members from just after the opening quote of a key; `acc` holds the members read,
last first. -/
def readMembers :
    Nat → List (String × Value) → List Char → Except String (Value × List Char)
  | 0, _, _ => .error endMessage
  | fuel + 1, acc, cs => do
    let (key, rest) ← readString cs
    let name := match key with
      | .str _ t => t
      | _ => ""
    match rest.dropWhile isBlank with
    | [] => .error endMessage
    | ':' :: rest' =>
      let (v, after) ← readValue fuel rest'
      match after.dropWhile isBlank with
      | [] => .error endMessage
      | '}' :: r => .ok (.obj ((name, v) :: acc).reverse, r)
      | ',' :: r =>
        match r.dropWhile isBlank with
        | [] => .error endMessage
        | '"' :: r' => readMembers fuel ((name, v) :: acc) r'
        | c :: _ => .error (unexpected c "looking for beginning of object key string")
      | c :: _ => .error (unexpected c "after object key:value pair")
    | c :: _ => .error (unexpected c "after object key")

/-- An array after its opening bracket. -/
def readArray : Nat → List Char → Except String (Value × List Char)
  | 0, _ => .error endMessage
  | fuel + 1, cs =>
    match cs.dropWhile isBlank with
    | [] => .error endMessage
    | ']' :: rest => .ok (.arr [], rest)
    | _ => readItems fuel [] cs

/-- Array items; `acc` holds the items read, last first. -/
def readItems : Nat → List Value → List Char → Except String (Value × List Char)
  | 0, _, _ => .error endMessage
  | fuel + 1, acc, cs => do
    let (v, after) ← readValue fuel cs
    match after.dropWhile isBlank with
    | [] => .error endMessage
    | ']' :: r => .ok (.arr (v :: acc).reverse, r)
    | ',' :: r => readItems fuel (v :: acc) r
    | c :: _ => .error (unexpected c "after array element")

end

/-- Read a whole text as one value. -/
def read (text : String) : Except String Value := do
  let cs := text.toList
  let (v, rest) ← readValue (2 * cs.length + 2) cs
  match rest.dropWhile isBlank with
  | [] => pure v
  | c :: _ => .error (unexpected c "after top-level value")

end CrossBuild.Json
