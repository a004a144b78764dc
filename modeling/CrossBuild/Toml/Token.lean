
/-!
# TOML tokens

The reader of manifest files first cuts the text into tokens. The cutting has two main modes:
between statements (`Mode.void`), where keys, table headers, `=` and comments are expected, and
after an `=` (`Mode.value`), where values, brackets, braces and commas are expected. A stack of
open brackets decides where a line break leads: inside an array it is skipped, elsewhere it ends
the value. An inline table switches back to keys after `{` and after each comma.

Tokens keep their text: a key keeps its quoted parts in quotes (with escapes already resolved in
double-quoted parts), a table header keeps the raw text between its brackets, and numbers and
dates keep their characters for the reader to check. Cutting stops at the first error.

Every loop here consumes at least one character per round, so the length of the text plus one
bounds its rounds (`fuel`).
-/

namespace CrossBuild.Toml

/-- One token of a TOML text. -/
inductive Token where
  | key (text : String)
  | equal
  | str (s : String)
  | boolean (b : Bool)
  | inf (text : String)
  | nan (text : String)
  | integer (text : String)
  | float (text : String)
  | localDate (text : String)
  | localTime (text : String)
  | timeOffset (text : String)
  | leftBracket
  | rightBracket
  | doubleLeftBracket
  | doubleRightBracket
  | leftBrace
  | rightBrace
  | comma
  | tableKey (text : String)
  | tableArrayKey (text : String)
  | error
  | eof
  deriving DecidableEq, Repr, Inhabited

/-- Spaces and tabs. -/
def isSpace (c : Char) : Bool := c == ' ' || c == '\t'

/-- ASCII digits. -/
def isDigit (c : Char) : Bool := '0' ≤ c && c ≤ '9'

/-- Hexadecimal digits. -/
def isHexDigit (c : Char) : Bool :=
  isDigit c || ('a' ≤ c && c ≤ 'f') || ('A' ≤ c && c ≤ 'F')

/-- Characters of a bare key: ASCII letters and digits, `_` and `-`. -/
def isBareChar (c : Char) : Bool :=
  ('a' ≤ c && c ≤ 'z') || ('A' ≤ c && c ≤ 'Z') || isDigit c || c == '_' || c == '-'

/-- The text of a list of characters. -/
def str (cs : List Char) : String := String.ofList cs

/-- Whether `cs` starts with the characters of `p`. -/
def follows (p : String) (cs : List Char) : Bool := p.toList.isPrefixOf cs

/-- The rest of a line from a comment on: up to the line feed or the pair carriage return and
line feed, which stay. -/
def skipComment : List Char → List Char
  | [] => []
  | '\n' :: rest => '\n' :: rest
  | '\r' :: '\n' :: rest => '\r' :: '\n' :: rest
  | _ :: rest => skipComment rest

/-- The value of hexadecimal digits. -/
def hexValue (ds : List Char) : Nat :=
  ds.foldl (fun n d => n * 16 + (if isDigit d then d.toNat - 48
    else if 'a' ≤ d && d ≤ 'f' then d.toNat - 87 else d.toNat - 55)) 0

/-- The character of a code point; invalid code points give the replacement character. -/
def charOfCode (n : Nat) : Char :=
  if n < 0xD800 || (0xDFFF < n && n < 0x110000) then Char.ofNat n else '�'

/-- The character that a one-letter escape stands for. -/
def simpleEscape : Char → Option Char
  | '"' => some '"'
  | 'n' => some '\n'
  | 'b' => some '\x08'
  | 'f' => some '\x0c'
  | '/' => some '/'
  | 't' => some '\t'
  | 'r' => some '\r'
  | '\\' => some '\\'
  | _ => none

/-- Whether a character may follow a backslash that skips white space. -/
def isSkippable (c : Char) : Bool :=
  c == '\r' || c == '\n' || c == '\t' || c == ' '

/-- One step inside a basic string: the characters it adds (reversed onto `acc`) and the rest,
or nothing for an error. -/
def basicStep (multiline : Bool) (acc : List Char) : List Char → Option (List Char × List Char)
  | '\\' :: c :: rest =>
    if isSkippable c then some (acc, rest.dropWhile isSkippable)
    else match simpleEscape c with
      | some e => some (e :: acc, rest)
      | none =>
        let width := if c == 'u' then 4 else if c == 'U' then 8 else 0
        let ds := rest.take width
        if width != 0 && ds.length == width && ds.all isHexDigit then
          some (charOfCode (hexValue ds) :: acc, rest.drop width)
        else none
  | '\\' :: [] => none
  | c :: rest =>
    if c.toNat ≤ 0x1F && c != '\t' && !(multiline && (c == '\n' || c == '\r')) then none
    else some (c :: acc, rest)
  | [] => none

/-- The inside of a basic string up to its terminator `term`, with escapes resolved, and the
rest, which starts with the terminator. -/
def basicBody (term : List Char) (multiline : Bool) :
    Nat → List Char → List Char → Option (List Char × List Char)
  | 0, _, _ => none
  | fuel + 1, acc, cs =>
    if term.isPrefixOf cs then some (acc.reverse, cs)
    else
      match basicStep multiline acc cs with
      | none => none
      | some (acc', rest) => if rest.isEmpty then none else basicBody term multiline fuel acc' rest

/-- The inside of a literal string up to its terminator `term`, taken as it is, and the rest. -/
def literalBody (term : List Char) : Nat → List Char → List Char → Option (List Char × List Char)
  | 0, _, _ => none
  | fuel + 1, acc, cs =>
    if term.isPrefixOf cs then some (acc.reverse, cs)
    else
      match cs with
      | [] => none
      | c :: rest => literalBody term fuel (c :: acc) rest

/-- A line break right at the start of a multi-line string is dropped. -/
def dropLeadingBreak : List Char → List Char
  | '\r' :: '\n' :: rest => rest
  | '\n' :: rest => rest
  | cs => cs

/-- A basic string after its opening quote: its text and the rest after the terminator. -/
def basicString (cs : List Char) : Option (String × List Char) :=
  let (term, multiline, body) :=
    if follows "\"\"" cs then (['"', '"', '"'], true, dropLeadingBreak (cs.drop 2))
    else (['"'], false, cs)
  (basicBody term multiline (body.length + 1) [] body).map fun (s, rest) =>
    (str s, rest.drop term.length)

/-- A literal string after its opening quote: its text and the rest after the terminator. -/
def literalString (cs : List Char) : Option (String × List Char) :=
  let (term, body) :=
    if follows "''" cs then (['\'', '\'', '\''], dropLeadingBreak (cs.drop 2))
    else (['\''], cs)
  (literalBody term (body.length + 1) [] body).map fun (s, rest) =>
    (str s, rest.drop term.length)

/-- Where the cutting stands. -/
inductive Mode where
  /-- Between statements: keys, headers, `=`, comments. -/
  | void
  /-- After `=`: values, brackets, braces, commas. -/
  | value
  deriving DecidableEq, Repr

/-- The result of one round: the tokens it emits and where to go on, or nothing to stop. -/
abbrev Round := List Token × Option (Mode × List Char × List Char)

/-- Stop with an error token after the tokens `ts`. -/
def failWith (ts : List Token) : Round := (ts ++ [.error], none)

/-- Read a key, from its first character to the `=`, a line end or a space not followed by a
dot; quoted parts are kept in their quotes. -/
def keyText : Nat → List Char → List Char → Option (List Char × List Char)
  | 0, _, _ => none
  | fuel + 1, sb, cs =>
    match cs with
    | [] => some (sb, [])
    | '=' :: _ => some (sb, cs)
    | '\r' :: _ => none
    | '\n' :: _ => none
    | '"' :: rest =>
      match basicBody ['"'] true (rest.length + 1) [] rest with
      | some (s, rest') => keyText fuel (sb ++ '"' :: s ++ ['"']) (rest'.drop 1)
      | none => none
    | '\'' :: rest =>
      match literalBody ['\''] (rest.length + 1) [] rest with
      | some (s, rest') => keyText fuel (sb ++ '\'' :: s ++ ['\'']) (rest'.drop 1)
      | none => none
    | c :: rest =>
      if isSpace c then
        let spaces := rest.takeWhile isSpace
        let after := rest.drop spaces.length
        match after with
        | '.' :: after' =>
          let spaces' := after'.takeWhile isSpace
          keyText fuel (sb ++ ' ' :: spaces ++ '.' :: spaces') (after'.drop spaces'.length)
        | _ => some (sb, after)
      else if c == '.' || isBareChar c then keyText fuel (sb ++ [c]) rest
      else none

/-- The text of a table header up to its `]`, and the rest after the `]`. -/
def headerText (cs : List Char) : Option (List Char × List Char) :=
  let body := cs.takeWhile fun c => c != ']' && c != '['
  match cs.drop body.length with
  | ']' :: rest => some (body, rest)
  | _ => none

/-- The text of a table-array header: runs of text separated by single `]` until `]]`. The
runs are the header tokens; the rest follows the `]]`. A lone bracket starts the next run. -/
def arrayHeaderText : Nat → List Char → List String → Option (List String × List Char)
  | 0, _, _ => none
  | fuel + 1, cs, runs =>
    let body := cs.takeWhile fun c => c != ']' && c != '['
    let runs' := if body.isEmpty then runs else runs ++ [str body]
    match cs.drop body.length with
    | ']' :: ']' :: rest => some (runs', rest)
    | ']' :: rest =>
      let next := rest.takeWhile fun c => c != ']' && c != '['
      arrayHeaderText fuel (rest.drop next.length) (runs' ++ [str (']' :: next)])
    | _ => none

/-- The characters a number may continue with after a base prefix. -/
def baseDigit : Char → Option (Char → Bool)
  | 'x' => some fun c => isHexDigit c || c == '_'
  | 'o' => some fun c => ('0' ≤ c && c ≤ '7') || c == '_'
  | 'b' => some fun c => c == '0' || c == '1' || c == '_'
  | _ => none

/-- The body of a decimal number: digits, `_`, one `.` followed by a digit, and exponents. The
result tells whether a point or an exponent was seen, or nothing for an error. -/
def numberBody : Nat → List Char → List Char → Bool → Bool → Bool →
    Option (List Char × List Char × Bool)
  | 0, _, _, _, _, _ => none
  | fuel + 1, acc, cs, point, exp, digit =>
    match cs with
    | '.' :: rest =>
      if point then none
      else match rest with
        | d :: _ => if isDigit d then
            (if !digit then none else numberBody fuel ('.' :: acc) rest true exp digit)
          else none
        | [] => none
    | c :: rest =>
      if c == 'e' || c == 'E' then
        match rest with
        | s :: rest' =>
          if s == '+' || s == '-' then numberBody fuel (s :: c :: acc) rest' point true digit
          else numberBody fuel (c :: acc) rest point true digit
        | [] => numberBody fuel (c :: acc) rest point true digit
      else if isDigit c then numberBody fuel (c :: acc) rest point exp true
      else if c == '_' then numberBody fuel (c :: acc) rest point exp digit
      else if digit then some (acc.reverse, cs, point || exp) else none
    | [] => if digit then some (acc.reverse, [], point || exp) else none

/-- A number after an optional sign: a based integer, `inf`, `nan` or a decimal number. -/
def numberRound (cs : List Char) : Round :=
  let based : Option Round :=
    match cs with
    | '0' :: b :: rest =>
      match baseDigit b with
      | some ok =>
        let ds := rest.takeWhile ok
        if ds.isEmpty then some (failWith [])
        else some ([.integer (str ('0' :: b :: ds))], some (.value, rest.drop ds.length, []))
      | none => if b.isAlpha then some (failWith []) else none
    | _ => none
  match based with
  | some r => r
  | none =>
    let (sign, body) := match cs with
      | '+' :: rest => (['+'], rest)
      | '-' :: rest => (['-'], rest)
      | _ => ([], cs)
    if !sign.isEmpty && follows "inf" body then
      ([.inf (str (sign ++ "inf".toList))], some (.value, body.drop 3, []))
    else if !sign.isEmpty && follows "nan" body then
      ([.nan (str (sign ++ "nan".toList))], some (.value, body.drop 3, []))
    else
      match numberBody (body.length + 1) [] body false false false with
      | some (ds, rest, isFloat) =>
        let text := str (sign ++ ds)
        ([if isFloat then .float text else .integer text], some (.value, rest, []))
      | none => failWith []

/-- `n` digits at the start of `cs`, and the rest. -/
def digits (n : Nat) (cs : List Char) : Option (List Char × List Char) :=
  let ds := cs.take n
  if ds.length == n && ds.all isDigit then some (ds, cs.drop n) else none

/-- A time `HH:MM:SS` with an optional fraction. -/
def timeText (cs : List Char) : Option (List Char × List Char) := do
  let (h, r1) ← digits 2 cs
  let r1' ← match r1 with
    | ':' :: r => some r
    | _ => none
  let (m, r2) ← digits 2 r1'
  let r2' ← match r2 with
    | ':' :: r => some r
    | _ => none
  let (s, r3) ← digits 2 r2'
  match r3 with
  | '.' :: r4 =>
    let frac := r4.takeWhile isDigit
    if frac.isEmpty then none
    else some (h ++ ':' :: m ++ ':' :: s ++ '.' :: frac, r4.drop frac.length)
  | _ => some (h ++ ':' :: m ++ ':' :: s, r3)

/-- A time offset `Z` or `+HH:MM` / `-HH:MM`, if one follows; an offset that starts but is
malformed is an error. -/
def offsetText (cs : List Char) : Option (Option (List Char) × List Char) :=
  match cs with
  | 'Z' :: rest => some (some ['Z'], rest)
  | s :: rest =>
    if s == '+' || s == '-' then do
      let (h, r1) ← digits 2 rest
      let r1' ← match r1 with
        | ':' :: r => some r
        | _ => none
      let (m, r2) ← digits 2 r1'
      some (some (s :: h ++ ':' :: m), r2)
    else some (none, cs)
  | [] => some (none, [])

/-- A date, a date and time, or a time, starting with digits. A date ends the text, or goes on
with a time after a `T`, or after a space when two digits follow it; a space before anything else
ends the date. -/
def dateRound (cs : List Char) : Round :=
  match cs with
  | a :: b :: ':' :: rest =>
    match digits 2 rest with
    | some (m, r1) =>
      match r1 with
      | ':' :: r2 =>
        match timeText (a :: b :: ':' :: m ++ ':' :: r2) with
        | some (t, rest') => ([.localTime (str t)], some (.value, rest', []))
        | none => failWith []
      | _ => failWith []
    | none => failWith []
  | _ =>
    match digits 4 cs with
    | some (y, '-' :: r1) =>
      match digits 2 r1 with
      | some (mo, '-' :: r2) =>
        match digits 2 r2 with
        | some (d, r3) =>
          let date := Token.localDate (str (y ++ '-' :: mo ++ '-' :: d))
          let timeStart : Option (Option (List Char)) := match r3 with
            | [] => some none
            | 'T' :: r4 => some (some r4)
            | ' ' :: r4 =>
              match r4 with
              | x :: y' :: _ => if isDigit x && isDigit y' then some (some r4) else some none
              | _ => some none
            | _ => none
          match timeStart with
          | none => failWith [date]
          | some none => ([date], some (.value, r3, []))
          | some (some r4) =>
            match timeText r4 with
            | some (t, r5) =>
              match offsetText r5 with
              | some (some off, r6) =>
                ([date, .localTime (str t), .timeOffset (str off)], some (.value, r6, []))
              | some (none, r6) => ([date, .localTime (str t)], some (.value, r6, []))
              | none => failWith [date, .localTime (str t)]
            | none => failWith [date]
        | none => failWith []
      | _ => failWith []
    | _ => failWith []

/-- A value that starts with a digit: a date or time when the first five characters show one,
a number otherwise. -/
def digitRound (cs : List Char) : Round :=
  let look := cs.take 5
  if look.length < 3 then numberRound cs
  else
    match (look.zipIdx).find? fun (c, _) => !isDigit c with
    | some (':', 2) => dateRound cs
    | some ('-', 4) => dateRound cs
    | _ => numberRound cs

/-- The top of the bracket stack. -/
def top? (br : List Char) : Option Char := br.head?

/-- One round between statements. -/
def voidRound (cs : List Char) (br : List Char) : Round :=
  match cs with
  | [] => ([.eof], none)
  | '}' :: rest =>
    if top? br == some '{' then ([.rightBrace], some (.value, rest, br.drop 1))
    else failWith [.rightBrace]
  | '[' :: '[' :: rest =>
    match arrayHeaderText (rest.length + 1) rest [] with
    | some (runs, rest') =>
      (.doubleLeftBracket :: runs.map .tableArrayKey ++ [.doubleRightBracket],
        some (.void, rest', br))
    | none => failWith [.doubleLeftBracket]
  | '[' :: rest =>
    match headerText rest with
    | some (body, rest') =>
      (.leftBracket :: (if body.isEmpty then [] else [.tableKey (str body)]) ++ [.rightBracket],
        some (.void, rest', br))
    | none => failWith [.leftBracket]
  | '#' :: rest => ([], some (.void, skipComment rest, br))
  | '=' :: rest => ([.equal], some (.value, rest, br))
  | c :: rest =>
    if c == '\r' || c == '\n' || isSpace c then ([], some (.void, rest, br))
    else
      match keyText (cs.length + 1) [] cs with
      | some (k, rest') => ([.key (str k)], some (.void, rest', br))
      | none => failWith []

/-- One round after an `=`. -/
def valueRound (cs : List Char) (br : List Char) : Round :=
  match cs with
  | [] => ([.eof], none)
  | '.' :: _ => failWith []
  | '=' :: rest => ([.equal], some (.value, rest, br))
  | '[' :: rest => ([.leftBracket], some (.value, rest, '[' :: br))
  | ']' :: rest =>
    if top? br == some '[' then ([.rightBracket], some (.value, rest, br.drop 1))
    else failWith [.rightBracket]
  | '{' :: rest => ([.leftBrace], some (.void, rest, '{' :: br))
  | '}' :: rest =>
    if top? br == some '{' then ([.rightBrace], some (.value, rest, br.drop 1))
    else failWith [.rightBrace]
  | '#' :: rest => ([], some (.value, skipComment rest, br))
  | '"' :: rest =>
    match basicString rest with
    | some (s, rest') => ([.str s], some (.value, rest', br))
    | none => failWith []
  | '\'' :: rest =>
    match literalString rest with
    | some (s, rest') => ([.str s], some (.value, rest', br))
    | none => failWith []
  | ',' :: rest => ([.comma], some (if top? br == some '{' then .void else .value, rest, br))
  | c :: rest =>
    if c == '\r' || c == '\n' then
      ([], some (if top? br == some '[' then .value else .void, rest, br))
    else if follows "true" cs then ([.boolean true], some (.value, cs.drop 4, br))
    else if follows "false" cs then ([.boolean false], some (.value, cs.drop 5, br))
    else if follows "inf" cs then ([.inf "inf"], some (.value, cs.drop 3, br))
    else if follows "nan" cs then ([.nan "nan"], some (.value, cs.drop 3, br))
    else if isSpace c then ([], some (.value, rest, br))
    else
      let (ts, next) := if c == '+' || c == '-' then numberRound cs else
        if isDigit c then digitRound cs else failWith []
      (ts, next.map fun (m, rest', _) => (m, rest', br))

/-- Cut a text into tokens, for at most `fuel` rounds. -/
def tokenizeFrom : Nat → Mode → List Char → List Char → Array Token → Array Token
  | 0, _, _, _, acc => acc.push .error
  | fuel + 1, mode, cs, br, acc =>
    let (ts, next) := match mode with
      | .void => voidRound cs br
      | .value => valueRound cs br
    let acc' := acc ++ ts.toArray
    match next with
    | none => acc'
    | some (mode', cs', br') => tokenizeFrom fuel mode' cs' br' acc'

/-- The tokens of a TOML text, ending with `eof` or, at the first error, with `error`. Each
round consumes a character or more, so twice the length plus two rounds are enough. -/
def tokenize (text : String) : Array Token :=
  let cs := text.toList
  tokenizeFrom (2 * cs.length + 2) .void cs [] #[]

end CrossBuild.Toml
