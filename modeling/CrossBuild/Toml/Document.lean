import CrossBuild.Toml.Token

/-!
# TOML documents

A document is a table: a list of entries, each key once, whose values are strings, other
scalars (numbers, booleans, dates and times, kept as their text), arrays, tables, and arrays of
tables. A table written inline (`{ ... }`) is closed: no later statement may add to it.

`Document.read` follows the statements in order:

* `[a.b]` opens a table, creating missing tables on the way; a header text seen before is an
  error, and so is a header that lands on an inline table.
* `[[a.b]]` appends a table to an array of tables and opens it.
* `k = v` (also with a dotted key) adds an entry to the open table; a key that is already there
  is an error, and so is a key whose table is inline.

Values are checked as they are read: integers must fit in 64 bits (signed, or unsigned when
positive), floats must be finite, dates and times must name real ones. A text may start with
one byte order mark, which is dropped.
-/

namespace CrossBuild.Toml

/-- A value of a document. -/
inductive Node where
  | str (s : String)
  /-- An integer: signed 64 bits, or unsigned 64 bits when written without a sign. -/
  | integer (n : Int)
  /-- A float, boolean, date or time, as its text. -/
  | other (text : String)
  | array (items : List Node)
  | table (inline : Bool) (entries : List (String × Node))
  /-- An array of tables; the last is the one later statements add to. -/
  | tables (items : List Node)
  deriving Repr, Inhabited

/-- Why a text is no document. -/
inductive ReadError where
  /-- The text breaks a rule of the format. -/
  | malformed
  deriving DecidableEq, Repr

/-- Entries of a table. -/
abbrev Entries := List (String × Node)

/-- The value of a key among entries. -/
def lookup (es : Entries) (k : String) : Option Node :=
  (es.find? (·.1 == k)).map (·.2)

/-- Set a key, replacing its value or adding it at the end. -/
def setEntry (es : Entries) (k : String) (v : Node) : Entries :=
  if es.any (·.1 == k) then es.map fun (k', v') => if k' == k then (k', v) else (k', v')
  else es ++ [(k, v)]

/-- The value at a path, going into the last table of an array of tables; the empty path is
the table itself. -/
def getPath (inline : Bool) (es : Entries) : List String → Option Node
  | [] => some (.table inline es)
  | [k] => lookup es k
  | k :: ks =>
    match lookup es k with
    | some (.table i es') => getPath i es' ks
    | some (.tables items) =>
      match items.getLast? with
      | some (.table i es') => getPath i es' ks
      | _ => none
    | _ => none

/-- Replace the last item of a list. -/
def setLast (items : List Node) (v : Node) : List Node :=
  items.dropLast ++ [v]

/-- Make sure the tables along a path exist, creating missing ones with the inline mark of
their parent; a path through any other value is an error. -/
def createPath (inline : Bool) (es : Entries) : List String → Except ReadError Entries
  | [] => .ok es
  | k :: ks =>
    match lookup es k with
    | none => do
      let sub ← createPath inline [] ks
      pure (setEntry es k (.table inline sub))
    | some (.table i es') => do
      let sub ← createPath i es' ks
      pure (setEntry es k (.table i sub))
    | some (.tables items) =>
      match items.getLast? with
      | some (.table i es') => do
        let sub ← createPath i es' ks
        pure (setEntry es k (.tables (setLast items (.table i sub))))
      | _ => .error .malformed
    | some _ => .error .malformed

/-- Set the value at a path, creating missing tables (not inline) and going into the last table
of an array of tables. A path step through any other value stays where it is. -/
def setPath (es : Entries) : List String → Node → Entries
  | [], _ => es
  | [k], v => setEntry es k v
  | k :: ks, v =>
    match lookup es k with
    | none => setEntry es k (.table false (setPath [] ks v))
    | some (.table i es') => setEntry es k (.table i (setPath es' ks v))
    | some (.tables items) =>
      match items.getLast? with
      | some (.table i es') => setEntry es k (.tables (setLast items (.table i (setPath es' ks v))))
      | _ => setEntry es k (.tables (items ++ [.table false (setPath [] ks v)]))
    | some _ => setPath es ks v

/-- Change the table at a path with `f`, which sees its inline mark and entries; the path goes
into the last table of an array of tables and must lead to a table. -/
def modifyAt (inline : Bool) (es : Entries) (f : Bool → Entries → Except ReadError Entries) :
    List String → Except ReadError Entries
  | [] => f inline es
  | k :: ks =>
    match lookup es k with
    | some (.table i es') => do
      let sub ← modifyAt i es' f ks
      pure (setEntry es k (.table i sub))
    | some (.tables items) =>
      match items.getLast? with
      | some (.table i es') => do
        let sub ← modifyAt i es' f ks
        pure (setEntry es k (.tables (setLast items (.table i sub))))
      | _ => .error .malformed
    | _ => .error .malformed

/-- The parts of a key text: bare parts, and quoted parts taken as they stand between their
quotes, separated by dots with optional spaces around them. -/
def keyParts (text : String) : Option (List String) :=
  let rec go : Nat → List Char → List String → Option (List String)
    | 0, _, _ => none
    | fuel + 1, cs, acc =>
      match cs.dropWhile isSpace with
      | [] => if acc.isEmpty then none else some acc.reverse
      | c :: rest =>
        if isBareChar c then
          let part := (c :: rest).takeWhile isBareChar
          let after := (c :: rest).drop part.length
          match after with
          | [] => go fuel [] (str part :: acc)
          | '.' :: _ => go fuel after (str part :: acc)
          | d :: _ =>
            if isSpace d then
              match after.dropWhile isSpace with
              | [] => go fuel [] (str part :: acc)
              | '.' :: more => go fuel ('.' :: more) (str part :: acc)
              | _ => none
            else none
        else if c == '\'' || c == '"' then
          let part := rest.takeWhile (· != c)
          match rest.drop part.length with
          | _ :: after => go fuel after (str part :: acc)
          | [] => none
        else if c == '.' then
          match rest with
          | d :: _ =>
            if isBareChar d || d == '\'' || d == '"' || d == ' ' then go fuel rest acc else none
          | [] => none
        else none
  if text.isEmpty then none else go (text.length + 1) text.toList []

/-- The value of digits in a base. -/
def digitsValue (base : Nat) (ds : List Char) : Nat :=
  ds.foldl (fun n d => n * base + (if isDigit d then d.toNat - 48
    else if 'a' ≤ d && d ≤ 'z' then d.toNat - 87 else d.toNat - 55)) 0

/-- Whether every `_` of a number stands right after a digit and before another character. -/
def underscoresOk (isDigitOf : Char → Bool) : Bool → List Char → Bool
  | _, [] => true
  | before, c :: rest =>
    if c == '_' && (!before || rest.isEmpty) then false
    else underscoresOk isDigitOf (isDigitOf c) rest

/-- The largest signed 64-bit integer plus one. -/
def signedLimit : Nat := Nat.pow 2 63

/-- The largest unsigned 64-bit integer plus one. -/
def unsignedLimit : Nat := Nat.pow 2 64

/-- The value of an integer token, when it names an integer that fits: signed 64 bits, or
unsigned 64 bits without a sign. Underscores must stand right after a digit and not last; a
decimal of three or more characters may not start with `0`. -/
def integerValue (text : String) : Option Int :=
  let raw := text.toList
  let cs := raw.filter (· != '_')
  let within (ok : Bool) (n : Nat) (limit : Nat) : Option Int :=
    if ok && n < limit then some n else none
  match cs with
  | '0' :: b :: d :: ds =>
    if b == 'x' then within (underscoresOk isHexDigit false raw) (digitsValue 16 (d :: ds)) unsignedLimit
    else if b == 'o' then within (underscoresOk isDigit false raw) (digitsValue 8 (d :: ds)) unsignedLimit
    else if b == 'b' then within (underscoresOk isDigit false raw) (digitsValue 2 (d :: ds)) unsignedLimit
    else none
  | _ =>
    let ok (ds : List Char) := underscoresOk isDigit false raw && !ds.isEmpty && ds.all isDigit
    match cs with
    | '-' :: ds => (within (ok ds) (digitsValue 10 ds) (signedLimit + 1)).map (- ·)
    | '+' :: ds => within (ok ds) (digitsValue 10 ds) signedLimit
    | ds => within (ok ds) (digitsValue 10 ds) unsignedLimit

/-- The digits of a decimal float and the power of ten they are scaled by, for a text of the
form `[+-]digits[.digits][(e|E)[+-]digits]`, or nothing. -/
def floatParts (cs : List Char) : Option (List Char × Int) :=
  let body := match cs with
    | '+' :: r => r
    | '-' :: r => r
    | r => r
  let whole := body.takeWhile isDigit
  let r1 := body.drop whole.length
  let (frac, r2) := match r1 with
    | '.' :: r => (r.takeWhile isDigit, some (r.drop (r.takeWhile isDigit).length))
    | r => ([], some r)
  match r2 with
  | none => none
  | some r2 =>
    if whole.isEmpty && frac.isEmpty then none
    else if r1.head? == some '.' && frac.isEmpty then none
    else
      let expo : Option Int := match r2 with
        | [] => some 0
        | e :: r => if e == 'e' || e == 'E' then
            let (neg, ds) := match r with
              | '+' :: d => (false, d)
              | '-' :: d => (true, d)
              | d => (false, d)
            if !ds.isEmpty && ds.all isDigit then
              some (if neg then -(digitsValue 10 ds : Int) else (digitsValue 10 ds : Int))
            else none
          else none
      expo.map fun x => (whole ++ frac, x - frac.length)

/-- Whether a float token names a finite double: well formed, with underscores between digits,
and not beyond the largest double. The value is `sig * 10^x`, with `sig.length + x` digits before
the point; at 309 digits it is compared with the largest double, 1.7976931348623157e308, and half
a unit of its last place, and a tie rounds to the even infinity. -/
def floatOk (text : String) : Bool :=
  let raw := text.toList
  underscoresOk isDigit false raw &&
    match floatParts (raw.filter (· != '_')) with
    | none => false
    | some (ds, x) =>
      let sig := ds.dropWhile (· == '0')
      if sig.isEmpty then true
      else
        let magnitude := (sig.length : Int) + x
        if magnitude < 309 then true
        else if 309 < magnitude then false
        else
          let limit := 179769313486231580793728971405303415079934132710037826936173778980444968292764750946649017977587207096330286416692887910946555547851940402630657488671505820681908902000708383676273854845817711531764475730270069855571366959622842914819860834936475292719074168444365510704342711559699508093042880177904174497792
          let n := digitsValue 10 sig
          let shift := (x.toNat)
          if x < 0 then n < limit * Nat.pow 10 (-x).toNat else n * Nat.pow 10 shift < limit

/-- Days in a month of a year. -/
def daysIn (month year : Nat) : Nat :=
  if month == 2 then
    (if year % 4 == 0 && (year % 100 != 0 || year % 400 == 0) then 29 else 28)
  else if month == 4 || month == 6 || month == 9 || month == 11 then 30 else 31

/-- Whether `YYYY-MM-DD` names a day. -/
def dateOk (text : String) : Bool :=
  match text.toList with
  | [y1, y2, y3, y4, '-', m1, m2, '-', d1, d2] =>
    let year := digitsValue 10 [y1, y2, y3, y4]
    let month := digitsValue 10 [m1, m2]
    let day := digitsValue 10 [d1, d2]
    1 ≤ month && month ≤ 12 && 1 ≤ day && day ≤ daysIn month year
  | _ => false

/-- Whether `HH:MM:SS` with an optional fraction names a time of day. -/
def timeOk (text : String) : Bool :=
  match text.toList with
  | h1 :: h2 :: ':' :: m1 :: m2 :: ':' :: s1 :: s2 :: _ =>
    digitsValue 10 [h1, h2] < 24 && digitsValue 10 [m1, m2] < 60 && digitsValue 10 [s1, s2] < 60
  | _ => false

/-- Whether a time offset is `Z` or has at most 24 hours and 60 minutes. -/
def offsetOk (text : String) : Bool :=
  match text.toList with
  | ['Z'] => true
  | [_, h1, h2, ':', m1, m2] => digitsValue 10 [h1, h2] ≤ 24 && digitsValue 10 [m1, m2] ≤ 60
  | _ => false

/-- What the reader keeps while it follows the statements. -/
structure Reader where
  /-- The entries of the document so far. -/
  root : Entries := []
  /-- The path of the open table. -/
  current : List String := []
  /-- The header texts met so far. -/
  seen : List String := []

/-- The token at a position; past the end, the end of the text. -/
def tokenAt (ts : Array Token) (i : Nat) : Token := ts.getD i .eof

/-- Fail: the text breaks a rule of the format. -/
def bad {α : Type} : Except ReadError α := .error .malformed

mutual

/-- Read a value at position `i`: the value and the position after it. -/
def readValue (ts : Array Token) : Nat → Nat → Except ReadError (Node × Nat)
  | 0, _ => bad
  | fuel + 1, i =>
    match tokenAt ts i with
    | .str s => .ok (.str s, i + 1)
    | .boolean b => .ok (.other (if b then "true" else "false"), i + 1)
    | .inf t => .ok (.other t, i + 1)
    | .nan t => .ok (.other t, i + 1)
    | .integer t =>
      match integerValue t with
      | some n => .ok (.integer n, i + 1)
      | none => bad
    | .float t => if floatOk t then .ok (.other t, i + 1) else bad
    | .localTime t => if timeOk t then .ok (.other t, i + 1) else bad
    | .localDate d =>
      match tokenAt ts (i + 1) with
      | .localTime t =>
        match tokenAt ts (i + 2) with
        | .timeOffset o =>
          if dateOk d && timeOk t && offsetOk o then .ok (.other (d ++ "T" ++ t ++ o), i + 3)
          else bad
        | _ => if dateOk d && timeOk t then .ok (.other (d ++ "T" ++ t), i + 2) else bad
      | _ => if dateOk d then .ok (.other d, i + 1) else bad
    | .leftBracket => readArray ts fuel (i + 1) []
    | .leftBrace => readInline ts fuel (i + 1) none []
    | _ => bad

/-- Read the items of an array after its `[`. -/
def readArray (ts : Array Token) : Nat → Nat → List Node → Except ReadError (Node × Nat)
  | 0, _, _ => bad
  | fuel + 1, i, acc =>
    match tokenAt ts i with
    | .eof => bad
    | .rightBracket =>
      let items := acc.reverse
      let allTables := !items.isEmpty && items.all fun
        | .table _ _ => true
        | _ => false
      .ok (if allTables then .tables items else .array items, i + 1)
    | _ => do
      let (v, j) ← readValue ts fuel i
      match tokenAt ts j with
      | .rightBracket => readArray ts fuel j (v :: acc)
      | .comma => readArray ts fuel (j + 1) (v :: acc)
      | _ => bad

/-- Read the entries of an inline table after its `{`; `prev` says whether the token before
was a comma (some true), an entry (some false), or nothing yet. -/
def readInline (ts : Array Token) : Nat → Nat → Option Bool → Entries →
    Except ReadError (Node × Nat)
  | 0, _, _, _ => bad
  | fuel + 1, i, prev, es =>
    match tokenAt ts i with
    | .eof => bad
    | .rightBrace =>
      if prev == some true then bad else .ok (.table true es, i + 1)
    | .key k => readField ts fuel i prev es k
    | .str k => readField ts fuel i prev es k
    | .integer k => readField ts fuel i prev es k
    | .comma => if prev == some true then bad else readInline ts fuel (i + 1) (some true) es
    | _ => bad

/-- Read one field `k = v` of an inline table; it must not follow another field directly. -/
def readField (ts : Array Token) (fuel : Nat) (i : Nat) (prev : Option Bool) (es : Entries)
    (k : String) : Except ReadError (Node × Nat) :=
  if prev == some false then bad
  else
    match tokenAt ts (i + 1) with
    | .equal =>
      match keyParts k with
      | none => bad
      | some parts => do
        let (v, j) ← readValue ts fuel (i + 2)
        readInline ts fuel j (some false) (setPath es parts v)
    | _ => bad

end

/-- Remove the header texts that lie under `text`, and add `text` unless the last one left
is `text`. -/
def forgetUnder (seen : List String) (text : String) : List String :=
  let kept := seen.filter fun t => !t.startsWith (text ++ ".")
  if kept.getLast? == some text then kept else kept ++ [text]

/-- Follow the statement at position `i`. -/
def readStatement (ts : Array Token) (fuel : Nat) (r : Reader) (i : Nat) :
    Except ReadError (Option (Reader × Nat)) :=
  match tokenAt ts i with
  | .eof => .ok none
  | .doubleLeftBracket =>
    match tokenAt ts (i + 1) with
    | .tableArrayKey text =>
      match keyParts text with
      | none => bad
      | some keys =>
        let root := match createPath false r.root keys.dropLast with
          | .ok es => es
          | .error _ => r.root
        do
        let items ← match getPath false root keys with
          | none => .ok []
          | some (.tables items) => .ok items
          | some _ => bad
        let root' := setPath root keys (.tables (items ++ [.table false []]))
        match tokenAt ts (i + 2) with
        | .doubleRightBracket =>
          .ok (some ({ root := root', current := keys, seen := forgetUnder r.seen text }, i + 3))
        | _ => bad
    | _ => bad
  | .leftBracket =>
    match tokenAt ts (i + 1) with
    | .tableKey text =>
      if r.seen.contains text then bad
      else
        match keyParts text with
        | none => bad
        | some keys => do
          let root ← createPath false r.root keys
          match getPath false root keys with
          | some (.table true _) => bad
          | _ =>
            match tokenAt ts (i + 2) with
            | .rightBracket =>
              .ok (some ({ root, current := keys, seen := r.seen ++ [text] }, i + 3))
            | _ => bad
    | _ => bad
  | .key k =>
    match tokenAt ts (i + 1) with
    | .equal =>
      match keyParts k with
      | none => bad
      | some parts => do
        let (v, j) ← readValue ts fuel (i + 2)
        let tableKey := r.current ++ parts.dropLast
        let last := parts.getLast?.getD ""
        let root ← match getPath false r.root tableKey with
          | some (.table _ _) => .ok r.root
          | some (.tables _) => .ok r.root
          | none => createPath false r.root tableKey
          | some _ => bad
        let root' ← modifyAt false root (fun inline es =>
          if inline then bad
          else if (lookup es last).isSome then bad
          else .ok (setEntry es last v)) tableKey
        .ok (some ({ r with root := root' }, j))
    | _ => bad
  | _ => bad

/-- Follow statements from position `i` for at most `fuel` statements. -/
def readFrom (ts : Array Token) (fuel : Nat) : Nat → Reader → Nat → Except ReadError Entries
  | 0, _, _ => bad
  | n + 1, r, i => do
    match ← readStatement ts fuel r i with
    | none => .ok r.root
    | some (r', j) => readFrom ts fuel n r' j

/-- A text without the byte order mark it may start with. -/
def dropByteOrderMark (text : String) : String :=
  match text.toList with
  | '\uFEFF' :: rest => String.ofList rest
  | _ => text

/-- Read a TOML text into the entries of its top table. -/
def read (text : String) : Except ReadError Entries :=
  let ts := tokenize (dropByteOrderMark text)
  readFrom ts (ts.size + 1) (ts.size + 1) {} 0

end CrossBuild.Toml
