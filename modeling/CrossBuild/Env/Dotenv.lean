import CrossBuild.Env.Vars
import CrossBuild.Disk
import CrossBuild.Text.Blank

/-!
# Environment files

An environment file sets variables, one statement after another:

* blanks between statements are skipped, and a `#` where a statement would start comments out
  the rest of its line;
* a statement is `KEY=VALUE` or `KEY: VALUE`, optionally after `export` and a space; the key
  is what comes before the first `=` or `:`, without blanks at its end, and may hold letters,
  digits, `_`, `.` and spaces. Keys are checked byte by byte, a byte above ASCII read as the
  Latin-1 character of that code, so only some characters beyond ASCII pass;
* a value in double quotes has `\n` and `\r` turned into line breaks, other backslash pairs
  turned into the second character (except before `$`), and then variables expanded; a value in
  single quotes is taken as it is; a quoted value ends at the first matching quote without a
  backslash before it, and a statement may follow on the same line;
* an unquoted value runs to the end of the line, loses a comment that starts with `#` after a
  blank, and its blanks at both ends, and has variables expanded.

Variables are expanded where `$NAME`, `${NAME}` or `$(NAME` is written with `NAME` of capital
letters, digits and `_`: the value the file gave `NAME` so far, else nothing. The environment
is not looked at, so neither variables set before nor those of earlier files are seen.
`\$` stands for `$` and starts no expansion.

Loading files sets, file after file, every variable of a file that is not set yet; a file that
cannot be read or parsed stops the loading, and the variables of files before it stay set.
-/

namespace CrossBuild.Dotenv

open CrossBuild.Text

/-- A blank inside a line: tab, vertical tab, form feed, carriage return, space, U+0085 and
U+00A0. -/
def isLineSpace (c : Char) : Bool :=
  c == '\t' || c == '\x0b' || c == '\x0c' || c == '\r' || c == ' ' || c.toNat == 0x85 ||
    c.toNat == 0xA0

/-- The bytes of the UTF-8 form of a character. -/
def utf8Bytes (c : Char) : List Nat :=
  (String.singleton c).toUTF8.toList.map (·.toNat)

/-- Whether a byte may stand in a key, read as a Latin-1 character: a blank, `_`, `.`, a
letter or a number. -/
def isKeyByte (b : Nat) : Bool :=
  b == 9 || b == 11 || b == 12 || b == 13 || b == 32 || b == 0x85 || b == 0xA0 ||
    b == 95 || b == 46 || (48 ≤ b && b ≤ 57) || (65 ≤ b && b ≤ 90) || (97 ≤ b && b ≤ 122) ||
    b == 0xAA || b == 0xB5 || b == 0xBA || b == 0xB2 || b == 0xB3 || b == 0xB9 ||
    (0xBC ≤ b && b ≤ 0xBE) || (0xC0 ≤ b && b ≤ 0xFF && b != 0xD7 && b != 0xF7)

/-- Skip to the start of the next statement, past blanks and comment lines. -/
def statementStart : Nat → List Char → List Char
  | 0, _ => []
  | fuel + 1, cs =>
    match cs.dropWhile isBlank with
    | '#' :: rest =>
      match rest.dropWhile (· != '\n') with
      | [] => []
      | nl => statementStart fuel nl
    | rest => rest

/-- The text after `export` and its blanks, when the statement starts with them. -/
def dropExport (cs : List Char) : List Char :=
  let cs := cs.dropWhile isLineSpace
  match cs with
  | 'e' :: 'x' :: 'p' :: 'o' :: 'r' :: 't' :: c :: rest =>
    if isLineSpace c then rest.dropWhile isLineSpace else cs
  | _ => cs

/-- The key of a statement and the text after its `=` or `:`. -/
def keyOf (src : List Char) : Except String (String × List Char) :=
  let src := dropExport src
  let rec go : List Char → List Char → Except String (Option (List Char × List Char))
    | _, [] => .ok none
    | acc, c :: rest =>
      if c == '=' || c == ':' then .ok (some (acc.reverse, rest))
      else
        match (utf8Bytes c).find? (!isKeyByte ·) with
        | some b =>
          .error ("unexpected character " ++ quote (String.singleton (Char.ofNat b)) ++
            " in variable name near " ++ quote (String.ofList src))
        | none => go (c :: acc) rest
  match go [] src with
  | .error e => .error e
  | .ok (some (key, rest)) =>
    .ok (String.ofList (key.reverse.dropWhile isBlank).reverse, rest.dropWhile isLineSpace)
  | .ok none =>
    if src.isEmpty then .error "zero length string" else .ok ("", src.dropWhile isLineSpace)

/-- Where a variable reference ends: an optional `(`, an optional `\x7b`, a name of capital
letters, digits and `_`, and an optional `\x7d`; with the name found. -/
def reference (cs : List Char) : List Char × List Char × List Char :=
  let isNameChar (c : Char) : Bool := ('A' ≤ c && c ≤ 'Z') || ('0' ≤ c && c ≤ '9') || c == '_'
  let (paren, r1) := match cs with
    | '(' :: r => (['('], r)
    | r => ([], r)
  let (brace, r2) := match r1 with
    | '\x7b' :: r => (['\x7b'], r)
    | r => ([], r)
  let name := r2.takeWhile isNameChar
  let r3 := r2.drop name.length
  let (close, r4) := match r3 with
    | '\x7d' :: r => (['\x7d'], r)
    | r => ([], r)
  (paren ++ brace ++ name ++ close, name, r4)

/-- Expand variable references, looking names up in the file's values so far. -/
def expand (fileVars : Environment) : Nat → List Char → List Char
  | 0, cs => cs
  | _ + 1, [] => []
  | fuel + 1, '\\' :: '$' :: rest =>
    let (written, _, after) := reference rest
    '$' :: written ++ expand fileVars fuel after
  | fuel + 1, '$' :: rest =>
    let (written, name, after) := reference rest
    let n := String.ofList name
    let replaced :=
      if name.isEmpty then '$' :: written
      else ((fileVars.get? n).getD "").toList
    replaced ++ expand fileVars fuel after
  | fuel + 1, c :: rest => c :: expand fileVars fuel rest

/-- Resolve backslash pairs of a double-quoted value: `\n` and `\r` become line breaks, and
then every backslash before a character other than `$` is dropped. -/
def unescapeQuoted (cs : List Char) : List Char :=
  let rec breaks : List Char → List Char
    | '\\' :: 'n' :: rest => '\n' :: breaks rest
    | '\\' :: 'r' :: rest => '\r' :: breaks rest
    | '\\' :: c :: rest => if c == '\n' then '\\' :: breaks (c :: rest) else '\\' :: c :: breaks rest
    | c :: rest => c :: breaks rest
    | [] => []
  let rec drops : List Char → List Char
    | '\\' :: c :: rest => if c == '$' then '\\' :: drops (c :: rest) else c :: drops rest
    | c :: rest => c :: drops rest
    | [] => []
  drops (breaks cs)

/-- The position of the closing quote `q` of a quoted value, the first `q` after the opening
one without a backslash before it. -/
def closingQuote (q : Char) : Nat → Char → List Char → Option Nat
  | _, _, [] => none
  | i, prev, c :: rest => if c == q && prev != '\\' then some i else closingQuote q (i + 1) c rest

/-- The value of a statement and the text after it. -/
def valueOf (fileVars : Environment) (src : List Char) : Except String (String × List Char) :=
  match src with
  | q :: rest =>
    if q == '"' || q == '\'' then
      match closingQuote q 1 q rest with
      | some i =>
        let body := ((src.take i).reverse.dropWhile (· == q)).reverse.dropWhile (· == q)
        let value := if q == '"' then
            expand fileVars (body.length + 1) (unescapeQuoted body)
          else body
        .ok (String.ofList value, src.drop (i + 1))
      | none =>
        .error ("unterminated quoted value " ++ String.ofList (src.takeWhile (· != '\n')))
    else unquoted
  | [] => unquoted
where
  unquoted : Except String (String × List Char) :=
    let line := src.takeWhile fun c => c != '\n' && c != '\r'
    let rest := src.drop line.length
    let marks := (line.zip (' ' :: line)).zipIdx.filter fun ((c, before), i) =>
      c == '#' && i > 0 && isLineSpace before
    let body := match marks.getLast? with
      | some (_, i) => line.take i
      | none => line
    let trimmed := ((body.dropWhile isLineSpace).reverse.dropWhile isLineSpace).reverse
    .ok (String.ofList (expand fileVars (trimmed.length + 1) trimmed), rest)

/-- The variables of an environment file in the order they are given, a later one replacing an
earlier one of the same key. -/
def parse (text : String) : Except String Environment :=
  let rec go : Nat → Environment → List Char → Except String Environment
    | 0, vars, _ => .ok vars
    | fuel + 1, vars, cs =>
      match statementStart (cs.length + 1) cs with
      | [] => .ok vars
      | stmt => do
        let (key, afterKey) ← keyOf stmt
        let (value, rest) ← valueOf vars afterKey
        go fuel (vars.set key value) rest
  let cs := (text.replace "\r\n" "\n").toList
  go (cs.length + 1) {} cs

/-- Whether a variable can be set: a non-empty key, and no NUL anywhere. -/
def settable (key value : String) : Bool :=
  !key.isEmpty && !key.contains '\x00' && !value.contains '\x00'

/-- Load environment files in order, setting each variable that is not set yet. -/
def loadFiles (d : Disk) (env : Environment) : List String → Environment × Option Fault
  | [] => (env, none)
  | file :: rest =>
    match d.readFile file with
    | .error f => (env, some f)
    | .ok text =>
      match parse text with
      | .error e => (env, some (.plain e))
      | .ok vars =>
        let env' := vars.vars.foldl (fun e (k, v) =>
          if (env.get? k).isNone && settable k v then e.set k v else e) env
        loadFiles d env' rest

end CrossBuild.Dotenv
