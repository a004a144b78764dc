import CrossBuild.Header.Scan

/-!
# Comma-separated records

`firstRecord` reads the first record of a comma-separated text, which is how list-valued options
are read. Lines end at a line feed (a carriage return before it is dropped) and empty lines are
skipped. A field either runs to the next comma or the end of the line, and may not hold a
double quote; or it is quoted, holds `""` for a quote, may run over line ends, and its closing
quote must be followed by a comma or the end of the line.

Faults name the line and the byte column (both from 1) where they are found:
`parse error on line L, column C: bare " in non-quoted field` or
`... extraneous or missing " in quoted-field`, prefixed with `record on line S;` when the
record started on an earlier line. A text with no record at all fails with `EOF`.
-/

namespace CrossBuild.Csv

/-- The lines of a text, each with its line feed; a last line without one loses a final
carriage return. -/
def lines (cs : List Char) : List (List Char) :=
  let pieces := cs.splitOn '\n'
  let withBreaks := (pieces.dropLast.map (· ++ ['\n']))
  let last := pieces.getLast?.getD []
  let lastLine := if last.getLast? == some '\r' then last.dropLast else last
  let all := withBreaks ++ (if lastLine.isEmpty then [] else [lastLine])
  all.map fun l =>
    match l.reverse with
    | '\n' :: '\r' :: rest => (rest.reverse) ++ ['\n']
    | _ => l

/-- The number of bytes of characters in UTF-8. -/
def byteLength (cs : List Char) : Nat :=
  cs.foldl (fun n c => n + c.utf8Size) 0

/-- Whether what is left of a line is only its line feed, or nothing. -/
def atLineEnd (cs : List Char) : Bool := cs.isEmpty || cs == ['\n']

/-- A parse fault at a line and column of a record that started on line `start`. -/
def fault (start line col : Nat) (what : String) : String :=
  (if start != line then "record on line " ++ toString start ++ "; " else "") ++
    "parse error on line " ++ toString line ++ ", column " ++ toString col ++ ": " ++ what

/-- The fault text of a quote in an unquoted field. -/
def bareQuote : String := "bare \" in non-quoted field"

/-- The fault text of a quoted field that is badly closed. -/
def badQuote : String := "extraneous or missing \" in quoted-field"

/-- Where the reading of a record is: the rest of the current line, the lines after it, the
number of lines read, the line and column of the position, and the line the record started. -/
structure Cursor where
  line : List Char
  more : List (List Char)
  read : Nat
  posLine : Nat
  col : Nat
  start : Nat

mutual

/-- Read fields from the cursor on; `acc` holds the fields read, last first. -/
def fields : Nat → Cursor → List String → Except String (List String)
  | 0, _, acc => .ok acc.reverse
  | fuel + 1, c, acc =>
    if c.line.head? == some '"' then
      quoted fuel { c with line := c.line.drop 1, col := c.col + 1 } [] acc
    else
      let field := c.line.takeWhile (· != ',')
      let hasComma := field.length < c.line.length
      let field := if hasComma then field else field.filter (· != '\n')
      match field.findIdx? (· == '"') with
      | some j => .error (fault c.start c.read (c.col + byteLength (field.take j)) bareQuote)
      | none =>
        let acc := String.ofList field :: acc
        if hasComma then
          fields fuel { c with line := c.line.drop (field.length + 1),
                               col := c.col + byteLength field + 1 } acc
        else .ok acc.reverse

/-- Read the rest of a quoted field into `buf`, then the fields after it. -/
def quoted : Nat → Cursor → List Char → List String → Except String (List String)
  | 0, _, _, acc => .ok acc.reverse
  | fuel + 1, c, buf, acc =>
    match c.line.findIdx? (· == '"') with
    | some i =>
      let buf := buf ++ c.line.take i
      let rest := c.line.drop (i + 1)
      let col := c.col + byteLength (c.line.take i) + 1
      match rest with
      | '"' :: rest' => quoted fuel { c with line := rest', col := col + 1 } (buf ++ ['"']) acc
      | ',' :: rest' =>
        fields fuel { c with line := rest', col := col + 1 } (String.ofList buf :: acc)
      | _ =>
        if atLineEnd rest then .ok (String.ofList buf :: acc).reverse
        else .error (fault c.start c.read (col - 1) badQuote)
    | none =>
      if c.line.isEmpty then .error (fault c.start c.posLine c.col badQuote)
      else
        let buf := buf ++ c.line
        let col := c.col + byteLength c.line
        match c.more with
        | next :: more =>
          quoted fuel { c with line := next, more, read := c.read + 1, posLine := c.posLine + 1,
                               col := 1 } buf acc
        | [] => quoted fuel { c with line := [], read := c.read + 1, col } buf acc

end

/-- The first record of a comma-separated text. -/
def firstRecord (text : String) : Except String (List String) :=
  let ls := lines text.toList
  let skipped := (ls.takeWhile (· == ['\n'])).length
  match ls.drop skipped with
  | [] => .error "EOF"
  | first :: more =>
    let n := skipped + 1
    let c : Cursor := { line := first, more, read := n, posLine := n, col := 1, start := n }
    fields (2 * text.length + 4) c []

end CrossBuild.Csv
