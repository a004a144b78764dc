import CrossBuild.Header.Decl
import CrossBuild.Header.Symbols
import CrossBuild.Fault
import CrossBuild.Text.LineScanner

/-!
# Scanning headers

A header is read as bytes by a line scanner (`CrossBuild.Text.LineScanner`) whose buffer starts
at `bufferSize` bytes and may grow up to `lineLimit`: a line of `lineLimit - 1` bytes and its
line feed still fits, and a longer one stops the scan with a read fault. Each declaration line
(`CrossBuild.Header.Decl`) must yield a name, which joins the symbol set; a line that yields
none stops the scan with an `extract` fault that gives the file, the line number from 1, the
line and the cause.

A failed scan still returns the symbols gathered before the failure.
-/

namespace CrossBuild.Header

open CrossBuild.Text

/-- The size a header scanner's buffer starts with. -/
def bufferSize : Nat := 65536

/-- The size a header scanner's buffer may grow to: the longest line, counting its line feed. -/
def lineLimit : Nat := 1048576

/-- The text of a line read as bytes. -/
def lineText (l : List UInt8) : String :=
  (String.fromUTF8? l.toByteArray).getD ""

/-- The fault of a header that could not be read to its end. -/
def readFault (file : String) (e : ScanError) : Fault :=
  .wrap ("failed to read " ++ file) (some (.plain e.message))

/-- Scan lines numbered from `n`, adding names to `syms`. -/
def scanLines (file : String) (syms : Symbols) (n : Nat) :
    List (List UInt8) → Symbols × Option Fault
  | [] => (syms, none)
  | l :: rest =>
    let text := lineText l
    if isDecl text then
      match extractName text with
      | .ok name => scanLines file (syms.add name).2 (n + 1) rest
      | .error e => (syms, some (.extract file (n + 1) text e))
    else scanLines file syms (n + 1) rest

/-- Scan one header text, as `rd` hands out its bytes, into a symbol set. -/
def scan (rd : Reader) (file text : String) (syms : Symbols) : Symbols × Option Fault :=
  let read := (LineScanner.new bufferSize lineLimit text.toUTF8.data.toList).run rd
  match scanLines file syms 0 read.1 with
  | (syms', none) => (syms', read.2.map (readFault file))
  | failed => failed

/-- Scan header texts in order into one symbol set, stopping at the first fault. -/
def scanAll (rd : Reader) : List (String × String) → Symbols → Symbols × Option Fault
  | [], syms => (syms, none)
  | (file, text) :: rest, syms =>
    match scan rd file text syms with
    | (syms', none) => scanAll rd rest syms'
    | failed => failed

end CrossBuild.Header
