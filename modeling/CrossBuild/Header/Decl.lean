import CrossBuild.Text.Blank

/-!
# Declaration lines

A public header declares one function per line. A *declaration line* starts, at its first
character, with one of the two API markers `ALC_API ` and `AL_API ` (each with its space). The
declared name sits between the first `_APIENTRY` of the line and the first `(`, with blanks
(`CrossBuild.Text.Blank`) trimmed from both ends.

| line | name |
|---|---|
| `AL_API void AL_APIENTRY alEnable(int);` | `alEnable` |
| `AL_API void AL_APIENTRY alBroken;` | no `(`: `NameError.noParen` |
| `AL_API ( void AL_APIENTRY x(void);` | `(` before the marker: `NameError.noParen` |
| `AL_API void AL_APIENTRY (void);` | `NameError.emptyName` |

`extractName` reads any line, not only declaration lines: the scanner asks only about those.
-/

namespace CrossBuild.Header

open CrossBuild.Text

/-- The two API markers that open a declaration line. -/
def apiMarkers : List String := ["ALC_API ", "AL_API "]

/-- The text that stands right before a declared name. -/
def nameMarker : List Char := "_APIENTRY".toList

/-- Whether a line declares a function: it starts with one of the API markers. -/
def isDecl (line : String) : Bool :=
  apiMarkers.any fun p => line.startsWith p

/-- Why a line yields no declared name. -/
inductive NameError where
  /-- The line has no `_APIENTRY`. -/
  | noMarker
  /-- No `(` follows `_APIENTRY`, or the first `(` of the line comes before it. -/
  | noParen
  /-- Only blanks stand between `_APIENTRY` and the first `(`. -/
  | emptyName
  deriving DecidableEq, Repr

/-- The words of each cause, as messages print them. -/
def NameError.message : NameError → String
  | .noMarker => "missing _APIENTRY"
  | .noParen => "missing '(' after _APIENTRY"
  | .emptyName => "empty function name"

/-- A line cut at the first occurrence of `pat`: what stands before it and what follows it. -/
def cutAt (pat : List Char) : List Char → Option (List Char × List Char)
  | [] => if pat = [] then some ([], []) else none
  | c :: cs =>
    if pat.isPrefixOf (c :: cs) then some ([], (c :: cs).drop pat.length)
    else (cutAt pat cs).map fun (pre, post) => (c :: pre, post)

/-- The declared name of a line: the text between the first `_APIENTRY` and the first `(`,
trimmed of blanks. The first `(` must not come before the marker. -/
def extractNameList (line : List Char) : Except NameError (List Char) :=
  match cutAt nameMarker line with
  | none => .error .noMarker
  | some (pre, post) =>
    if pre.contains '(' || !post.contains '(' then .error .noParen
    else
      match trimBlankList (post.takeWhile (· ≠ '(')) with
      | [] => .error .emptyName
      | name => .ok name

/-- The declared name of a line, as `extractNameList` finds it. -/
def extractName (line : String) : Except NameError String :=
  (extractNameList line.toList).map String.ofList

end CrossBuild.Header
