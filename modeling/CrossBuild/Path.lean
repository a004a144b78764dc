/-!
# Slash-separated paths

Paths are texts whose components are separated by `/`; a path that starts with `/` is absolute.
All operations here are lexical: they never look at a file system.

* `clean` gives the shortest path that names the same file by lexical rules alone: it drops
  empty and `.` components, lets `..` remove the component before it, drops `..` right after
  the root, and writes `.` for an empty result.
* `join` cleans the non-empty parts put together with `/`, and is empty when every part is.
* `base`, `dir` and `ext` take the last component, everything before it, and the suffix of the
  last component from its last dot.
* `isLocal` holds of a non-empty relative path whose cleaned form does not climb out with `..`.

| path | clean | base | dir | ext |
|---|---|---|---|---|
| `a//b/./c/..` | `a/b` | `..` | `a/b/c` | `` |
| `/../x.tar.gz` | `/x.tar.gz` | `x.tar.gz` | `/` | `.gz` |
| `` | `.` | `.` | `.` | `` |
-/

namespace CrossBuild.Path

/-- The pieces of a path between its slashes, empty ones included. -/
def pieces (s : List Char) : List (List Char) :=
  s.splitOn '/'

/-- The parent marker `..`. -/
def parentMark : List Char := ['.', '.']

/-- Fold one piece into the stack of kept components, the last one on top. Empty pieces and `.`
are dropped; `..` removes the component on top, is dropped at the root of an absolute path, and
is kept when the stack is empty or has `..` on top. -/
def push (rooted : Bool) (stack : List (List Char)) (p : List Char) : List (List Char) :=
  if p = [] ∨ p = ['.'] then stack
  else if p = parentMark then
    match stack with
    | top :: rest => if top = parentMark then parentMark :: stack else rest
    | [] => if rooted then [] else [parentMark]
  else p :: stack

/-- The components of a cleaned path, first component first. -/
def components (s : List Char) : List (List Char) :=
  ((pieces s).foldl (push (s.head? = some '/')) []).reverse

/-- Components put together with `/` between them. -/
def unsplit : List (List Char) → List Char
  | [] => []
  | [c] => c
  | c :: cs => c ++ '/' :: unsplit cs

/-- The lexically shortest equivalent path, as a list of characters. -/
def cleanList (s : List Char) : List Char :=
  let body := unsplit (components s)
  if s.head? = some '/' then '/' :: body
  else if body = [] then ['.'] else body

/-- The lexically shortest equivalent path. -/
def clean (s : String) : String :=
  String.ofList (cleanList s.toList)

/-- Whether a path is absolute. -/
def isAbs (s : String) : Bool :=
  s.startsWith "/"

/-- The non-empty parts put together with `/` and cleaned; empty when every part is empty.
Empty parts after the first non-empty one only add a slash that cleaning removes again. -/
def join (parts : List String) : String :=
  match parts.dropWhile (· == "") with
  | [] => ""
  | rest => clean ("/".intercalate rest)

/-- Whether a path stays inside the directory it is taken from: it is neither empty nor
absolute, and its cleaned form is not `..` and does not start with `../`. -/
def isLocal (s : String) : Bool :=
  s != "" && !isAbs s &&
    (let c := clean s
     c != ".." && !c.startsWith "../")

/-- The last component, after trailing slashes are removed; `.` for the empty path and `/`
for a path of slashes only. -/
def base (s : String) : String :=
  if s = "" then "."
  else
    let trimmed := s.toList.reverse.dropWhile (· = '/')
    match trimmed with
    | [] => "/"
    | _ => String.ofList (trimmed.takeWhile (· ≠ '/')).reverse

/-- Everything before the last component, cleaned. -/
def dir (s : String) : String :=
  let front := (s.toList.reverse.dropWhile (· ≠ '/')).reverse
  String.ofList (cleanList front)

/-- The suffix of the last component that starts at its last dot, or empty without a dot. -/
def ext (s : String) : String :=
  let last := (s.toList.reverse.takeWhile (· ≠ '/'))
  if last.contains '.' then
    String.ofList ('.' :: (last.takeWhile (· ≠ '.')).reverse)
  else ""

/-- A path without the suffix `suffix`, when it ends with it. -/
def dropSuffix (s suffix : String) : String :=
  if s.endsWith suffix then String.ofList (s.toList.take (s.length - suffix.length)) else s

end CrossBuild.Path
