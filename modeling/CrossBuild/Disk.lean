import CrossBuild.Fault
import CrossBuild.Path

/-!
# A disk

A `Disk` is a tree of files and directories, listed by their absolute locations (the components
of the path from the root `/`, which is always a directory), with a working directory.

Paths handed to the operations are resolved the way the system resolves them, one component
at a time and not lexically: a relative path starts at the working directory, empty and `.`
components stay where they are, `..` goes up (the root is its own parent), and every component
before the last must be a directory that exists, or the path fails with `notFound` or
`notDirectory`. The empty path names nothing.

| operation | faults |
|---|---|
| `readFile p` | `open p: E` when `p` does not resolve, `read p: is a directory` for a directory |
| `writeFile p t` | `open p: E`, `open p: is a directory` |
| `mkdirAll p` | `mkdir p: not a directory` when `p` or a parent is a file |
| `removeAll p` | `RemoveAll p: invalid argument` when `p` ends in `.`, `open d: E` and `unlinkat d/b: not a directory` when the parent `d` of `p` is no directory |

`removeAll` of a path that names nothing succeeds and changes nothing.

Every change the operations make is also kept, in order, as a `Change` at the absolute path it
was made at, so that the same changes can be made to another tree holding the same locations.
-/

namespace CrossBuild

/-- What a location of a disk holds. -/
inductive Item where
  | file (text : String)
  | dir
  deriving DecidableEq, Repr, Inhabited

/-- A change made to a disk, at an absolute path. -/
inductive Change where
  /-- A file was written with a text. -/
  | write (path text : String)
  /-- A directory was made. -/
  | makeDir (path : String)
  /-- A path and everything under it was removed. -/
  | remove (path : String)
  deriving DecidableEq, Repr

/-- A tree of files and directories with a working directory. -/
structure Disk where
  /-- Every file and directory but the root, by location. -/
  items : List (List String × Item) := []
  /-- The location of the working directory. -/
  cwd : List String := []
  /-- The changes made so far, first to last. -/
  changes : List Change := []
  deriving Repr, Inhabited

namespace Disk

/-- The absolute path of a location. -/
def pathOf (loc : List String) : String := "/" ++ "/".intercalate loc

/-- Keep a change. -/
def record (d : Disk) (c : Change) : Disk := { d with changes := d.changes ++ [c] }

/-- What a location holds; the root is a directory. -/
def find? (d : Disk) (loc : List String) : Option Item :=
  if loc.isEmpty then some .dir else (d.items.find? (·.1 == loc)).map (·.2)

/-- Put an item at a location, replacing what was there. -/
def set (d : Disk) (loc : List String) (i : Item) : Disk :=
  { d with items := (d.items.filter (·.1 != loc)) ++ [(loc, i)] }

/-- Remove a location and everything under it. -/
def prune (d : Disk) (loc : List String) : Disk :=
  { d with items := d.items.filter fun (l, _) => !loc.isPrefixOf l }

/-- Where one path component leads from a location. -/
def step (loc : List String) (piece : String) : List String :=
  if piece == "" || piece == "." then loc
  else if piece == ".." then loc.dropLast
  else loc ++ [piece]

/-- Follow path components from a location; every component but the last must lead to a
directory. The last one may name nothing yet. -/
def walk (d : Disk) : List String → List String → Except Errno (List String)
  | loc, [] => .ok loc
  | loc, [p] => .ok (step loc p)
  | loc, p :: ps =>
    let next := step loc p
    match d.find? next with
    | some .dir => walk d next ps
    | some (.file _) => .error .notDirectory
    | none => .error .notFound

/-- The location a path names. -/
def resolve (d : Disk) (p : String) : Except Errno (List String) :=
  if p.isEmpty then .error .notFound
  else walk d (if p.startsWith "/" then [] else d.cwd) (p.splitOn "/")

/-- What a path names. -/
def stat (d : Disk) (p : String) : Except Errno Item := do
  let loc ← d.resolve p
  match d.find? loc with
  | some i => .ok i
  | none => .error .notFound

/-- The text of a file. -/
def readFile (d : Disk) (p : String) : Except Fault String :=
  match d.stat p with
  | .error e => .error (.io "open" p e)
  | .ok .dir => .error (.io "read" p .isDirectory)
  | .ok (.file t) => .ok t

/-- Whether a path names a file, and its text. -/
def fileText? (d : Disk) (p : String) : Option String :=
  match d.stat p with
  | .ok (.file t) => some t
  | _ => none

/-- Write a file, creating it or replacing its text. -/
def writeFile (d : Disk) (p : String) (text : String) : Except Fault Disk :=
  match d.resolve p with
  | .error e => .error (.io "open" p e)
  | .ok loc =>
    match d.find? loc with
    | some .dir => .error (.io "open" p .isDirectory)
    | _ => .ok ((d.set loc (.file text)).record (.write (pathOf loc) text))

/-- A path without its trailing slashes, keeping a lone `/`. -/
def dropTrailingSlashes (p : String) : String :=
  let rest := p.toList.reverse.dropWhile (· == '/')
  if rest.isEmpty && !p.isEmpty then "/" else String.ofList rest.reverse

/-- Make one directory, whose parent must exist. -/
def mkdir (d : Disk) (p : String) : Except Errno Disk := do
  let loc ← d.resolve (dropTrailingSlashes p)
  match d.find? loc with
  | some _ => .error .exists
  | none => .ok ((d.set loc .dir).record (.makeDir (pathOf loc)))

/-- The text before the last component of a path, as directory creation climbs: trailing
slashes and the last component are cut, and so is the slash before it. -/
def parentText (p : String) : String :=
  let rest := (p.toList.reverse.dropWhile (· == '/')).dropWhile (· != '/')
  String.ofList (rest.drop 1).reverse

/-- Make a directory and the missing directories above it. -/
def mkdirAllFrom : Nat → Disk → String → Except Fault Disk
  | 0, d, _ => .ok d
  | fuel + 1, d, p =>
    match d.stat p with
    | .ok .dir => .ok d
    | .ok (.file _) => .error (.io "mkdir" p .notDirectory)
    | .error _ => do
      let parent := parentText p
      let d' ← if parent.isEmpty then .ok d else mkdirAllFrom fuel d parent
      match d'.mkdir p with
      | .ok d'' => .ok d''
      | .error e =>
        match d'.stat p with
        | .ok .dir => .ok d'
        | _ => .error (.io "mkdir" p e)

/-- Make a directory and the missing directories above it; an existing directory is fine. -/
def mkdirAll (d : Disk) (p : String) : Except Fault Disk :=
  mkdirAllFrom (p.length + 1) d p

/-- The parent and last component of a path, as removal cuts it: leading slashes are collapsed
to one, trailing ones dropped, and a path without a slash has the parent `.`. -/
def splitLast (p : String) : String × String :=
  let collapsed := match p.toList with
    | '/' :: rest => '/' :: rest.dropWhile (· == '/')
    | cs => cs
  let trimmed := match collapsed.reverse.dropWhile (· == '/') with
    | [] => collapsed.take 1
    | r => r.reverse
  match trimmed.reverse with
  | [] => (".", "")
  | last :: before =>
    match before.dropWhile (· != '/') with
    | [] => (".", String.ofList trimmed)
    | _ :: dirRev =>
      let base := String.ofList (last :: before.takeWhile (· != '/')).reverse
      if dirRev.isEmpty then ("/", base) else (String.ofList dirRev.reverse, base)

/-- Remove a path and everything under it. A path that names nothing is no fault. -/
def removeAll (d : Disk) (p : String) : Except Fault Disk :=
  if p.isEmpty then .ok d
  else if p == "." || p.endsWith "/." then .error (.io "RemoveAll" p .invalid)
  else
    match d.resolve p with
    | .error .notFound => .ok d
    | .ok loc => .ok ((d.prune loc).record (.remove (pathOf loc)))
    | .error _ =>
      let (parent, base) := splitLast p
      match d.resolve parent with
      | .error .notFound => .ok d
      | .error e => .error (.io "open" parent e)
      | .ok ploc =>
        match d.find? ploc with
        | none => .ok d
        | some (.file _) => .error (.io "unlinkat" (parent ++ "/" ++ base) .notDirectory)
        | some .dir =>
          let loc := step ploc base
          .ok ((d.prune loc).record (.remove (pathOf loc)))

/-- A disk whose working directory `loc` exists with the directories above it, holding the
given files relative to it; a path ending in `/` stands for an empty directory. Files are
written in order, each after the directories above it are made. -/
def scratch (loc : List String) (files : List (String × String)) : Disk :=
  let above := (List.range loc.length).map fun i => (loc.take (i + 1), Item.dir)
  let base : Disk := { items := above, cwd := loc }
  files.foldl (fun d (p, text) =>
    if p.endsWith "/" then (d.mkdirAll p).toOption.getD d
    else
      match d.mkdirAll (Path.dir p) with
      | .ok d' => (d'.writeFile p text).toOption.getD d'
      | .error _ => d) base

/-- Everything under a location, as paths relative to it, directories ending in `/`, in byte
order. -/
def listUnder (d : Disk) (loc : List String) : List String :=
  let rel := d.items.filterMap fun (l, i) =>
    if loc.isPrefixOf l && l.length > loc.length then
      let path := "/".intercalate (l.drop loc.length)
      some (match i with
        | .dir => path ++ "/"
        | .file _ => path)
    else none
  rel.mergeSort fun a b => !decide (b < a)

end Disk

end CrossBuild
