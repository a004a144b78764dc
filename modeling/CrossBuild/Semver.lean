/-!
# Semantic versions

A version is `v` followed by `MAJOR`, `MAJOR.MINOR` or `MAJOR.MINOR.PATCH`; only the full form
may carry a prerelease (`-` and dot-separated identifiers) and then build metadata (`+` and
dot-separated identifiers). Numbers have no leading zero (but may be `0`) and any length.
Identifiers are non-empty and made of ASCII letters, digits and `-`; a numeric prerelease
identifier has no leading zero.

| text | valid | major |
|---|---|---|
| `v1` | yes | `v1` |
| `v1.2` | yes | `v1` |
| `v1.2.3-rc.1+build.5` | yes | `v1` |
| `v1.2-rc` | no | |
| `v01.2.3` | no | |
| `1.2.3` | no | |
-/

namespace CrossBuild.Semver

/-- Whether a character is an ASCII digit. -/
def isDigit (c : Char) : Bool := '0' ≤ c && c ≤ '9'

/-- Whether a character may stand in an identifier. -/
def isIdentChar (c : Char) : Bool :=
  ('A' ≤ c && c ≤ 'Z') || ('a' ≤ c && c ≤ 'z') || isDigit c || c == '-'

/-- A number at the start of a text, without a leading zero, and the rest. -/
def number (cs : List Char) : Option (List Char × List Char) :=
  let ds := cs.takeWhile isDigit
  if ds.isEmpty then none
  else if ds.head? = some '0' && ds.length != 1 then none
  else some (ds, cs.drop ds.length)

/-- Whether a prerelease identifier is a number with a leading zero. -/
def isBadNumber (id : List Char) : Bool :=
  id.all isDigit && 1 < id.length && id.head? = some '0'

/-- Whether dot-separated identifiers are all non-empty and well formed; `numeric` also
refuses numbers with a leading zero. -/
def identifiersOk (numeric : Bool) (cs : List Char) : Bool :=
  (cs.splitOn '.').all fun id =>
    !id.isEmpty && id.all isIdentChar && !(numeric && isBadNumber id)

/-- Whether the part after the patch number is a valid prerelease and build suffix. -/
def suffixOk (cs : List Char) : Bool :=
  match cs with
  | [] => true
  | '-' :: rest =>
    let pre := rest.takeWhile (· ≠ '+')
    let post := rest.drop pre.length
    identifiersOk true pre &&
      match post with
      | [] => true
      | _ :: build => identifiersOk false build
  | '+' :: build => identifiersOk false build
  | _ => false

/-- The major number of a valid version, or nothing for an invalid one. -/
def parseMajor (cs : List Char) : Option (List Char) :=
  match cs with
  | 'v' :: rest => do
    let (major, r1) ← number rest
    match r1 with
    | [] => pure major
    | '.' :: r1' =>
      let (_, r2) ← number r1'
      match r2 with
      | [] => pure major
      | '.' :: r2' =>
        let (_, r3) ← number r2'
        if suffixOk r3 then pure major else none
      | _ => none
    | _ => none
  | _ => none

/-- Whether a text is a valid version. -/
def isValid (v : String) : Bool :=
  (parseMajor v.toList).isSome

/-- The major version of a valid version, as `v` and the number; empty for an invalid one. -/
def major (v : String) : String :=
  match parseMajor v.toList with
  | some m => String.ofList ('v' :: m)
  | none => ""

end CrossBuild.Semver
