/-!
# Environment variables

An `Environment` maps variable names to values. Names are any texts; setting a name again
replaces its value.

`mergeEnv` builds the environment list handed to a tool: every `KEY=VALUE` entry of a base list
is cut at its first `=` (entries without one are dropped, a later entry wins), the overrides are
applied on top, and the result is listed as `KEY=VALUE` in increasing order of the key.
-/

namespace CrossBuild

/-- Variables and their values, each name at most once. -/
structure Environment where
  vars : List (String × String) := []
  deriving DecidableEq, Repr, Inhabited

namespace Environment

/-- The value of a variable, if it is set. -/
def get? (e : Environment) (name : String) : Option String :=
  (e.vars.find? (·.1 == name)).map (·.2)

/-- The value of a variable, or the empty text if it is unset. -/
def getD (e : Environment) (name : String) : String :=
  (e.get? name).getD ""

/-- Set a variable, replacing its value if it was set. -/
def set (e : Environment) (name value : String) : Environment :=
  if e.vars.any (·.1 == name) then
    ⟨e.vars.map fun (k, v) => if k == name then (k, value) else (k, v)⟩
  else ⟨e.vars ++ [(name, value)]⟩

/-- Unset a variable. -/
def unset (e : Environment) (name : String) : Environment :=
  ⟨e.vars.filter (·.1 != name)⟩

/-- Set variables in order. -/
def setAll (e : Environment) (kvs : List (String × String)) : Environment :=
  kvs.foldl (fun e (k, v) => e.set k v) e

end Environment

/-- An entry `KEY=VALUE` cut at its first `=`, or nothing without one. -/
def cutEntry (kv : String) : Option (String × String) :=
  let cs := kv.toList
  if cs.contains '=' then
    some (String.ofList (cs.takeWhile (· ≠ '=')), String.ofList ((cs.dropWhile (· ≠ '=')).drop 1))
  else none

/-- The environment of a tool: the base entries with the overrides applied, sorted by key. -/
def mergeEnv (base : List String) (override : List (String × String)) : List String :=
  let env := (Environment.setAll {} (base.filterMap cutEntry)).setAll override
  (env.vars.mergeSort fun a b => a.1 ≤ b.1).map fun (k, v) => k ++ "=" ++ v

end CrossBuild
