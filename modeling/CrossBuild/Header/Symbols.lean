import Std.Data.HashMap

/-!
# Symbol sets and the stub source

A `Symbols` value is the set of declared names met so far, in the order they were first met.
It keeps them twice: in order, and as the keys of a map that marks each with `true`, which a
fresh set has not made yet. Adding a name asks the map whether the name is there; if it is,
nothing changes and the addition says so. `Symbols.render` writes the stub source: a fixed
header, one line `void NAME() { for(;;); }` per name in order, and a fixed footer, so that every
name becomes a C function that never returns.
-/

namespace CrossBuild.Header

/-- Names in the order they were first added, each once, with a map that marks the names
added. -/
structure Symbols where
  /-- The names, first met first. -/
  names : Array String := #[]
  /-- The names added, each marked `true`; not made until the first addition, and read as empty
  until then. -/
  seen : Option (Std.HashMap String Bool) := none
  deriving Repr, Inhabited

namespace Symbols

/-- The empty set. -/
def empty : Symbols := {}

/-- The number of distinct names. -/
def size (s : Symbols) : Nat := s.names.size

/-- Add a name, and say whether it was new: the map, made here if it is not there yet, says
whether the name was added before. -/
def add (s : Symbols) (name : String) : Bool × Symbols :=
  let seen := s.seen.getD ∅
  if seen.getD name false then (false, { s with seen := some seen })
  else (true, { names := s.names.push name, seen := some (seen.insert name true) })

/-- Add names in order, and say for each whether it was new. -/
def addAll (s : Symbols) : List String → List Bool × Symbols
  | [] => ([], s)
  | x :: xs =>
    let (b, s') := s.add x
    let (bs, s'') := s'.addAll xs
    (b :: bs, s'')

/-- The first lines of every stub source. -/
def header : String :=
  "/* stub autogen start, DO NOT INCLUDE OR USE THIS FILE! */\n#ifdef __cplusplus\nextern \"C\" \x7b\n#endif /* __cplusplus */\n\n"

/-- The last lines of every stub source. -/
def footer : String :=
  "/* stub autogen end */\n#ifdef __cplusplus\n\x7d /* extern \"C\" \x7b */\n#endif /* __cplusplus */\n\n"

/-- The definition of one symbol: a function with C linkage that loops for ever. -/
def definition (name : String) : String :=
  "void " ++ name ++ "() \x7b for(;;); \x7d\n"

/-- The stub source: the header, one definition per name in order, and the footer. -/
def render (s : Symbols) : String :=
  header ++ String.join (s.names.toList.map definition) ++ footer

end Symbols

end CrossBuild.Header
