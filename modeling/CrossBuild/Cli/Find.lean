import CrossBuild.Cli.Options
import CrossBuild.Text.Case

/-!
# Finding the command

The program has the commands `build`, `clean`, `paths` and `stub`, and the library commands
`help` and `completion`. `findCommand` picks the command from the arguments as the command
tree does:

* options are skipped while looking for the command name: an option that takes a value and is
  written without `=` also skips the argument after it, and so does any `--name` that is not a
  known switch; `--` ends the search;
* the first remaining argument must name a command exactly; it is then taken out of the
  arguments, the rest of which go to the command;
* with no command named, a remaining argument is an unknown command:
  `unknown command "X" for "oobuild"`, followed by the commands it may have meant — those within
  two edits of it or starting with it, both in lowercase (`CrossBuild.Text.toLower`), the edits
  counted in bytes.
-/

namespace CrossBuild.Cli

/-- A command of the program. -/
inductive Verb where
  | build
  | clean
  | paths
  | stub
  | help
  | completion
  deriving DecidableEq, Repr, Inhabited

/-- The name of a command. -/
def Verb.name : Verb → String
  | .build => "build"
  | .clean => "clean"
  | .paths => "paths"
  | .stub => "stub"
  | .help => "help"
  | .completion => "completion"

/-- The commands in the order they were added. -/
def Verb.all : List Verb := [.build, .clean, .paths, .stub, .help, .completion]

/-- The commands that are suggested for a mistyped name: all but `help`. -/
def Verb.suggestible : List Verb := [.build, .clean, .paths, .stub, .completion]

/-- The command with a name. -/
def Verb.named? (s : String) : Option Verb :=
  Verb.all.find? (·.name == s)

/-- Whether an option written `--name` (without `=`) takes the next argument: every name but
a known switch. -/
def longTakesNext (specs : List OptionSpec) (name : String) : Bool :=
  match specs.find? (·.name == name) with
  | some o => o.kind != .switch
  | none => true

/-- Whether an option written `-c` takes the next argument: every letter but a known switch. -/
def shortTakesNext (specs : List OptionSpec) (c : Char) : Bool :=
  match specs.find? (·.short == some c) with
  | some o => o.kind != .switch
  | none => true

/-- Whether an argument is an option that takes the next argument as its value. -/
def takesNext (specs : List OptionSpec) (s : String) : Bool :=
  let cs := s.toList
  if cs.contains '=' then false
  else
    match cs with
    | '-' :: '-' :: name => longTakesNext specs (String.ofList name)
    | ['-', c] => c.toNat < 0x80 && shortTakesNext specs c
    | _ => false

/-- The arguments that are not options or option values. -/
def stripOptions (specs : List OptionSpec) : List String → List String
  | [] => []
  | s :: rest =>
    if s == "--" then []
    else if takesNext specs s then
      match rest with
      | [] | [_] => []
      | _ :: more => stripOptions specs more
    else if s != "" && s.toList.head? != some '-' then s :: stripOptions specs rest
    else stripOptions specs rest
termination_by args => args.length

/-- The arguments without the first plain argument equal to `x`. -/
def withoutFirst (specs : List OptionSpec) (x : String) : List String → List String
  | [] => []
  | s :: rest =>
    if s == "--" then s :: rest
    else if takesNext specs s then
      match rest with
      | [] => [s]
      | v :: more => s :: v :: withoutFirst specs x more
    else if s.toList.head? != some '-' && s == x then rest
    else s :: withoutFirst specs x rest
termination_by args => args.length

/-- The UTF-8 bytes of a text in lowercase. -/
def lowerBytes (s : String) : List Nat :=
  (s.toList.map Text.toLower).flatMap fun c => (String.singleton c).toUTF8.toList.map (·.toNat)

/-- One row of the edit distance table: the distances from a prefix of one text, with `c` its
last byte, to every prefix of the other text `t`, from the row of the prefix before it. -/
def distanceRow (c : Nat) (t : List Nat) (prev : List Nat) (first : Nat) : List Nat :=
  let rec go : List Nat → List Nat → Nat → List Nat
    | [], _, _ => []
    | b :: bs, diag :: up :: ups, left =>
      let d := if b == c then diag else min (min up left) diag + 1
      d :: go bs (up :: ups) d
    | _, _, _ => []
  first :: go t prev first

/-- The edit distance between two texts in lowercase, counted in bytes. -/
def editDistance (s t : String) : Nat :=
  let sb := lowerBytes s
  let tb := lowerBytes t
  let row0 := List.range (tb.length + 1)
  let last := (sb.zipIdx).foldl (fun row (c, i) => distanceRow c tb row (i + 1)) row0
  last.getLast?.getD 0

/-- The suggestions for a mistyped command name, in the order of the commands. -/
def suggestions (typed : String) : List String :=
  (Verb.suggestible.filter fun v =>
    editDistance typed v.name ≤ 2 ||
      (lowerBytes typed).isPrefixOf (lowerBytes v.name)).map Verb.name

/-- The fault of an unknown command. -/
def unknownCommand (typed : String) : String :=
  let hints := suggestions typed
  "unknown command " ++ Text.quote typed ++ " for \"oobuild\"" ++
    (if hints.isEmpty then ""
     else "\n\nDid you mean this?\n" ++ String.join (hints.map fun h => "\t" ++ h ++ "\n"))

/-- The command the arguments name (none for the program itself) and the arguments it gets. -/
def findCommand (args : List String) : Except String (Option Verb × List String) :=
  match stripOptions projectOptions args with
  | [] => .ok (none, args)
  | first :: _ =>
    match Verb.named? first with
    | some v => .ok (some v, withoutFirst projectOptions first args)
    | none => .error (unknownCommand first)

end CrossBuild.Cli
