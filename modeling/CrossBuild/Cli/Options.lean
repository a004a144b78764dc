import CrossBuild.Cli.Csv

/-!
# Command-line options

Every command takes the project options: `--root`/`-C` (the project directory, `.` by default),
`--manifest`/`-m` (a manifest file; the built-in manifest without one), `--env-file` (files of
variables to load, as comma-separated values, given once or more), `--tool-env` (`KEY=VALUE`
pairs for the tools), `--verbose`/`-v` and `--quiet`/`-q`, and `--help`/`-h`; `stub` also takes
`--print`.

`parseOptions` reads options and arguments in any order:

* `--name=value`, `--name value`, `-n value`, `-nvalue` and `-n=value` give a value; a switch
  needs none (`--verbose`, `-vq`), and takes one only after `=`;
* `--` ends the options, and `-` or an empty text is an argument;
* an argument that starts with `-test.` after its dash is ignored.

Switches accept `1`, `t`, `T`, `TRUE`, `true`, `True` and the same for false. The faults, in
the order they are met: `bad flag syntax: A`, `unknown flag: --N`, `unknown shorthand flag:
'C' in -S`, `flag needs an argument: A`, and `invalid argument "V" for "-C, --root" flag: WHY`.
-/

namespace CrossBuild.Cli

open CrossBuild.Text

/-- What an option holds. -/
inductive OptionKind where
  /-- One text; a later one replaces it. -/
  | text
  /-- A switch. -/
  | switch
  /-- A list of texts, given as comma-separated values; later ones add to it. -/
  | list
  /-- `KEY=VALUE` pairs; later ones add to them. -/
  | pairs
  deriving DecidableEq, Repr

/-- An option a command takes: its name, its one-letter form, what it holds, what the help says
of it, and the value it starts with when that is not empty. -/
structure OptionSpec where
  name : String
  short : Option Char
  kind : OptionKind
  usage : String
  initial : String := ""
  deriving DecidableEq, Repr

/-- The options every command takes, but help. -/
def projectOptions : List OptionSpec :=
  [⟨"root", some 'C', .text, "Project root directory", "."⟩,
   ⟨"manifest", some 'm', .text, "Build manifest (TOML), defaults to the built-in one", ""⟩,
   ⟨"env-file", none, .list, "Load environment variables from dotenv files", ""⟩,
   ⟨"tool-env", none, .pairs, "Extra environment variables for every tool (KEY=VALUE)", ""⟩,
   ⟨"verbose", some 'v', .switch, "Enable debug logging", ""⟩,
   ⟨"quiet", some 'q', .switch, "Discard tool output", ""⟩]

/-- The help switch of the command named `name`. -/
def helpOption (name : String) : OptionSpec :=
  ⟨"help", some 'h', .switch, "help for " ++ name, ""⟩

/-- The switch of `stub` that prints the stub source. -/
def printOption : OptionSpec :=
  ⟨"print", none, .switch, "Print the generated stub source instead of building it", ""⟩

/-- The values of the options. -/
structure Options where
  root : String := "."
  manifest : String := ""
  envFiles : List String := []
  toolEnv : List (String × String) := []
  verbose : Bool := false
  quiet : Bool := false
  help : Bool := false
  print : Bool := false
  /-- The options that were given, by name. -/
  given : List String := []
  deriving Repr, Inhabited

/-- A switch value. -/
def parseSwitch (s : String) : Except String Bool :=
  if ["1", "t", "T", "TRUE", "true", "True"].contains s then .ok true
  else if ["0", "f", "F", "FALSE", "false", "False"].contains s then .ok false
  else .error ("strconv.ParseBool: parsing " ++ quote s ++ ": invalid syntax")

/-- A list value: the first record of comma-separated values, none for the empty text. -/
def parseList (s : String) : Except String (List String) :=
  if s.isEmpty then .ok [] else Csv.firstRecord s

/-- Pairs given as `KEY=VALUE`, one or many. -/
def parsePairs (s : String) : Except String (List (String × String)) := do
  let n := (s.toList.filter (· == '=')).length
  let items ← if n == 0 then throw (s ++ " must be formatted as key=value")
    else if n == 1 then
      pure [String.ofList ((s.toList.dropWhile (· == '"')).reverse.dropWhile (· == '"')).reverse]
    else Csv.firstRecord s
  items.mapM fun item =>
    match item.toList.splitOn '=' with
    | k :: v :: more => pure (String.ofList k, String.ofList (v ++ more.flatMap ('=' :: ·)))
    | _ => throw (item ++ " must be formatted as key=value")

/-- The name of an option in faults: `-C, --root`, or `--name` without a short form. -/
def OptionSpec.label (o : OptionSpec) : String :=
  match o.short with
  | some c => "-" ++ String.singleton c ++ ", --" ++ o.name
  | none => "--" ++ o.name

/-- Give an option a value. -/
def Options.set (opts : Options) (o : OptionSpec) (value : String) : Except String Options := do
  let wrap {α : Type} (r : Except String α) : Except String α :=
    match r with
    | .ok a => .ok a
    | .error e => .error ("invalid argument " ++ quote value ++ " for " ++ quote o.label ++
        " flag: " ++ e)
  let again := opts.given.contains o.name
  let opts' ← match o.name with
    | "root" => pure { opts with root := value }
    | "manifest" => pure { opts with manifest := value }
    | "env-file" => do
      let xs ← wrap (parseList value)
      pure { opts with envFiles := if again then opts.envFiles ++ xs else xs }
    | "tool-env" => do
      let ps ← wrap (parsePairs value)
      pure { opts with toolEnv := if again then opts.toolEnv ++ ps else ps }
    | "verbose" => do pure { opts with verbose := ← wrap (parseSwitch value) }
    | "quiet" => do pure { opts with quiet := ← wrap (parseSwitch value) }
    | "help" => do pure { opts with help := ← wrap (parseSwitch value) }
    | "print" => do pure { opts with print := ← wrap (parseSwitch value) }
    | _ => pure opts
  pure (if again then opts' else { opts' with given := opts'.given ++ [o.name] })

/-- Read one `--name` argument `s`; `args` are the arguments after it. -/
def longOption (specs : List OptionSpec) (opts : Options) (s : String) (args : List String) :
    Except String (Options × List String) :=
  let body := String.ofList (s.toList.drop 2)
  match body.toList with
  | [] => .error ("bad flag syntax: " ++ s)
  | c :: _ =>
    if c == '-' || c == '=' then .error ("bad flag syntax: " ++ s)
    else
      let name := String.ofList (body.toList.takeWhile (· != '='))
      let inline := if body.toList.contains '=' then
          some (String.ofList ((body.toList.dropWhile (· != '=')).drop 1)) else none
      match specs.find? (·.name == name) with
      | none => .error ("unknown flag: --" ++ name)
      | some o =>
        match inline with
        | some v => do pure (← opts.set o v, args)
        | none =>
          if o.kind == .switch then do pure (← opts.set o "true", args)
          else
            match args with
            | v :: rest => do pure (← opts.set o v, rest)
            | [] => .error ("flag needs an argument: " ++ s)

/-- The character that names an unknown one-letter option: itself in ASCII, else the Latin-1
character of the first byte of its UTF-8 form, as the option reader looks at bytes. -/
def leadByte (c : Char) : Char :=
  let n := c.toNat
  if n < 0x80 then c
  else if n < 0x800 then Char.ofNat (0xC0 + n / 0x40)
  else if n < 0x10000 then Char.ofNat (0xE0 + n / 0x1000)
  else Char.ofNat (0xF0 + n / 0x40000)

/-- Read the short options of one `-abc` argument, from the letters after the dash; `args` are
the arguments after it. -/
def shortOptions (specs : List OptionSpec) :
    Nat → Options → List Char → List String → Except String (Options × List String)
  | 0, opts, _, args => .ok (opts, args)
  | _ + 1, opts, [], args => .ok (opts, args)
  | fuel + 1, opts, c :: rest, args =>
    if "test.".toList.isPrefixOf (c :: rest) then .ok (opts, args)
    else
      match specs.find? (·.short == some c) with
      | none =>
        let shown := leadByte c
        .error ("unknown shorthand flag: " ++ quoteChar shown ++ " in -" ++
          String.ofList (c :: rest))
      | some o =>
        match rest with
        | '=' :: v :: more => do pure (← opts.set o (String.ofList (v :: more)), args)
        | _ =>
          if o.kind == .switch then do
            shortOptions specs fuel (← opts.set o "true") rest args
          else if !rest.isEmpty then do pure (← opts.set o (String.ofList rest), args)
          else
            match args with
            | v :: more => do pure (← opts.set o v, more)
            | [] => .error ("flag needs an argument: " ++ quoteChar c ++ " in -" ++
                String.ofList (c :: rest))

/-- Read options and arguments: the option values and the arguments in order. -/
def parseOptions (specs : List OptionSpec) : Nat → Options → List String → List String →
    Except String (Options × List String)
  | 0, opts, _, acc => .ok (opts, acc.reverse)
  | _ + 1, opts, [], acc => .ok (opts, acc.reverse)
  | fuel + 1, opts, s :: args, acc =>
    if s.length < 2 || s.toList.head? != some '-' then parseOptions specs fuel opts args (s :: acc)
    else if s == "--" then .ok (opts, acc.reverse ++ args)
    else if (s.toList.drop 1).head? == some '-' then do
      let (opts', args') ← longOption specs opts s args
      parseOptions specs fuel opts' args' acc
    else do
      let body := s.toList.drop 1
      let (opts', args') ← shortOptions specs (body.length + 1) opts body args
      parseOptions specs fuel opts' args' acc

end CrossBuild.Cli
