import CrossBuild.Cli.Find

/-!
# Help

The help of a command is what it is about, then its usage: how it is called, the commands under
it, its own options (`Flags:`) and the options it has from the program (`Global Flags:`).

Options are listed by name, one a row: the one-letter form, the name and the kind of value
(`string`, `strings`, `stringToString`, nothing for a switch), then the help text, all help
texts starting in one column two places after the longest head, and last the value an option
starts with when it is not empty. Commands are listed by name, padded to eleven columns.

`help TOPIC` writes the help of the command the topic names; a topic that names none writes
``Unknown help topic [`TOPIC`]`` and the usage of the program.
-/

namespace CrossBuild.Cli

open CrossBuild.Text

/-- The name the program is called by. -/
def programName : String := "oobuild"

/-- What the program is, in one line. -/
def programShort : String := "oobuild builds OpenAL Soft for the PS4"

/-- What the program does. -/
def programLong : String :=
  "oobuild compiles OpenAL Soft with the OpenOrbis PS4 toolchain, links and\n" ++
  "packages it as a PRX, archives it as a static library and generates a stub\n" ++
  "shared library exporting the public API."

/-- The shells the completion command writes scripts for. -/
def shells : List String := ["bash", "fish", "powershell", "zsh"]

/-- What a command is, in one line. -/
def Verb.short : Verb → String
  | .build => "Build the library from scratch"
  | .clean => "Remove the build folder"
  | .paths => "Print where every artifact is written"
  | .stub => "Generate only the stub library"
  | .help => "Help about any command"
  | .completion => "Generate the autocompletion script for the specified shell"

/-- What a command does, when it says more than its line. -/
def Verb.long : Verb → String
  | .build =>
    "Build deletes the build folder, compiles every source, links and packages\n" ++
    "the PRX, archives the static library and generates the stub library.\n\n" ++
    "The process exits with the status of the first failing tool."
  | .clean => ""
  | .paths =>
    "Paths prints the artifact set for the current manifest and, when the build\n" ++
    "folder holds a record of a successful build, when that build ran."
  | .stub =>
    "Stub scans the public headers for exported functions and builds a shared\n" ++
    "library defining each of them, without rebuilding the main library.\n\n" ++
    "With --print the generated C source is written to stdout and no tool runs."
  | .help =>
    "Help provides help for any command in the application.\n" ++
    "Simply type " ++ programName ++ " help [path to command] for full details."
  | .completion =>
    "Generate the autocompletion script for " ++ programName ++ " for the specified shell.\n" ++
    "See each sub-command's help for details on how to use the generated script.\n"

/-- How a command is written on the command line, before its options. -/
def Verb.use : Verb → String
  | .help => "help [command]"
  | v => v.name

/-- Whether a command runs something itself, rather than only grouping commands. -/
def Verb.runs : Verb → Bool
  | .completion => false
  | _ => true

/-- The words that call a command: the program, then the command. -/
def commandPath : Option Verb → String
  | none => programName
  | some v => programName ++ " " ++ v.name

/-- What a command is about: its long text, else its line. -/
def about : Option Verb → String
  | none => programLong
  | some v => if v.long.isEmpty then v.short else v.long

/-- The commands under a command, with their lines, by name. -/
def subcommands : Option Verb → List (String × String)
  | none =>
    [Verb.build, .clean, .completion, .help, .paths, .stub].map fun v => (v.name, v.short)
  | some .completion =>
    shells.map fun s => (s, "Generate the autocompletion script for " ++ s)
  | some _ => []

/-- The options a command reads, its own and those it has from the program. -/
def ownOptions : Option Verb → List OptionSpec
  | none => projectOptions ++ [helpOption programName]
  | some v => helpOption v.name :: (if v == .stub then [printOption] else [])

/-- The options a command has from the program. -/
def sharedOptions : Option Verb → List OptionSpec
  | none => []
  | some _ => projectOptions

/-- Every option a command reads. -/
def commandOptions (c : Option Verb) : List OptionSpec :=
  match c with
  | none => ownOptions none
  | some _ => projectOptions ++ ownOptions c

/-- The kind of value an option takes, as the help names it. -/
def OptionKind.valueName : OptionKind → String
  | .text => "string"
  | .switch => ""
  | .list => "strings"
  | .pairs => "stringToString"

/-- The head of an option's row: its forms and the kind of its value. -/
def OptionSpec.head (o : OptionSpec) : String :=
  let forms := match o.short with
    | some c => "  -" ++ String.singleton c ++ ", --" ++ o.name
    | none => "      --" ++ o.name
  let value := o.kind.valueName
  if value.isEmpty then forms else forms ++ " " ++ value

/-- The starting value an option's row shows: a text when it is not empty, and always the
empty pairs. -/
def OptionSpec.initialText (o : OptionSpec) : String :=
  match o.kind with
  | .text => if o.initial.isEmpty then "" else " (default " ++ quote o.initial ++ ")"
  | .pairs => " (default [])"
  | _ => ""

/-- Spaces. -/
def spaces (n : Nat) : String := String.ofList (List.replicate n ' ')

/-- The rows of options, sorted by name. -/
def optionTable (specs : List OptionSpec) : String :=
  let sorted := specs.mergeSort fun a b => decide (a.name ≤ b.name)
  let width := (sorted.map fun o => o.head.length).foldl max 0 + 1
  "\n".intercalate (sorted.map fun o =>
    o.head ++ " " ++ spaces (width - o.head.length) ++ " " ++ o.usage ++ o.initialText)

/-- The usage of a command. -/
def usageText (c : Option Verb) : String :=
  let subs := subcommands c
  let runs := match c with
    | none => false
    | some v => v.runs
  let own := ownOptions c
  let shared := sharedOptions c
  "Usage:" ++
    (match c with
     | some v => if runs then "\n  " ++ programName ++ " " ++ v.use ++ " [flags]" else ""
     | none => "") ++
    (if subs.isEmpty then "" else "\n  " ++ commandPath c ++ " [command]") ++
    (if subs.isEmpty then ""
     else "\n\nAvailable Commands:" ++ String.join (subs.map fun (n, s) =>
       "\n  " ++ n ++ spaces (11 - n.length) ++ " " ++ s)) ++
    (if own.isEmpty then "" else "\n\nFlags:\n" ++ optionTable own) ++
    (if shared.isEmpty then "" else "\n\nGlobal Flags:\n" ++ optionTable shared) ++
    (if subs.isEmpty then ""
     else "\n\nUse \"" ++ commandPath c ++
       " [command] --help\" for more information about a command.") ++
    "\n"

/-- The help of a command. -/
def helpText (c : Option Verb) : String :=
  let text := String.ofList ((about c).toList.reverse.dropWhile Char.isWhitespace).reverse
  (if text.isEmpty then "" else text ++ "\n\n") ++ usageText c

/-- Whether a text can be written between backquotes: valid, with no backquote, no control
character but tab, and no byte order mark. -/
def backquotable (s : String) : Bool :=
  s.toList.all fun c =>
    c != '\x60' && c != '\x7f' && c != '\uFEFF' && (c.toNat ≥ 0x20 || c == '\t')

/-- A list of texts as the help writes it: each between backquotes when it can be, else
quoted, in brackets. -/
def topicList (args : List String) : String :=
  "[" ++ " ".intercalate (args.map fun a =>
    if backquotable a then "\x60" ++ a ++ "\x60" else quote a) ++ "]"

/-- What `help` writes for the arguments it is given. -/
def helpTopic (args : List String) : String :=
  match findCommand args with
  | .ok (c, _) => helpText c
  | .error _ => "Unknown help topic " ++ topicList args ++ "\n" ++ usageText none

end CrossBuild.Cli
