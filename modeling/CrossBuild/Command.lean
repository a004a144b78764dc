import CrossBuild.Text.Quoted
import CrossBuild.Path

/-!
# Tool commands

A `Command` is one run of an external tool: the path of its binary and its arguments in order.
A tool reports an exit *status*, a 64-bit integer; 0 is the only success.

`Command.render` writes a command as one line for display: the binary and the arguments,
separated by single spaces, each as it is unless it is empty or holds a character that a shell
treats specially, in which case it is written as quoted text (`CrossBuild.Text.Quoted`).

`Command.check` says why a command cannot be handed to the system: an empty binary path, or a
NUL character in the binary path or in an argument.
-/

namespace CrossBuild

open CrossBuild.Text

/-- An exit status of a tool; 0 is success. -/
abbrev Status := Int64

/-- A command is rejected before it runs with this status. -/
def Status.invalid : Status := 126

/-- A tool that cannot be started reports this status. -/
def Status.notFound : Status := 127

/-- One run of a tool: the binary and its arguments. -/
structure Command where
  /-- The path of the tool's binary. -/
  bin : String
  /-- The arguments, in order. -/
  args : List String := []
  deriving DecidableEq, Repr, Inhabited

/-- The characters that make a token need quotes on a displayed command line. -/
def shellSpecial : List Char :=
  [' ', '\t', '\n', '"', '\'', '\\', '$', '\x60', ';', '&', '|', '<', '>', '*', '?', '(', ')']

/-- Whether a token is written as quoted text: it is empty or holds a special character. -/
def needsQuotes (s : String) : Bool :=
  s.isEmpty || s.toList.any (shellSpecial.contains ·)

/-- A token as it stands on a displayed command line. -/
def token (s : String) : String :=
  if needsQuotes s then quote s else s

/-- Why a command cannot be handed to the system. -/
inductive CommandFault where
  /-- The binary path is empty. -/
  | emptyBin
  /-- The binary path holds a NUL character. -/
  | nulInBin (bin : String)
  /-- Argument number `index` (from 0) holds a NUL character. -/
  | nulInArg (index : Nat) (bin : String)
  deriving DecidableEq, Repr

/-- The message of a rejected command. -/
def CommandFault.message : CommandFault → String
  | .emptyBin => "buildsys: empty binary path"
  | .nulInBin bin => "buildsys: NUL byte in binary path " ++ quote bin
  | .nulInArg i bin => "buildsys: NUL byte in argument " ++ toString i ++ " of " ++ Path.base bin

namespace Command

/-- The command as one displayed line. -/
def render (c : Command) : String :=
  " ".intercalate ((c.bin :: c.args).map token)

/-- The index of the first argument that holds a NUL character. -/
def firstNulArg (args : List String) : Option Nat :=
  args.findIdx? (·.contains '\x00')

/-- Why the command cannot be handed to the system, if it cannot. -/
def check (c : Command) : Option CommandFault :=
  if c.bin.isEmpty then some .emptyBin
  else if c.bin.contains '\x00' then some (.nulInBin c.bin)
  else (firstNulArg c.args).map fun i => .nulInArg i c.bin

/-- The status a command gets from a system on which no tool can be started: rejected commands
get `Status.invalid`, all others `Status.notFound`. -/
def launchStatus (c : Command) : Status :=
  if c.check.isSome then Status.invalid else Status.notFound

end Command

end CrossBuild
