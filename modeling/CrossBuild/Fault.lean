import CrossBuild.Stage
import CrossBuild.Command
import CrossBuild.Header.Decl

/-!
# Faults

A `Fault` is why an operation of a build failed. Faults nest: a fault may carry a context and the
fault it explains, or the stage at which the build stopped and the fault that stopped it. A
missing inner fault is allowed and prints as `<nil>`.

The *status* of a fault chain (`Fault.status?`) is the status of the first tool failure met when
walking from the outside in, and `statusOf` turns an outcome into a process status: 0 when
there is no fault, that tool status when the chain has one, and 1 otherwise. A stage fault
reports the status of the fault it carries (`Fault.stageStatus?`), and a process exits with
the status of its outcome (`exitStatus`). `Fault.unwrap` gives the fault one level further in.

| fault | message |
|---|---|
| `exit bin n` | `BASE exited with status n`, with `BASE` the last component of `bin` |
| `plain m` | `m` |
| `wrap c f` | `c: MESSAGE-OF-f` |
| `stage s src f` | `STAGE src: MESSAGE-OF-f`, without ` src` when `src` is empty |
| `extract file n text e` | `file:n: CAUSE: QUOTED-TEXT` |
| `io op path e` | `op path: ERROR` |
| `config var m` | `config: var: m` |
-/

namespace CrossBuild

open CrossBuild.Text

/-- An error that the system reports for a file operation. -/
inductive Errno where
  | notFound
  | notDirectory
  | isDirectory
  | invalid
  | exists
  deriving DecidableEq, Repr

/-- The system's words for each error. -/
def Errno.message : Errno → String
  | .notFound => "no such file or directory"
  | .notDirectory => "not a directory"
  | .isDirectory => "is a directory"
  | .invalid => "invalid argument"
  | .exists => "file exists"

/-- Why an operation of a build failed. -/
inductive Fault where
  /-- A tool finished with a status other than 0. -/
  | exit (bin : String) (status : Status)
  /-- A fault that is only a message. -/
  | plain (message : String)
  /-- A context around an inner fault, which may be missing. -/
  | wrap (context : String) (inner : Option Fault)
  /-- The state code of the stage that stopped, the source it was working on (or empty), and
  the inner fault, which may be missing. -/
  | stage (code : Int64) (source : String) (inner : Option Fault)
  /-- A declaration line of a header without a usable name. -/
  | extract (file : String) (line : Int) (text : String) (cause : Header.NameError)
  /-- A file operation that the system refused. -/
  | io (op : String) (path : String) (errno : Errno)
  /-- A required setting is missing or unusable. -/
  | config (var : String) (msg : String)
  deriving Repr, Inhabited

namespace Fault

/-- The text of a fault. -/
def message : Fault → String
  | .exit bin n => Path.base bin ++ " exited with status " ++ toString n.toInt
  | .plain m => m
  | .wrap c none => c ++ ": %!w(<nil>)"
  | .wrap c (some f) => c ++ ": " ++ f.message
  | .stage s src f =>
    State.name s ++ (if src.isEmpty then "" else " " ++ src) ++ ": " ++
      match f with
      | none => "<nil>"
      | some f => f.message
  | .extract file n text e => file ++ ":" ++ toString n ++ ": " ++ e.message ++ ": " ++ quote text
  | .io op path e => op ++ " " ++ path ++ ": " ++ e.message
  | .config var msg => "config: " ++ var ++ ": " ++ msg

/-- The status of the first tool failure in the chain, walking inwards. -/
def status? : Fault → Option Status
  | .exit _ n => some n
  | .wrap _ (some f) => f.status?
  | .stage _ _ (some f) => f.status?
  | _ => none

/-- The fault this one wraps, as unwrapping gives it: the inner fault of a context or of a stage
fault, and the cause of an extract fault or of a file operation, an error that wraps nothing
further. The other faults wrap nothing. -/
def unwrap : Fault → Option Fault
  | .wrap _ f => f
  | .stage _ _ f => f
  | .extract _ _ _ e => some (.plain e.message)
  | .io _ _ e => some (.plain e.message)
  | _ => none

/-- Whether a stage fault stands somewhere in the chain, walking inwards through contexts. -/
def hasStage : Fault → Bool
  | .stage _ _ _ => true
  | .wrap _ (some f) => f.hasStage
  | _ => false

end Fault

/-- The process status of an outcome: 0 without a fault, the status of the first tool failure
in the chain, and 1 for a chain without one. -/
def statusOf : Option Fault → Status
  | none => 0
  | some f => f.status?.getD 1

/-- The status a stage fault reports for itself: the process status of the fault it carries.
Faults of other kinds report none. -/
def Fault.stageStatus? : Fault → Option Status
  | .stage _ _ inner => some (statusOf inner)
  | _ => none

/-- The exit status of a process whose work ended with this outcome. -/
def exitStatus (e : Option Fault) : Int :=
  (statusOf e).toInt

end CrossBuild
