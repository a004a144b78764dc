/-!
# Pipeline stages

A build goes through six working stages in a fixed order and ends in one of two terminal
stages:

| code | stage | next |
|---|---|---|
| 0 | clean | compiling |
| 1 | compiling | linking |
| 2 | linking | packaging |
| 3 | packaging | archiving |
| 4 | archiving | stub |
| 5 | stub | done |
| 6 | done | (terminal) |
| 7 | failed | (terminal) |

States are kept as 64-bit codes, so a code outside 0 to 7 is a state too: it has no stage, is
written `State(n)`, and is not terminal. A step is *allowed* from a state that is not terminal
into `failed`, or into the state whose code is one more (with 64-bit wrap-around).
-/

namespace CrossBuild

/-- The stages of a build, in order. -/
inductive Stage where
  | clean
  | compiling
  | linking
  | packaging
  | archiving
  | stub
  | done
  | failed
  deriving DecidableEq, Repr, Inhabited

namespace Stage

/-- The code of a stage: its position in the order, from 0. -/
def code : Stage → Int64
  | .clean => 0
  | .compiling => 1
  | .linking => 2
  | .packaging => 3
  | .archiving => 4
  | .stub => 5
  | .done => 6
  | .failed => 7

/-- The name of a stage. -/
def name : Stage → String
  | .clean => "clean"
  | .compiling => "compiling"
  | .linking => "linking"
  | .packaging => "packaging"
  | .archiving => "archiving"
  | .stub => "stub"
  | .done => "done"
  | .failed => "failed"

/-- The stage with a given code, if any. -/
def ofCode? (n : Int64) : Option Stage :=
  [Stage.clean, .compiling, .linking, .packaging, .archiving, .stub, .done, .failed].find?
    fun s => s.code == n

/-- The six working stages, in the order a build enters them, then `done`. -/
def forward : List Stage :=
  [.clean, .compiling, .linking, .packaging, .archiving, .stub, .done]

end Stage

namespace State

/-- The name of a state code: the stage's name, or `State(n)` for a code without a stage. -/
def name (n : Int64) : String :=
  match Stage.ofCode? n with
  | some s => s.name
  | none => "State(" ++ toString n.toInt ++ ")"

/-- Whether no step leaves a state: `done` and `failed`. -/
def isTerminal (n : Int64) : Bool :=
  n == Stage.done.code || n == Stage.failed.code

/-- Whether a step from `src` to `dst` is allowed: from a state that is not terminal, into
`failed` or into the next code. -/
def allowed (src dst : Int64) : Bool :=
  !isTerminal src && (dst == Stage.failed.code || dst == src + 1)

end State

end CrossBuild
