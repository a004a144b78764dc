import CrossBuild.Header.Files
import CrossBuild.Manifest.Basic
import CrossBuild.Artifact
import CrossBuild.Record

/-!
# The build pipeline

A build runs its stages in a fixed order on a disk, running tools through a `Runner`:

1. `clean`: the build directory is removed and made again, empty;
2. `compiling`: each source in order gets its object path (which must stay inside the
   project), the directory of the object is made, and the compiler runs;
3. `linking`, `packaging`, `archiving`: the linker, the packager and the archiver run once; the
   linker and the archiver first check that there is one object per source;
4. `stub`: the headers are scanned, the stub source is written, compiled and linked;
5. `done`: the record is written to the build directory; a failure to write it is ignored.

The stages after `clean` form a table (`Pipeline.stageTable`) that `runStages` walks: it steps
the pipeline's `Machine` into each stage, does the stage's work, and at the first fault stops
in `failed` (`Machine.fail`), where the fault becomes a stage fault unless it already holds
one: `STAGE: FAULT`, or `compiling SOURCE: FAULT` for a source. Nothing made before the failure
is removed. A tool fails when its status is not 0.

Every step of the machine is checked (`Machine.transition`): a step that `State.allowed` does
not allow is a panic, the `Except String` of `Pipeline.run`. Each run starts the machine over in
`clean`, so a pipeline run again behaves as a fresh one.
-/

namespace CrossBuild

open CrossBuild.Header

/-- How tools run: the status of a command, given the commands run before it in this build. -/
abbrev Runner := List Command → Command → Status

/-- One library build. -/
structure Pipeline where
  name : String
  sources : List String
  headers : List String
  stubSource : String
  resolver : Resolver
  toolchain : Toolchain
  deriving Repr, Inhabited

/-- The pipeline of a manifest. -/
def Pipeline.ofManifest (m : Manifest) (r : Resolver) (tc : Toolchain) : Pipeline :=
  { name := m.name, sources := m.sources, headers := m.stub.headers, stubSource := m.stub.source,
    resolver := r, toolchain := tc }

/-- The state of a pipeline: the stage it is in, every stage entered by the current run, and
every step shown to the transition observer, in order. -/
structure Machine where
  state : Stage
  trail : List Stage
  seen : List (Stage × Stage)
  deriving Repr

namespace Machine

/-- Where every run starts, whatever an earlier run left. -/
def start : Machine := ⟨.clean, [.clean], []⟩

/-- The message of the panic of a step that is not allowed. -/
def illegal (src dst : Stage) : String :=
  "build: illegal transition " ++ src.name ++ " -> " ++ dst.name

/-- Step into `dst`: an allowed step is put on the trail and shown to the observer; any other
step panics. -/
def transition (m : Machine) (dst : Stage) : Except String Machine :=
  if State.allowed m.state.code dst.code then
    .ok { state := dst, trail := m.trail ++ [dst], seen := m.seen ++ [(m.state, dst)] }
  else .error (illegal m.state dst)

end Machine

/-- What a successful build made. -/
structure Built where
  artifacts : ArtifactSet
  objects : List String
  symbols : Symbols
  deriving Repr

/-- The disk and the commands run so far. -/
structure Progress where
  disk : Disk
  calls : List Command := []

/-- Run a command: the progress after it, and the fault of a failing status. -/
def Progress.run (runner : Runner) (p : Progress) (c : Command) : Progress × Option Fault :=
  let status := runner p.calls c
  ({ p with calls := p.calls ++ [c] }, if status == 0 then none else some (.exit c.bin status))

/-- What one build did. -/
structure Outcome where
  disk : Disk
  calls : List Command
  machine : Machine
  result : Except Fault Built

/-- The stages a build entered, from `clean` on. -/
def Outcome.trail (o : Outcome) : List Stage :=
  o.machine.trail

/-- The fault of a failed stage. -/
def stageFault (s : Stage) (source : String) (f : Fault) : Fault :=
  .stage s.code source (some f)

/-- Stop a run in stage `here`: the fault becomes a stage fault unless it already holds one, and
the machine steps into `failed`. -/
def Machine.fail (m : Machine) (here : Stage) (f : Fault) : Except String (Machine × Fault) := do
  let m' ← m.transition .failed
  pure (m', if f.hasStage then f else stageFault here "" f)

/-- Remove the build directory and make it again. -/
def resetDir (d : Disk) (dir : String) : Except Fault Disk := do
  let d' ← d.removeAll dir
  d'.mkdirAll dir

/-- Compile the sources in order; the objects made, or the fault of the first failure. -/
def compileAll (runner : Runner) (pl : Pipeline) :
    List String → Progress → List String → Progress × Except Fault (List String)
  | [], p, objs => (p, .ok objs.reverse)
  | rel :: rest, p, objs =>
    let fail (p : Progress) (f : Fault) := (p, .error (stageFault .compiling rel f))
    match pl.resolver.objectPath rel with
    | .error f => fail p f
    | .ok obj =>
      match p.disk.mkdirAll (Path.dir obj) with
      | .error f => fail p f
      | .ok d =>
        let cmd := pl.toolchain.compile (pl.resolver.source rel) obj
        match Progress.run runner { p with disk := d } cmd with
        | (p', some f) => fail p' f
        | (p', none) => compileAll runner pl rest p' (obj :: objs)

/-- The fault of objects that do not match the sources one for one. -/
def Pipeline.checkObjects (pl : Pipeline) (objs : List String) : Option Fault :=
  if objs.length = pl.sources.length then none
  else some (.plain (toString objs.length ++ " objects for " ++ toString pl.sources.length ++
    " sources"))

/-- Link the objects into the image. -/
def Pipeline.link (pl : Pipeline) (runner : Runner) (objs : List String) (set : ArtifactSet)
    (p : Progress) : Progress × Option Fault :=
  match pl.checkObjects objs with
  | some f => (p, some f)
  | none => p.run runner (pl.toolchain.link objs set.elf)

/-- Archive the objects into the static library. -/
def Pipeline.archive (pl : Pipeline) (runner : Runner) (objs : List String) (set : ArtifactSet)
    (p : Progress) : Progress × Option Fault :=
  match pl.checkObjects objs with
  | some f => (p, some f)
  | none => p.run runner (pl.toolchain.archive objs set.archive)

/-- Scan the headers, then write, compile and link the stub library. -/
def buildStub (runner : Runner) (pl : Pipeline) (set : ArtifactSet) (p : Progress) :
    Progress × Except Fault Symbols :=
  match scanFiles p.disk (pl.headers.map pl.resolver.source) with
  | .error f => (p, .error f)
  | .ok syms =>
    match p.disk.writeFile set.stubSource syms.render with
    | .error f => (p, .error (.wrap "failed to write stub source" (some f)))
    | .ok d =>
      let tc := pl.toolchain
      let cmd := tc.compileStub set.stubSource set.stubObject
      match Progress.run runner { p with disk := d } cmd with
      | (p1, some f) => (p1, .error (.wrap "failed to compile stub" (some f)))
      | (p1, none) =>
        match p1.run runner (tc.linkStub set.stubObject set.stub) with
        | (p2, some f) => (p2, .error (.wrap "failed to link stub" (some f)))
        | (p2, none) => (p2, .ok syms)

/-- What the stages of a run have made so far: the objects, once compiled, and the symbols of
the stub, once generated. -/
structure Work where
  objects : List String := []
  symbols : Symbols := {}

/-- The work after a stage that makes a value, which `keep` stores. -/
def Work.keeping {α : Type} (r : Progress × Except Fault α) (keep : α → Work) :
    Progress × Except Fault Work :=
  (r.1, r.2.map keep)

/-- The work after a stage that only runs a tool: unchanged, unless the stage failed. -/
def Work.unless (w : Work) (r : Progress × Option Fault) : Progress × Except Fault Work :=
  (r.1, match r.2 with
    | none => .ok w
    | some f => .error f)

/-- An entry of the stage table: the stage a run enters and the work it does there. -/
structure StageStep where
  stage : Stage
  run : Work → Progress → Progress × Except Fault Work

/-- The stages after `clean`, in order, with their work. -/
def Pipeline.stageTable (pl : Pipeline) (runner : Runner) (set : ArtifactSet) : List StageStep :=
  [⟨.compiling, fun w p =>
      Work.keeping (compileAll runner pl pl.sources p []) fun objs => { w with objects := objs }⟩,
   ⟨.linking, fun w p => w.unless (pl.link runner w.objects set p)⟩,
   ⟨.packaging, fun w p =>
      w.unless (p.run runner (pl.toolchain.package set.elf set.oelf set.prx))⟩,
   ⟨.archiving, fun w p => w.unless (pl.archive runner w.objects set p)⟩,
   ⟨.stub, fun w p =>
      Work.keeping (buildStub runner pl set p) fun syms => { w with symbols := syms }⟩]

/-- Walk a stage table: step into each stage and do its work, and stop in `failed` at the first
fault. -/
def runStages (m : Machine) : List StageStep → Work → Progress →
    Except String (Machine × Progress × Except Fault Work)
  | [], w, p => .ok (m, p, .ok w)
  | s :: rest, w, p => do
    let m ← m.transition s.stage
    match s.run w p with
    | (p', .ok w') => runStages m rest w' p'
    | (p', .error f) =>
      let (m, f) ← m.fail s.stage f
      pure (m, p', .error f)

/-- Write the record of a successful build; a failure leaves the disk as it was. -/
def saveRecord (d : Disk) (dir : String) (r : Record) : Disk :=
  match d.mkdirAll dir with
  | .error _ => d
  | .ok d' =>
    match d'.writeFile (Path.join [dir, recordFile]) r.render with
    | .ok d'' => d''
    | .error _ => d'

/-- Run a build on a disk; `started` and `finished` are the times the record gets. -/
def Pipeline.run (pl : Pipeline) (runner : Runner) (d : Disk) (started finished : Time.Moment) :
    Except String Outcome := do
  let dir := pl.resolver.buildDir
  match resetDir d dir with
  | .error f =>
    let (m, f) ← Machine.start.fail .clean (.wrap ("failed to reset " ++ dir) (some f))
    pure { disk := d, calls := [], machine := m, result := .error f }
  | .ok d0 =>
    let set := pl.resolver.artifacts pl.name pl.stubSource
    let (m, p, r) ← runStages Machine.start (pl.stageTable runner set) {} { disk := d0 }
    match r with
    | .error f => pure { disk := p.disk, calls := p.calls, machine := m, result := .error f }
    | .ok w =>
      let m ← m.transition .done
      let record : Record :=
        { name := pl.name, artifacts := set, objects := w.objects,
          symbols := w.symbols.names.toList, startTime := started, buildTime := finished }
      pure { disk := saveRecord p.disk dir record, calls := p.calls, machine := m,
             result := .ok { artifacts := set, objects := w.objects, symbols := w.symbols } }

/-- A rule of a scripted runner: calls of `tool` (by the last component of the binary) get
`status`, the `nth` call only, or every call when `nth` is 0. -/
structure FailRule where
  tool : String
  nth : Int
  status : Status
  deriving Repr

/-- A runner that answers from rules: the first rule for the tool and the number of this call
among the calls of that tool decides, and without one the tool succeeds. -/
def scriptedRunner (rules : List FailRule) : Runner := fun before c =>
  let tool := Path.base c.bin
  let count : Int := (before.filter fun b => Path.base b.bin == tool).length + 1
  match rules.find? fun r => r.tool == tool && (r.nth == 0 || r.nth == count) with
  | some r => r.status
  | none => 0

end CrossBuild
