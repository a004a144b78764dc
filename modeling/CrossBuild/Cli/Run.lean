import CrossBuild.Cli.Help
import CrossBuild.Pipeline
import CrossBuild.Manifest.Read
import CrossBuild.Env.Config
import CrossBuild.Env.Dotenv
import CrossBuild.Time.Span

/-!
# Running a command

`runCommand` runs the program on its arguments in a world of a disk and an environment, and
gives what it wrote, the world after it, and how it failed.

After the command is found and its options read, arguments left over are refused
(`unknown command "X" for "oobuild paths"`), the environment files are loaded, and the command
runs on its project: the project directory (made absolute from the working directory, and
refused unless it is a directory), the manifest (a file, read from the working directory, or
the built-in one) and the build directory of the manifest under the project directory. `build`
and `stub` first read the toolchain location from the environment.

* `paths` writes the outputs, one `NAME PATH` row each with the name padded to twelve
  columns, and, when the build directory holds a record, a `last build` row with the end time,
  the counts and the time the build took, rounded to milliseconds;
* `clean` removes the build directory and says so;
* `build` runs the pipeline and writes `> Build result = N`, N the status of the first failing
  tool (1 for a failure without one); a status other than 0 fails the command with it;
* `stub --print` writes the stub source of the headers; `stub` builds the stub library in the
  build directory and fails with the status of its first failure.

`build` and `stub` run their tools as the world says (`World.tools`). A program run as a process
has real processes for tools, which are not there (`absentTools`): a command that cannot be
valid has the status 126, any other the status 127. A built-in manifest that does not read stops
the program with a panic.
-/

namespace CrossBuild.Cli

open CrossBuild.Text

/-- Tools as real processes that are not installed. -/
def absentTools : Runner := fun _ c => c.launchStatus

/-- The disk and environment a command runs in, and how its tools run. -/
structure World where
  disk : Disk
  env : Environment
  tools : Runner

/-- How a command failed. -/
inductive Failure where
  /-- A build failed with the status of its first failure. -/
  | status (code : Int)
  /-- A fault of the program. -/
  | fault (f : Fault)
  /-- A fault of the command line or the command tree. -/
  | message (text : String)
  /-- The program stopped on a panic with this message. -/
  | panic (text : String)
  deriving Repr

/-- The text of a failure. -/
def Failure.text : Failure → String
  | .status n => "build failed with status " ++ toString n
  | .fault f => f.message
  | .message t => t
  | .panic t => "panic: " ++ t

/-- What a command did. -/
structure Outcome where
  output : String := ""
  world : World
  failure : Option Failure := none

/-- The project a command works on. -/
structure Project where
  root : String
  config : Option Config
  manifest : Manifest
  resolver : Resolver

/-- The absolute path of the working directory. -/
def World.cwdPath (w : World) : String :=
  "/" ++ "/".intercalate w.disk.cwd

/-- A path made absolute from the working directory. -/
def World.absolute (w : World) (p : String) : String :=
  if Path.isAbs p then Path.clean p else Path.join [w.cwdPath, p]

/-- The project directory: the path made absolute, which must be a directory. -/
def projectRoot (w : World) (dir : String) : Except Failure String :=
  let abs := w.absolute dir
  match w.disk.stat abs with
  | .error e => .error (.fault (.io "stat" abs e))
  | .ok .dir => .ok abs
  | .ok (.file _) => .error (.fault (.config "root" (abs ++ " is not a directory")))

/-- Read a manifest file; its faults name the file. -/
def loadManifest (w : World) (path : String) : Except Failure Manifest :=
  match w.disk.readFile path with
  | .error f => .error (.fault f)
  | .ok text =>
    match Manifest.read text with
    | .ok m => .ok m
    | .error f => .error (.message (path ++ ": " ++ f.message))

/-- The toolchain location, read only for a command that runs the toolchain. -/
def loadConfig (w : World) (withSdk : Bool) : Except Failure (Option Config) :=
  if withSdk then
    match Config.load w.env with
    | .ok c => .ok (some c)
    | .error f => .error (.fault f)
  else .ok none

/-- The manifest of a project: the file at `path`, or the built-in one when no file is named.
A built-in manifest that does not read is a panic. -/
def projectManifest (w : World) (path : String) : Except Failure Manifest :=
  if path.isEmpty then
    match Manifest.builtIn with
    | .ok m => .ok m
    | .error msg => .error (.panic msg)
  else loadManifest w path

/-- Load the project; with `withSdk` the toolchain location is read first. -/
def loadProject (w : World) (opts : Options) (withSdk : Bool) : Except Failure Project := do
  let config ← loadConfig w withSdk
  let root ← projectRoot w opts.root
  let manifest ← projectManifest w opts.manifest
  pure { root, config, manifest, resolver := Resolver.new root manifest.buildDir }

/-- The pipeline of a project. -/
def Project.pipeline (p : Project) : Pipeline :=
  Pipeline.ofManifest p.manifest p.resolver (p.manifest.toolchain (p.config.getD {}) p.root)

/-- A row of the `paths` table. -/
def row (name value : String) : String :=
  name ++ String.ofList (List.replicate (12 - name.length) ' ') ++ " " ++ value ++ "\n"

/-- The `last build` row of a record. -/
def recordRow (r : Record) : String :=
  row "last build" (r.buildTime.stamp ++ " (" ++ toString r.objects.length ++ " objects, " ++
    toString r.symbols.length ++ " symbols, took " ++
    Time.spanText (Time.roundMillis (r.buildTime.since r.startTime)) ++ ")")

/-- Run `paths`. -/
def runPaths (w : World) (p : Project) : Outcome :=
  let m := p.manifest
  let set := p.resolver.artifacts m.name m.stub.source
  let dir := p.resolver.buildDir
  let out := row "build" dir ++ row "elf" set.elf ++ row "oelf" set.oelf ++ row "prx" set.prx ++
    row "archive" set.archive ++ row "stub" set.stub ++ row "stub source" set.stubSource ++
    row "stub object" set.stubObject
  let failed (why : String) : Outcome :=
    { output := out, world := w,
      failure := some (.message ("failed to read build record: " ++ why)) }
  match w.disk.readFile (Path.join [dir, recordFile]) with
  | .error (.io _ _ .notFound) => { output := out, world := w }
  | .error f => failed f.message
  | .ok text =>
    match Record.read text with
    | .ok r => { output := out ++ recordRow r, world := w }
    | .error e => failed e.message

/-- Run `clean`. -/
def runClean (w : World) (p : Project) : Outcome :=
  let dir := p.resolver.buildDir
  match w.disk.removeAll dir with
  | .error f =>
    { world := w, failure := some (.fault (.wrap ("failed to remove " ++ dir) (some f))) }
  | .ok d => { output := "removed " ++ dir ++ "\n", world := { w with disk := d } }

/-- Run `build`. -/
def runBuild (w : World) (p : Project) : Outcome :=
  match p.pipeline.run w.tools w.disk Time.Moment.zero Time.Moment.zero with
  | .error msg => { world := w, failure := some (.panic msg) }
  | .ok o =>
    let status := exitStatus (match o.result with
      | .ok _ => none
      | .error f => some f)
    { output := "> Build result = " ++ toString status ++ "\n",
      world := { w with disk := o.disk },
      failure := if status == 0 then none else some (.status status) }

/-- Run `stub` without `--print`. -/
def runStub (w : World) (p : Project) : Outcome :=
  let dir := p.resolver.buildDir
  match w.disk.mkdirAll dir with
  | .error f => { world := w, failure := some (.fault f) }
  | .ok d =>
    let pl := p.pipeline
    let set := p.resolver.artifacts pl.name pl.stubSource
    match buildStub w.tools pl set { disk := d } with
    | (pr, .ok _) => { world := { w with disk := pr.disk } }
    | (pr, .error f) =>
      { world := { w with disk := pr.disk }, failure := some (.status (exitStatus (some f))) }

/-- Run `stub --print`. -/
def printStub (w : World) (p : Project) : Outcome :=
  let headers := p.manifest.stub.headers.map p.resolver.source
  match Header.scanFiles w.disk headers with
  | .error f => { world := w, failure := some (.fault f) }
  | .ok syms => { output := syms.render, world := w }

/-- Run a command of the program once its options are read and the environment files loaded;
`args` are its arguments. -/
def runVerb (w : World) (opts : Options) (args : List String) : Verb → Outcome
  | .paths => match loadProject w opts false with
    | .error e => { world := w, failure := some e }
    | .ok p => runPaths w p
  | .clean => match loadProject w opts false with
    | .error e => { world := w, failure := some e }
    | .ok p => runClean w p
  | .build => match loadProject w opts true with
    | .error e => { world := w, failure := some e }
    | .ok p => runBuild w p
  | .stub => match loadProject w opts (!opts.print) with
    | .error e => { world := w, failure := some e }
    | .ok p => if opts.print then printStub w p else runStub w p
  | .help => { output := helpTopic args, world := w }
  | .completion => { output := helpText (some .completion), world := w }

/-- Run the program on its arguments. The program itself and `completion` only group commands,
so they write their help; so does a command given `--help`. -/
def runCommand (args : List String) (w : World) : Outcome :=
  match findCommand args with
  | .error e => { world := w, failure := some (.message e) }
  | .ok (verb, rest) =>
    match parseOptions (commandOptions verb) (rest.length + 1) {} rest [] with
    | .error e => { world := w, failure := some (.message e) }
    | .ok (opts, extra) =>
      match verb with
      | none => { output := helpText none, world := w }
      | some v =>
        if opts.help || !v.runs then { output := helpText verb, world := w }
        else if v != .help && !extra.isEmpty then
          { world := w, failure := some (.message ("unknown command " ++ quote extra.head! ++
              " for " ++ quote (commandPath verb))) }
        else
          match Dotenv.loadFiles w.disk w.env opts.envFiles with
          | (env, some f) =>
            { world := { w with env },
              failure := some (.fault (.wrap "failed to load env files" (some f))) }
          | (env, none) => runVerb { w with env } opts extra v

/-- The paths a command looks at, as far as the world shows them: the environment files, the
project directory and the manifest, and, once the manifest can be read, the build directory,
its record and the headers. A world that holds what these paths and the directories above them
hold on a real disk gives the command all it reads there, so loading them and asking again
until no new path comes up prepares the command's world. -/
def wantedPaths (args : List String) (w : World) : List String :=
  match findCommand args with
  | .error _ => []
  | .ok (verb, rest) =>
    match parseOptions (commandOptions verb) (rest.length + 1) {} rest [] with
    | .error _ => []
    | .ok (opts, _) =>
      let env := (Dotenv.loadFiles w.disk w.env opts.envFiles).1
      let project := match loadProject { w with env } opts false with
        | .ok p =>
          let dir := p.resolver.buildDir
          [dir, Path.join [dir, recordFile]] ++ p.manifest.stub.headers.map p.resolver.source
        | .error _ => []
      opts.envFiles.map w.absolute ++ [w.absolute opts.root] ++
        (if opts.manifest.isEmpty then [] else [w.absolute opts.manifest]) ++ project

end CrossBuild.Cli
