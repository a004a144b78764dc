import CrossBuild.Cli.Run

/-!
# The command line

`main` runs a command on the real disk and environment. The command itself is pure
(`Cli.runCommand`); this layer carries the world in and the changes out, and decides nothing:

* it reads the working directory and the two toolchain variables;
* it reads what the paths the command looks at (`Cli.wantedPaths`) and the directories above
  them hold into a `Disk`, and asks again until no new path comes up;
* it runs the command, writes what the command wrote to standard output, makes the command's
  changes (`Disk.changes`) on the real disk in order, and writes a failure to standard error.

The exit status is the status of a failed build, 1 for any other failure and 0 otherwise.
No tool is started from here, so every tool of a build fails to start.
-/

namespace CrossBuild.CommandLine

/-- What a path holds on the real disk: a file with its text, a directory, or nothing. -/
def probe (p : String) : IO (Option Item) := do
  try
    pure (some (.file (← IO.FS.readFile p)))
  catch e =>
    match e with
    | .inappropriateType _ 21 _ => pure (some .dir)
    | _ => pure none

/-- Read a path and the directories above it into a disk, from the root down to the first
location that is a file or holds nothing. -/
def learn (d : Disk) (p : String) : IO Disk := do
  let parts := (p.splitOn "/").filter (!·.isEmpty)
  let mut d := d
  for i in List.range parts.length do
    let loc := parts.take (i + 1)
    let item ← match d.find? loc with
      | some it => pure (some it)
      | none => probe (Disk.pathOf loc)
    match item with
    | some .dir => d := d.set loc .dir
    | some (.file t) => return d.set loc (.file t)
    | none => return d
  return d

/-- Read the paths a command looks at until no new one comes up, at most `rounds` times. -/
def prepare (args : List String) : Nat → Cli.World → IO Cli.World
  | 0, w => pure w
  | rounds + 1, w => do
    let mut d := w.disk
    for p in Cli.wantedPaths args w do
      d ← learn d p
    if d.items.length == w.disk.items.length then pure w
    else prepare args rounds { w with disk := d }

/-- Make one change on the real disk. -/
def apply : Change → IO Unit
  | .write p text => IO.FS.writeFile p text
  | .makeDir p => IO.FS.createDirAll p
  | .remove p => do
    match ← probe p with
    | some .dir => IO.FS.removeDirAll p
    | some (.file _) => IO.FS.removeFile p
    | none => pure ()

/-- The environment of the command: the toolchain variables that are set. -/
def environment : IO Environment := do
  let mut env : Environment := {}
  for k in [binPathVar, sdkVar] do
    if let some v ← IO.getEnv k then env := env.set k v
  return env

end CrossBuild.CommandLine

open CrossBuild in
/-- Run the command the arguments name. -/
def main (args : List String) : IO UInt32 := do
  let cwd := ((toString (← IO.currentDir)).splitOn "/").filter (!·.isEmpty)
  let start : Cli.World :=
    { disk := { items := [], cwd }, env := ← CommandLine.environment, tools := Cli.absentTools }
  let w ← CommandLine.prepare args 4 { start with
    disk := ← (List.range cwd.length).foldlM
      (fun d i => pure (d.set (cwd.take (i + 1)) .dir)) start.disk }
  let o := Cli.runCommand args w
  IO.print o.output
  for c in o.world.disk.changes do
    CommandLine.apply c
  match o.failure with
  | none => pure 0
  | some (.status n) => pure n.toNat.toUInt32
  | some f@(.panic _) => IO.eprintln f.text; pure 2
  | some f => IO.eprintln f.text; pure 1
