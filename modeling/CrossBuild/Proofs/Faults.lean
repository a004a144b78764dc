import CrossBuild.Pipeline

/-!
# Faults that come from no tool

A build fails for two kinds of reasons: a tool exits with a status other than 0, or something
else goes wrong first, such as a file operation, a source outside the project or a header line
without a name. A fault of the second kind is *inert* (`Fault.Inert`): neither the search for a
tool status (`Fault.status?`) nor the search for a stage fault (`Fault.hasStage`) finds anything
in it, so its process status is 1 and a failing stage wraps it in a stage fault of its own.

Every fault of a disk operation is inert (`Disk.writeFile_inert`, `Disk.mkdirAll_inert`,
`Disk.removeAll_inert`), and so is every fault of a header scan (`Header.scanFiles_inert`).
-/

namespace CrossBuild

/-- A fault that carries neither a tool status nor a stage fault. -/
def Fault.Inert (f : Fault) : Prop :=
  f.hasStage = false ∧ f.status? = none

namespace Fault

@[simp] theorem inert_io (op path : String) (e : Errno) : (Fault.io op path e).Inert :=
  ⟨rfl, rfl⟩

@[simp] theorem inert_plain (msg : String) : (Fault.plain msg).Inert :=
  ⟨rfl, rfl⟩

@[simp] theorem inert_extract (file : String) (n : Int) (text : String) (e : Header.NameError) :
    (Fault.extract file n text e).Inert :=
  ⟨rfl, rfl⟩

@[simp] theorem inert_wrap (c : String) (f : Fault) : (Fault.wrap c (some f)).Inert ↔ f.Inert :=
  Iff.rfl

/-- An inert fault has the process status 1. -/
theorem Inert.statusOf {f : Fault} (h : f.Inert) : CrossBuild.statusOf (some f) = 1 := by
  simp [CrossBuild.statusOf, h.2]

end Fault

namespace Disk

theorem writeFile_inert {d : Disk} {p t : String} {f : Fault} :
    d.writeFile p t = .error f → f.Inert := by
  unfold writeFile
  split
  · intro h; cases h; simp
  · split
    · intro h; cases h; simp
    · intro h; cases h

/-- Making one directory, where a failure is forgiven when the directory is there after all. -/
private theorem mkdir_fault_inert {d : Disk} {p : String} {f : Fault}
    (h : (match d.mkdir p with
      | .ok d'' => .ok d''
      | .error e =>
        match d.stat p with
        | .ok .dir => .ok d
        | _ => .error (.io "mkdir" p e) : Except Fault Disk) = .error f) : f.Inert := by
  split at h
  · cases h
  · split at h
    · cases h
    · cases h; simp

/-- A failed directory creation is a fault of no tool: the parent is made first, then the directory
itself, and each step fails only on the disk. -/
theorem mkdirAllFrom_inert :
    ∀ (fuel : Nat) (d : Disk) (p : String) (f : Fault), mkdirAllFrom fuel d p = .error f → f.Inert
  | 0, _, _, _, h => by simp [mkdirAllFrom] at h
  | fuel + 1, d, p, f, h => by
    unfold mkdirAllFrom at h
    split at h
    · cases h
    · cases h; simp
    · simp only [bind, Except.bind] at h
      split at h
      · exact mkdir_fault_inert h
      · split at h
        · cases h
          exact mkdirAllFrom_inert fuel d _ _ ‹_›
        · exact mkdir_fault_inert h

theorem mkdirAll_inert {d : Disk} {p : String} {f : Fault} (h : d.mkdirAll p = .error f) :
    f.Inert :=
  mkdirAllFrom_inert _ d p f h

theorem removeAll_inert {d : Disk} {p : String} {f : Fault} (h : d.removeAll p = .error f) :
    f.Inert := by
  unfold removeAll at h
  split at h
  · cases h
  · split at h
    · cases h; simp
    · split at h
      · cases h
      · cases h
      · dsimp only at h
        split at h
        · cases h
        · cases h; simp
        · split at h
          · cases h
          · cases h; simp
          · cases h

end Disk

theorem resetDir_inert {d : Disk} {dir : String} {f : Fault} (h : resetDir d dir = .error f) :
    f.Inert := by
  simp only [resetDir, bind, Except.bind] at h
  split at h
  · cases h
    exact Disk.removeAll_inert ‹_›
  · exact Disk.mkdirAll_inert h

namespace Header

/-- Scanning header lines fails only with a name fault. -/
theorem scanLines_inert (file : String) :
    ∀ (lines : List (List UInt8)) (syms : Symbols) (n : Nat) (f : Fault),
      (scanLines file syms n lines).2 = some f → f.Inert
  | [], _, _, _, h => by simp [scanLines] at h
  | l :: rest, syms, n, f, h => by
    unfold scanLines at h
    dsimp only at h
    split at h
    · split at h
      · exact scanLines_inert file rest _ _ f h
      · cases h; simp
    · exact scanLines_inert file rest _ _ f h

/-- Scanning a header fails only with a read fault or a name fault. -/
theorem scan_inert {rd : Text.Reader} {file text : String} {syms : Symbols} {f : Fault}
    (h : (scan rd file text syms).2 = some f) : f.Inert := by
  unfold scan at h
  dsimp only at h
  split at h
  · obtain ⟨e, -, rfl⟩ := Option.map_eq_some_iff.1 h
    simp [readFault]
  · exact scanLines_inert file _ _ _ f h

theorem scanFilesInto_inert (d : Disk) :
    ∀ (files : List String) (syms : Symbols) (f : Fault),
      scanFilesInto d files syms = .error f → f.Inert
  | [], _, _, h => by simp [scanFilesInto] at h
  | file :: rest, syms, f, h => by
    unfold scanFilesInto at h
    split at h
    · cases h; simp
    · cases h; simp
    · split at h
      · exact scanFilesInto_inert d rest _ f h
      · cases h
        rename_i heq
        exact scan_inert (by rw [heq])

theorem scanFiles_inert {d : Disk} {files : List String} {f : Fault}
    (h : scanFiles d files = .error f) : f.Inert :=
  scanFilesInto_inert d files {} f h

end Header

/-- A tool fails exactly when its status is not 0, and its fault is its exit with that
status. -/
theorem Progress.run_fault {runner : Runner} {p : Progress} {c : Command} {f : Fault} :
    (p.run runner c).2 = some f ↔ runner p.calls c ≠ 0 ∧ f = .exit c.bin (runner p.calls c) := by
  simp only [Progress.run]
  split
  · simp_all
  · rename_i hst
    simp only [Option.some.injEq]
    exact ⟨fun h => ⟨by simpa using hst, h.symm⟩, fun h => h.2.symm⟩

@[simp] theorem Progress.run_calls (runner : Runner) (p : Progress) (c : Command) :
    (p.run runner c).1.calls = p.calls ++ [c] := rfl

/-- Tools leave the disk alone: only the commands run so far change. -/
@[simp] theorem Progress.run_disk (runner : Runner) (p : Progress) (c : Command) :
    (p.run runner c).1.disk = p.disk := rfl

theorem Progress.disk_of_run {runner : Runner} {p p' : Progress} {c : Command} {o : Option Fault}
    (h : p.run runner c = (p', o)) : p'.disk = p.disk := by
  rw [← Progress.run_disk runner p c, h]

end CrossBuild
