import CrossBuild.Cli.Run
import CrossBuild.Proofs.DiskFrame
import CrossBuild.Proofs.HeaderScan
import CrossBuild.Proofs.ToolCalls
import CrossBuild.Proofs.ManifestRules

/-!
# What the stub commands scan

Three commands scan the headers of the stub, each on a disk of its own, and render the symbols
they find as the stub source: `stub --print` prints it, `stub` and the build write it into the
build directory.

| command | disk scanned |
|---|---|
| `stub --print` (`Cli.printStub`) | the disk as it is |
| `stub` (`Cli.runStub`) | the disk after the build directory is made |
| `build` (the `stub` stage of `Pipeline.run`) | the disk after the reset and the four stages before the stub |

A scan looks only at which header paths name files, and at their texts
(`scanFilesInto_toOption_congr`). The headers of a project are clean absolute paths, so over a
well formed disk:

* making the build directory keeps every file where it is, so the `stub` command scans what
  `stub --print` scans and writes as its stub source the text that `stub --print` prints
  (`Disk.fileText?_writeFile`);
* the reset of a build removes the build directory and makes it again, and the stages before
  the stub only make directories, so the stub stage scans the project as it would be with the
  build directory removed (`Pipeline.stubScan_spared`). That is what `stub --print` scans as long
  as no header lies within the build directory; a header that does is gone by the time the stage
  scans it.
-/

namespace CrossBuild

open Header CrossBuild.Path Disk

/-! ### Scans -/

section Scan

/-- A result with the value of a success is that success. -/
theorem eq_ok_of_toOption_eq {ε α : Type} {x y : Except ε α} {a : α}
    (h : x.toOption = y.toOption) (hy : y = .ok a) : x = .ok a := by
  subst hy
  cases x with
  | error e => cases h
  | ok b => cases h; rfl

/-- A result with the value of a failure is a failure. -/
theorem exists_error_of_toOption_eq {ε α : Type} {x y : Except ε α} {e : ε}
    (h : x.toOption = y.toOption) (hy : y = .error e) : ∃ e', x = .error e' := by
  subst hy
  cases x with
  | error e' => exact ⟨e', rfl⟩
  | ok b => cases h

/-- A scan fails at a path that names no file. -/
theorem scanFilesInto_toOption_of_not_file {d : Disk} {f : String}
    (h : ∀ t, d.stat f ≠ .ok (.file t)) (rest : List String) (syms : Symbols) :
    (scanFilesInto d (f :: rest) syms).toOption = none := by
  unfold scanFilesInto
  split
  · rfl
  · rfl
  · exact absurd ‹_› (h _)

/-- **A scan sees only files.** Two disks on which the same header paths name files, with the
same texts, scan the headers alike: with the same symbols, or both failing. -/
theorem scanFilesInto_toOption_congr {d₁ d₂ : Disk} : ∀ (files : List String) (syms : Symbols),
    (∀ f ∈ files, ∀ t, d₁.stat f = .ok (.file t) ↔ d₂.stat f = .ok (.file t)) →
    (scanFilesInto d₁ files syms).toOption = (scanFilesInto d₂ files syms).toOption
  | [], _, _ => rfl
  | f :: rest, syms, h => by
    have hf := h f List.mem_cons_self
    have hrest : ∀ g ∈ rest, ∀ t, d₁.stat g = .ok (.file t) ↔ d₂.stat g = .ok (.file t) :=
      fun g hg => h g (List.mem_cons_of_mem f hg)
    by_cases hfile : ∃ t, d₁.stat f = .ok (.file t)
    · obtain ⟨t, h₁⟩ := hfile
      have h₂ := (hf t).1 h₁
      simp only [scanFilesInto, h₁, h₂]
      split
      · exact scanFilesInto_toOption_congr rest _ hrest
      · rfl
    · have h₂ : ∀ t, d₂.stat f ≠ .ok (.file t) := fun t h₂ => hfile ⟨t, (hf t).2 h₂⟩
      rw [scanFilesInto_toOption_of_not_file (fun t h₁ => hfile ⟨t, h₁⟩),
        scanFilesInto_toOption_of_not_file h₂]

end Scan

/-! ### The stages before the stub -/

section Stages

variable {runner : Runner} {pl : Pipeline}

/-- Compiling only makes the directories of the objects. -/
theorem compileAll_grows (runner : Runner) (pl : Pipeline) :
    ∀ (rels : List String) (p : Progress) (objs : List String),
      Grows p.disk (compileAll runner pl rels p objs).1.disk
  | [], p, _ => .refl p.disk
  | rel :: rest, p, objs => by
    simp only [compileAll]
    split
    · exact .refl p.disk
    · rename_i obj _
      split
      · exact .refl p.disk
      · rename_i d hd
        have hgrow := mkdirAll_grows hd
        rcases hrun : Progress.run runner { p with disk := d }
            (pl.toolchain.compile (pl.resolver.source rel) obj) with ⟨p', _ | f⟩
        all_goals
          have hdisk : p'.disk = d := Progress.disk_of_run hrun
          simp only
        · exact hgrow.trans (hdisk ▸ compileAll_grows runner pl rest p' _)
        · exact hdisk ▸ hgrow

/-- A walk of stages that each only grow the disk only grows it. -/
theorem workOf_grows : ∀ (table : List StageStep),
    (∀ s ∈ table, ∀ w p, Grows p.disk (s.run w p).1.disk) →
      ∀ w p, Grows p.disk (workOf table w p).1.disk
  | [], _, _, p => .refl p.disk
  | s :: rest, h, w, p => by
    have hs := h s List.mem_cons_self w p
    simp only [workOf]
    split
    · rename_i p' w' hrun
      rw [hrun] at hs
      exact hs.trans (workOf_grows rest (fun s' hs' => h s' (List.mem_cons_of_mem s hs')) w' p')
    · rename_i p' f hrun
      rw [hrun] at hs
      exact hs

/-- The stages before the stub (compiling, linking, packaging, archiving) only make
directories. -/
theorem stagesBeforeStub_grow (pl : Pipeline) (runner : Runner) (set : ArtifactSet) (w : Work)
    (p : Progress) : Grows p.disk (workOf ((pl.stageTable runner set).take 4) w p).1.disk := by
  apply workOf_grows
  intro s hs w p
  simp only [Pipeline.stageTable, List.take_succ_cons, List.take_zero, List.mem_cons,
    List.not_mem_nil, or_false] at hs
  rcases hs with rfl | rfl | rfl | rfl
  · exact compileAll_grows runner pl pl.sources p []
  · show Grows p.disk (pl.link runner w.objects set p).1.disk
    unfold Pipeline.link
    split <;> exact .refl p.disk
  · exact .refl p.disk
  · show Grows p.disk (pl.archive runner w.objects set p).1.disk
    unfold Pipeline.archive
    split <;> exact .refl p.disk

/-- A walk of two tables one after the other: the second starts where the first succeeded. -/
theorem workOf_append : ∀ (xs ys : List StageStep) (w : Work) (p : Progress),
    workOf (xs ++ ys) w p =
      match workOf xs w p with
      | (p', .ok w') => workOf ys w' p'
      | r => r
  | [], _, _, _ => rfl
  | s :: rest, ys, w, p => by
    simp only [List.cons_append, workOf]
    split
    · exact workOf_append rest ys _ _
    · rfl

/-- A successful walk of a pipeline's stage table went through the four stages before the stub
and then through a successful stub stage, the one stage left after them. -/
theorem workOf_stageTable_ok {set : ArtifactSet} {p₀ p : Progress} {w : Work}
    (h : workOf (pl.stageTable runner set) {} p₀ = (p, .ok w)) :
    ∃ p₄ w₄, workOf ((pl.stageTable runner set).take 4) {} p₀ = (p₄, .ok w₄) ∧
      buildStub runner pl set p₄ = (p, .ok w.symbols) := by
  rw [← List.take_append_drop 4 (pl.stageTable runner set), workOf_append] at h
  rcases h₄ : workOf ((pl.stageTable runner set).take 4) {} p₀ with ⟨p₄, f | w₄⟩
  · rw [h₄] at h
    cases h
  · rw [h₄] at h
    refine ⟨p₄, w₄, rfl, ?_⟩
    simp only [Pipeline.stageTable, List.drop_succ_cons, List.drop_zero, workOf, Work.keeping] at h
    rcases hstub : buildStub runner pl set p₄ with ⟨p', g | syms⟩
    · rw [hstub] at h
      cases h
    · rw [hstub] at h
      simp only [Except.map, Prod.mk.injEq, Except.ok.injEq] at h
      obtain ⟨rfl, rfl⟩ := h
      rfl

/-- A stub that was built was scanned from its headers first. -/
theorem buildStub_scan {set : ArtifactSet} {p p' : Progress} {syms : Symbols}
    (h : buildStub runner pl set p = (p', .ok syms)) :
    scanFiles p.disk (pl.headers.map pl.resolver.source) = .ok syms := by
  unfold buildStub at h
  dsimp only at h
  split at h
  · cases h
  · rename_i syms' hscan
    rw [hscan]
    split at h
    · cases h
    · split at h
      · cases h
      · split at h
        · cases h
        · cases h
          rfl

/-- **A successful build, stage by stage.** Its reset succeeded, its stage table was walked
successfully, its result holds the artifact set of the pipeline, and its disk is the one the
walk left with a record of that artifact set saved into the build directory. -/
theorem Pipeline.run_ok_result {d : Disk} {t₀ t₁ : Time.Moment} {o : Outcome} {b : Built}
    (hrun : pl.run runner d t₀ t₁ = .ok o) (hres : o.result = .ok b) :
    ∃ d₀ p w, resetDir d pl.resolver.buildDir = .ok d₀ ∧
      workOf (pl.stageTable runner (pl.resolver.artifacts pl.name pl.stubSource)) {}
        { disk := d₀ } = (p, .ok w) ∧
      b = ⟨pl.resolver.artifacts pl.name pl.stubSource, w.objects, w.symbols⟩ ∧
      ∃ r : Record, r.artifacts = pl.resolver.artifacts pl.name pl.stubSource ∧
        o.disk = saveRecord p.disk pl.resolver.buildDir r := by
  cases hreset : resetDir d pl.resolver.buildDir with
  | error f =>
    rw [Pipeline.run_of_reset_error hreset] at hrun
    cases hrun
    cases hres
  | ok d₀ =>
    rcases hw : workOf (pl.stageTable runner (pl.resolver.artifacts pl.name pl.stubSource)) {}
      { disk := d₀ } with ⟨p, r⟩
    obtain ⟨o', hrun', -, herror, hok⟩ := pl.run_of_reset_ok runner d t₀ t₁ hreset hw
    rw [hrun'] at hrun
    cases hrun
    cases r with
    | error f =>
      rw [(herror f rfl).1] at hres
      cases hres
    | ok w =>
      obtain ⟨hres', hdisk⟩ := hok w rfl
      rw [hres'] at hres
      cases hres
      exact ⟨d₀, p, w, rfl, hw, rfl, _, rfl, hdisk⟩

end Stages

/-! ### The stub stage -/

section StubStage

variable {runner : Runner} {pl : Pipeline} {d d₀ : Disk}

/-- Resetting a clean absolute build directory spares everything outside it. -/
theorem resetDir_spares {B : String} (hwf : d.WellFormed) (hB : CleanAbs B)
    (h : resetDir d B = .ok d₀) : Spares (location B) d d₀ := by
  simp only [resetDir, bind, Except.bind] at h
  split at h
  · cases h
  · rename_i d' hd'
    exact (removeAll_spares hwf hB hd').grow (mkdirAll_grows h)

/-- Resetting a clean absolute build directory, other than the root, whose directories above are
all there removes everything within it and makes it again, empty. Pruning keeps the directories
above, which are shorter than the build directory. -/
theorem resetDir_of_reaches {B : String} (hB : CleanAbs B) (hne : location B ≠ [])
    (h : d.Reaches (location B)) :
    resetDir d B = .ok ((((d.prune (location B)).record (.remove (pathOf (location B)))).set
      (location B) .dir).record (.makeDir (pathOf (location B)))) := by
  have hreach : ((d.prune (location B)).record (.remove (pathOf (location B)))).Reaches
      (location B) := by
    refine h.of_above fun k hpos hk => ?_
    obtain ⟨htake, hshort⟩ := take_ne_nil_ne_self hpos hk
    rw [find?_record, find?_prune htake, if_neg hshort]
  have hgone : ((d.prune (location B)).record (.remove (pathOf (location B)))).find?
      (location B) = none := by
    rw [find?_record, find?_prune hne, if_pos (List.prefix_refl _)]
  simp only [resetDir, bind, Except.bind, removeAll_of_reaches hB h,
    mkdirAll_of_reaches hB hreach hgone]

/-- **The stub stage scans the project without its build directory.** On a well formed disk,
with a clean absolute build directory and clean absolute headers, the stub stage of a build
scans the headers as they are on the disk with the build directory removed: with the same
symbols, or failing as that scan fails. The reset spares what lies outside the build directory,
and the stages after it only grow the disk. -/
theorem Pipeline.stubScan_spared {set : ArtifactSet} {p₄ : Progress} {w₄ : Work}
    (hwf : d.WellFormed) (hB : CleanAbs pl.resolver.buildDir)
    (hhs : ∀ f ∈ pl.headers.map pl.resolver.source, CleanAbs f)
    (hreset : resetDir d pl.resolver.buildDir = .ok d₀)
    (h4 : workOf ((pl.stageTable runner set).take 4) {} { disk := d₀ } = (p₄, .ok w₄)) :
    (scanFiles p₄.disk (pl.headers.map pl.resolver.source)).toOption =
      (scanFiles (d.prune (location pl.resolver.buildDir)) (pl.headers.map pl.resolver.source)).toOption := by
  have hsp : Spares (location pl.resolver.buildDir) d p₄.disk := by
    have h := (resetDir_spares hwf hB hreset).grow (stagesBeforeStub_grow pl runner set {} { disk := d₀ })
    rwa [h4] at h
  apply scanFilesInto_toOption_congr
  intro f hf t
  rw [hsp.stat_file_iff hwf (hhs f hf), (spares_prune d _).stat_file_iff hwf (hhs f hf)]

/-- With no header within the build directory, removing it leaves the scan of the headers as
it was. -/
theorem scanFiles_prune_outside {L : List String} {hs : List String} (hwf : d.WellFormed)
    (hhs : ∀ f ∈ hs, CleanAbs f) (hout : ∀ f ∈ hs, ¬L <+: location f) :
    (scanFiles (d.prune L) hs).toOption = (scanFiles d hs).toOption := by
  apply scanFilesInto_toOption_congr
  intro f hf t
  rw [(spares_prune d L).stat_file_iff hwf (hhs f hf)]
  exact and_iff_right (hout f hf)

/-- A stub stage whose scan fails changes nothing and fails with the scan's fault. -/
theorem buildStub_of_scan_error (runner : Runner) (set : ArtifactSet) {p : Progress} {f : Fault}
    (h : scanFiles p.disk (pl.headers.map pl.resolver.source) = .error f) :
    buildStub runner pl set p = (p, .error f) := by
  simp only [buildStub, h]

/-- A stub stage that cannot write the stub source fails with the disk as it was. -/
theorem buildStub_of_write_error (runner : Runner) (set : ArtifactSet) {p : Progress}
    {syms : Symbols} {f : Fault}
    (hs : scanFiles p.disk (pl.headers.map pl.resolver.source) = .ok syms)
    (hw : p.disk.writeFile set.stubSource syms.render = .error f) :
    buildStub runner pl set p = (p, .error (.wrap "failed to write stub source" (some f))) := by
  simp only [buildStub, hs, hw]

/-- A stub stage that writes the stub source keeps the disk of that write, whatever the tools that
compile and link the stub then do. -/
theorem buildStub_disk_of_write (runner : Runner) (set : ArtifactSet) {p : Progress}
    {syms : Symbols} {d : Disk}
    (hs : scanFiles p.disk (pl.headers.map pl.resolver.source) = .ok syms)
    (hw : p.disk.writeFile set.stubSource syms.render = .ok d) :
    (buildStub runner pl set p).1.disk = d := by
  simp only [buildStub, hs, hw]
  split
  · exact Progress.disk_of_run ‹_›
  · rename_i p₁ h₁
    have hd₁ : p₁.disk = d := Progress.disk_of_run h₁
    split
    · exact (Progress.disk_of_run ‹_›).trans hd₁
    · exact (Progress.disk_of_run ‹_›).trans hd₁

end StubStage

/-! ### Projects -/

section Project

theorem isAbs_of_cleanAbs {p : String} (hp : CleanAbs p) : isAbs p = true :=
  isAbs_iff.2 (by rw [hp]; rfl)

/-- Manifests read from a text pass their checks. -/
theorem Manifest.check_of_read {text : String} {m : Manifest} (h : Manifest.read text = .ok m) :
    m.check = none := by
  obtain ⟨-, -, -, hc⟩ := (Manifest.read_eq_ok_iff text m).1 h
  exact hc

/-- A manifest read from a text the program carries passes its checks. -/
theorem Manifest.ofCarriedText_check {text : String} {m : Manifest}
    (h : Manifest.ofCarriedText text = .ok m) : m.check = none := by
  unfold Manifest.ofCarriedText at h
  split at h
  · cases h
    exact Manifest.check_of_read ‹_›
  · cases h

/-- The built-in manifest passes its checks: it is read from the built-in text, and a text that
does not read gives no manifest at all. -/
theorem Manifest.builtIn_check {m : Manifest} (h : Manifest.builtIn = .ok m) : m.check = none :=
  Manifest.ofCarriedText_check h

namespace Cli

/-- A path made absolute is absolute. -/
theorem World.absolute_isAbs (w : World) (dir : String) : isAbs (w.absolute dir) = true := by
  unfold World.absolute
  split
  · exact isAbs_of_cleanAbs (cleanAbs_clean ‹_›)
  · apply isAbs_of_cleanAbs
    apply cleanAbs_join
    simp [World.cwdPath, isAbs]

theorem projectRoot_isAbs {w : World} {dir root : String} (h : projectRoot w dir = .ok root) :
    isAbs root = true := by
  unfold projectRoot at h
  dsimp only at h
  split at h
  · cases h
  · cases h
    exact World.absolute_isAbs w dir
  · cases h

theorem loadManifest_check {w : World} {path : String} {m : Manifest}
    (h : loadManifest w path = .ok m) : m.check = none := by
  unfold loadManifest at h
  split at h
  · cases h
  · split at h
    · cases h
      exact Manifest.check_of_read ‹_›
    · cases h

/-- What loading gives every project: an absolute root, a build directory resolved against it,
and a manifest that passes its checks. The commands are stated for such projects. -/
structure Project.WellFormed (p : Project) : Prop where
  root_isAbs : isAbs p.root = true
  resolver_eq : p.resolver = Resolver.new p.root p.manifest.buildDir
  check_eq_none : p.manifest.check = none

/-- The manifest of a project passes its checks, whether it is the built-in one or read from a
file. The built-in one is looked up, never computed. -/
theorem projectManifest_check {w : World} {path : String} {m : Manifest}
    (h : projectManifest w path = .ok m) : m.check = none := by
  unfold projectManifest at h
  split at h
  · cases hb : Manifest.builtIn with
    | ok m' =>
      rw [hb] at h
      cases h
      exact Manifest.builtIn_check hb
    | error msg =>
      rw [hb] at h
      cases h
  · exact loadManifest_check h

/-- **Loaded projects are well formed**, whether the toolchain location is read or not. -/
theorem loadProject_ok {w : World} {opts : Options} {withSdk : Bool} {p : Project}
    (h : loadProject w opts withSdk = .ok p) : p.WellFormed := by
  unfold loadProject at h
  obtain ⟨config, -, h⟩ := exists_of_bind_eq_ok h
  obtain ⟨root, hroot, h⟩ := exists_of_bind_eq_ok h
  obtain ⟨manifest, hmanifest, h⟩ := exists_of_bind_eq_ok h
  cases h
  exact ⟨projectRoot_isAbs hroot, rfl, projectManifest_check hmanifest⟩

namespace Project.WellFormed

variable {p : Project}

/-- The build directory of a well formed project is clean. -/
theorem buildDir_cleanAbs (hp : p.WellFormed) : CleanAbs p.resolver.buildDir := by
  rw [hp.resolver_eq, Resolver.new_buildDir_of_isLocal (Manifest.local_of_check_eq_none
    hp.check_eq_none).1]
  exact cleanAbs_join hp.root_isAbs _

/-- The files of a well formed project are clean absolute paths. -/
theorem source_cleanAbs (hp : p.WellFormed) (rel : String) : CleanAbs (p.resolver.source rel) := by
  rw [hp.resolver_eq, Resolver.source, Resolver.new_root]
  exact cleanAbs_join hp.root_isAbs rel

/-- The stub source of a well formed project is a clean absolute path. -/
theorem stubSource_cleanAbs (hp : p.WellFormed) (name source : String) :
    CleanAbs (p.resolver.artifacts name source).stubSource :=
  cleanAbs_join (isAbs_of_cleanAbs hp.buildDir_cleanAbs) source

end Project.WellFormed

end Cli

end Project

/-! ### The commands -/

namespace Cli

section Commands

variable {w : World} {p : Project}

theorem runPaths_rows (w : World) (p : Project) :
    let set := p.resolver.artifacts p.manifest.name p.manifest.stub.source
    ∃ rest, (runPaths w p).output = row "build" p.resolver.buildDir ++ row "elf" set.elf ++
      row "oelf" set.oelf ++ row "prx" set.prx ++ row "archive" set.archive ++
      row "stub" set.stub ++ row "stub source" set.stubSource ++ row "stub object" set.stubObject ++
      rest := by
  unfold runPaths
  dsimp only
  split
  · exact ⟨"", by simp⟩
  · exact ⟨"", by simp⟩
  · split
    · exact ⟨_, rfl⟩
    · exact ⟨"", by simp⟩

/-- `stub --print` prints the rendering of a successful scan and changes nothing. -/
theorem printStub_of_ok {syms : Symbols}
    (h : scanFiles w.disk (p.manifest.stub.headers.map p.resolver.source) = .ok syms) :
    printStub w p = { output := syms.render, world := w } := by
  simp only [printStub, h]

theorem printStub_of_error {f : Fault}
    (h : scanFiles w.disk (p.manifest.stub.headers.map p.resolver.source) = .error f) :
    printStub w p = { world := w, failure := some (.fault f) } := by
  simp only [printStub, h]

/-- Once the build directory is made, `stub` keeps the disk its stub stage leaves, and fails
exactly when that stage fails. -/
theorem runStub_of_buildStub {d : Disk} {pr : Progress} {r : Except Fault Symbols}
    (hd : w.disk.mkdirAll p.resolver.buildDir = .ok d)
    (hb : buildStub w.tools p.pipeline (p.resolver.artifacts p.pipeline.name p.pipeline.stubSource)
      { disk := d } = (pr, r)) :
    (runStub w p).world.disk = pr.disk ∧ ((runStub w p).failure.isSome ↔ ∃ f, r = .error f) := by
  simp only [runStub, hd, hb]
  cases r <;> simp

/-- **What the commands of a project share, and what the stub commands scan and write.** For a
well formed project (every loaded one, `loadProject_ok`), on a well formed disk:

* `paths` prints the build directory and the artifact set that the build's pipeline uses, and a
  successful build reports that artifact set and saves a record of it into the build directory;
* `stub` scans the headers as `stub --print` does: with the same symbols, or both failing;
* `stub` writes as its stub source the text that `stub --print` prints, and keeps the disk of
  that write whatever the tools do; it fails with the disk as it was when the write fails, and
  when `stub --print` fails;
* the stub stage of a build, whatever the tools do, scans the headers as they are with the build
  directory removed, and a successful build's stub holds the symbols of that scan;
* that scan is the scan of `stub --print` when no header lies within the build directory. -/
theorem stub_commands_agree (hwf : w.disk.WellFormed) (hp : p.WellFormed) :
    let B := p.resolver.buildDir
    let set := p.resolver.artifacts p.manifest.name p.manifest.stub.source
    let headers := p.manifest.stub.headers.map p.resolver.source
    let spared := w.disk.prune (location B)
    (∃ rest, (runPaths w p).output = row "build" B ++ row "elf" set.elf ++ row "oelf" set.oelf ++
      row "prx" set.prx ++ row "archive" set.archive ++ row "stub" set.stub ++
      row "stub source" set.stubSource ++ row "stub object" set.stubObject ++ rest) ∧
    p.pipeline.resolver.buildDir = B ∧
    p.pipeline.resolver.artifacts p.pipeline.name p.pipeline.stubSource = set ∧
    (∀ runner t₀ t₁ o b, p.pipeline.run runner w.disk t₀ t₁ = .ok o → o.result = .ok b →
      b.artifacts = set ∧ (∃ d r, r.artifacts = set ∧ o.disk = saveRecord d B r) ∧
        scanFiles spared headers = .ok b.symbols) ∧
    (∀ d, w.disk.mkdirAll B = .ok d →
      (scanFiles d headers).toOption = (scanFiles w.disk headers).toOption) ∧
    (∀ d, w.disk.mkdirAll B = .ok d →
      ((printStub w p).failure = none →
        (∀ d', d.writeFile set.stubSource (printStub w p).output = .ok d' →
          (runStub w p).world.disk = d' ∧
            d'.fileText? set.stubSource = some (printStub w p).output) ∧
        (∀ f, d.writeFile set.stubSource (printStub w p).output = .error f →
          (runStub w p).world.disk = d ∧ (runStub w p).failure.isSome)) ∧
      ((printStub w p).failure.isSome →
        (runStub w p).world.disk = d ∧ (runStub w p).failure.isSome)) ∧
    (∀ runner d₀ p₄ w₄, resetDir w.disk B = .ok d₀ →
      workOf ((p.pipeline.stageTable runner set).take 4) {} { disk := d₀ } = (p₄, .ok w₄) →
        (scanFiles p₄.disk headers).toOption = (scanFiles spared headers).toOption) ∧
    ((∀ f ∈ headers, ¬Within f B) →
      (scanFiles spared headers).toOption = (scanFiles w.disk headers).toOption) := by
  intro B set headers spared
  have hB : CleanAbs B := hp.buildDir_cleanAbs
  have hhs : ∀ f ∈ headers, CleanAbs f := by
    intro f hf
    obtain ⟨rel, -, rfl⟩ := List.mem_map.1 hf
    exact hp.source_cleanAbs rel
  have hstage : ∀ runner d₀ p₄ w₄, resetDir w.disk B = .ok d₀ →
      workOf ((p.pipeline.stageTable runner set).take 4) {} { disk := d₀ } = (p₄, .ok w₄) →
        (scanFiles p₄.disk headers).toOption = (scanFiles spared headers).toOption :=
    fun runner d₀ p₄ w₄ hreset h4 => Pipeline.stubScan_spared hwf hB hhs hreset h4
  have hmade : ∀ d, w.disk.mkdirAll B = .ok d →
      (scanFiles d headers).toOption = (scanFiles w.disk headers).toOption := by
    intro d hd
    apply scanFilesInto_toOption_congr
    intro f hf t
    exact (mkdirAll_grows hd).stat_file_iff hwf (hhs f hf) t
  refine ⟨runPaths_rows w p, rfl, rfl, ?_, hmade, ?_, hstage, ?_⟩
  · intro runner t₀ t₁ o b hrun hres'
    obtain ⟨d₀, p₅, w₅, hreset, hwalk, rfl, r, hr, hdisk⟩ := Pipeline.run_ok_result hrun hres'
    obtain ⟨p₄, w₄, h4, hstub⟩ := workOf_stageTable_ok hwalk
    exact ⟨rfl, ⟨p₅.disk, r, hr, hdisk⟩,
      eq_ok_of_toOption_eq (hstage runner d₀ p₄ w₄ hreset h4).symm (buildStub_scan hstub)⟩
  · intro d hd
    have hsame := hmade d hd
    cases hs : scanFiles w.disk headers with
    | error f =>
      obtain ⟨g, hg⟩ := exists_error_of_toOption_eq hsame hs
      obtain ⟨hdisk, hfail⟩ := runStub_of_buildStub hd (buildStub_of_scan_error w.tools _ hg)
      rw [printStub_of_error hs]
      exact ⟨fun h => by simp at h, fun _ => ⟨hdisk, hfail.2 ⟨g, rfl⟩⟩⟩
    | ok syms =>
      have hsyms : scanFiles d headers = .ok syms := eq_ok_of_toOption_eq hsame hs
      rw [printStub_of_ok hs]
      refine ⟨fun _ => ⟨fun d' hw => ⟨?_, fileText?_writeFile (hp.stubSource_cleanAbs _ _) hw⟩,
        fun f hw => ?_⟩, fun h => by simp at h⟩
      · rcases hb : buildStub w.tools p.pipeline
          (p.resolver.artifacts p.pipeline.name p.pipeline.stubSource) { disk := d } with ⟨pr, r⟩
        have hwrite : (buildStub w.tools p.pipeline
            (p.resolver.artifacts p.pipeline.name p.pipeline.stubSource) { disk := d }).1.disk = d' :=
          buildStub_disk_of_write w.tools _ hsyms hw
        rw [hb] at hwrite
        exact (runStub_of_buildStub hd hb).1.trans hwrite
      · obtain ⟨hdisk, hfail⟩ :=
          runStub_of_buildStub hd (buildStub_of_write_error w.tools _ hsyms hw)
        exact ⟨hdisk, hfail.2 ⟨_, rfl⟩⟩
  · intro hout
    exact scanFiles_prune_outside hwf hhs fun f hf =>
      mt within_iff_location.2 (hout f hf)

/-- A project whose one header, `inc/a.h`, lies inside its build directory `inc`. -/
def headerInBuildDir : Project :=
  let m : Manifest :=
    { dotBuild with buildDir := "inc", stub := { dotBuild.stub with headers := ["inc/a.h"] } }
  { root := "/proj", config := none, manifest := m, resolver := Resolver.new "/proj" m.buildDir }

/-- The disk of that project, with the header empty. -/
def headerInBuildDirDisk : Disk :=
  { items := [(["proj"], .dir), (["proj", "inc"], .dir), (["proj", "inc", "a.h"], .file "")] }

theorem headerInBuildDir_check : headerInBuildDir.manifest.check = none := by
  simp +decide [headerInBuildDir, Manifest.check, dotBuild, hasSeparator, isLocal, isAbs, clean,
    cleanList, components, pieces, checkSources]

theorem headerInBuildDir_wellFormed : headerInBuildDir.WellFormed :=
  ⟨isAbs_iff.2 (by decide), rfl, headerInBuildDir_check⟩

theorem headerInBuildDir_commands_agree :
    headerInBuildDirDisk.WellFormed ∧ headerInBuildDir.WellFormed ∧
    let w : World := ⟨headerInBuildDirDisk, {}, absentTools⟩
    let p := headerInBuildDir
    let B := p.resolver.buildDir
    let set := p.resolver.artifacts p.manifest.name p.manifest.stub.source
    let headers := p.manifest.stub.headers.map p.resolver.source
    let spared := w.disk.prune (location B)
    (∃ rest, (runPaths w p).output = row "build" B ++ row "elf" set.elf ++ row "oelf" set.oelf ++
      row "prx" set.prx ++ row "archive" set.archive ++ row "stub" set.stub ++
      row "stub source" set.stubSource ++ row "stub object" set.stubObject ++ rest) ∧
    p.pipeline.resolver.buildDir = B ∧
    p.pipeline.resolver.artifacts p.pipeline.name p.pipeline.stubSource = set ∧
    (∀ runner t₀ t₁ o b, p.pipeline.run runner w.disk t₀ t₁ = .ok o → o.result = .ok b →
      b.artifacts = set ∧ (∃ d r, r.artifacts = set ∧ o.disk = saveRecord d B r) ∧
        scanFiles spared headers = .ok b.symbols) ∧
    (∀ d, w.disk.mkdirAll B = .ok d →
      (scanFiles d headers).toOption = (scanFiles w.disk headers).toOption) ∧
    (∀ d, w.disk.mkdirAll B = .ok d →
      ((printStub w p).failure = none →
        (∀ d', d.writeFile set.stubSource (printStub w p).output = .ok d' →
          (runStub w p).world.disk = d' ∧
            d'.fileText? set.stubSource = some (printStub w p).output) ∧
        (∀ f, d.writeFile set.stubSource (printStub w p).output = .error f →
          (runStub w p).world.disk = d ∧ (runStub w p).failure.isSome)) ∧
      ((printStub w p).failure.isSome →
        (runStub w p).world.disk = d ∧ (runStub w p).failure.isSome)) ∧
    (∀ runner d₀ p₄ w₄, resetDir w.disk B = .ok d₀ →
      workOf ((p.pipeline.stageTable runner set).take 4) {} { disk := d₀ } = (p₄, .ok w₄) →
        (scanFiles p₄.disk headers).toOption = (scanFiles spared headers).toOption) ∧
    ((∀ f ∈ headers, ¬Within f B) →
      (scanFiles spared headers).toOption = (scanFiles w.disk headers).toOption) :=
  ⟨by decide, headerInBuildDir_wellFormed,
    stub_commands_agree (w := ⟨headerInBuildDirDisk, {}, absentTools⟩) (by decide)
      headerInBuildDir_wellFormed⟩

/-- **A header inside the build directory.** For the project `headerInBuildDir`, whose header
`inc/a.h` lies inside its build directory `inc`, `stub --print` succeeds; a build whose tools
all succeed gets to the stub stage; and a build that gets there, whatever its tools do, fails to
scan the header, which its reset removed.

The header is an empty file, which scans to no symbols. The reset prunes the build directory and
makes it again; the one source then compiles into it. The stub stage scans the disk with the
build directory removed, where the header is gone. -/
theorem headerInBuildDir_print_ok_stage_fails :
    let w : World := ⟨headerInBuildDirDisk, {}, absentTools⟩
    let p := headerInBuildDir
    let set := p.resolver.artifacts p.manifest.name p.manifest.stub.source
    let headers := p.manifest.stub.headers.map p.resolver.source
    (printStub w p).failure = none ∧
    (∃ d₀ p₄ w₄, resetDir w.disk p.resolver.buildDir = .ok d₀ ∧
      workOf ((p.pipeline.stageTable (fun _ _ => 0) set).take 4) {} { disk := d₀ } =
        (p₄, .ok w₄)) ∧
    ∀ runner d₀ p₄ w₄, resetDir w.disk p.resolver.buildDir = .ok d₀ →
      workOf ((p.pipeline.stageTable runner set).take 4) {} { disk := d₀ } = (p₄, .ok w₄) →
        (scanFiles p₄.disk headers).toOption = none := by
  intro w p set headers
  have hwf : headerInBuildDirDisk.WellFormed := by decide
  have hB : CleanAbs p.resolver.buildDir := headerInBuildDir_wellFormed.buildDir_cleanAbs
  have hBeq : p.resolver.buildDir = join ["/proj", "inc"] :=
    Resolver.new_buildDir_of_isLocal (Manifest.local_of_check_eq_none headerInBuildDir_check).1
  have hlocB : location p.resolver.buildDir = ["proj", "inc"] := by
    rw [hBeq]
    decide
  have hH : CleanAbs (p.resolver.source "inc/a.h") :=
    headerInBuildDir_wellFormed.source_cleanAbs _
  have hlocH : location (p.resolver.source "inc/a.h") = ["proj", "inc", "a.h"] := by
    rw [show p.resolver.source "inc/a.h" = join ["/proj", "inc/a.h"] by
      simp [Resolver.source, p, headerInBuildDir]]
    decide
  have hheaders : headers = [p.resolver.source "inc/a.h"] := rfl
  refine ⟨?_, ?_, ?_⟩
  · have hstat : ∀ f ∈ headers, headerInBuildDirDisk.stat f = .ok (.file ((fun _ => "") f)) := by
      rw [hheaders]
      intro f hf
      rw [List.mem_singleton.1 hf, hwf.stat_eq_ok_iff hH, hlocH]
      decide
    have hread : readHeaders (headers.map fun f => (f, "")) = ([], none) := by
      rw [hheaders]
      exact Prod.ext (by decide) (Option.isNone_iff_eq_none.1 (by decide))
    have hscan := scanFilesInto_eq_readHeaders headerInBuildDirDisk (fun _ => "") headers {} hstat
    rw [hread] at hscan
    simp only [printStub, scanFiles]
    rw [show p.manifest.stub.headers.map p.resolver.source = headers from rfl, hscan]
  · obtain ⟨d₀, hreset, hd₀⟩ : ∃ d₀, resetDir w.disk p.resolver.buildDir = .ok d₀ ∧
        d₀ = (((headerInBuildDirDisk.prune ["proj", "inc"]).record
          (.remove (pathOf ["proj", "inc"]))).set ["proj", "inc"] .dir).record
            (.makeDir (pathOf ["proj", "inc"])) := by
      have h := resetDir_of_reaches (d := headerInBuildDirDisk) hB (by rw [hlocB]; simp)
        (by rw [hlocB]; decide)
      rw [hlocB] at h
      exact ⟨_, h, rfl⟩
    suffices h : ∃ p₄ w₄, workOf ((p.pipeline.stageTable (fun _ _ => 0) set).take 4) {}
        { disk := d₀ } = (p₄, .ok w₄) by
      obtain ⟨p₄, w₄, h⟩ := h
      exact ⟨d₀, p₄, w₄, hreset, h⟩
    have hobj : p.resolver.objectPath "a.cpp" = .ok (p.resolver.objectFile "a.cpp") :=
      if_pos ((Manifest.local_of_check_eq_none headerInBuildDir_check).2 "a.cpp"
        (by simp [headerInBuildDir, dotBuild]))
    have hdir : Path.dir (p.resolver.objectFile "a.cpp") = p.resolver.buildDir := by
      rw [Resolver.objectFile, hBeq]
      decide
    have hstatB : d₀.stat p.resolver.buildDir = .ok .dir := by
      rw [stat_eq_ok_iff hB, hlocB, hd₀]
      decide
    have hmkObj : d₀.mkdirAll (Path.dir (p.resolver.objectFile "a.cpp")) = .ok d₀ := by
      rw [hdir]
      exact mkdirAll_of_dir hstatB
    have hcompile : compileAll (fun _ _ => 0) p.pipeline ["a.cpp"] { disk := d₀ } [] =
        ({ disk := d₀, calls := [p.pipeline.toolchain.compile (p.resolver.source "a.cpp")
          (p.resolver.objectFile "a.cpp")] }, .ok [p.resolver.objectFile "a.cpp"]) := by
      simp only [compileAll]
      rw [show p.pipeline.resolver = p.resolver from rfl, hobj]
      simp only [hmkObj]
      rfl
    have hsources : p.pipeline.sources = ["a.cpp"] := rfl
    simp only [Pipeline.stageTable, List.take_succ_cons, List.take_zero, workOf, Work.keeping,
      hcompile, Except.map, Pipeline.link, Pipeline.archive, Pipeline.checkObjects, hsources,
      List.length_singleton, if_true, Progress.run, beq_self_eq_true, Work.unless]
    exact ⟨_, _, rfl⟩
  · intro runner d₀ p₄ w₄ hreset h4
    have hhs : ∀ f ∈ headers, CleanAbs f := fun f hf => by
      rw [hheaders, List.mem_singleton] at hf
      exact hf ▸ hH
    refine (Pipeline.stubScan_spared hwf hB hhs hreset h4).trans ?_
    apply scanFilesInto_toOption_of_not_file
    intro t hfile
    change (headerInBuildDirDisk.prune (location p.resolver.buildDir)).stat
      (p.resolver.source "inc/a.h") = .ok (.file t) at hfile
    rw [(spares_prune headerInBuildDirDisk _).stat_file_iff hwf hH, hlocB, hlocH] at hfile
    exact hfile.1 (by decide)

end Commands

end Cli

end CrossBuild
