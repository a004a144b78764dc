import Mathlib.Tactic.Set
import CrossBuild.Proofs.Faults

/-!
# The stage machine of a build

Every run of a pipeline walks its machine from `clean` through the stage table and ends in
`done` or `failed`. Each step is checked by `Machine.transition`, which panics on a step that
`State.allowed` refuses; this module shows that no run ever takes such a step.

The argument is an invariant and a walk. `Machine.Consistent` says that the machine is in the
last stage of its trail and that the observer was shown each consecutive pair of the trail, in
order, every one allowed; every step that `transition` takes keeps it
(`Machine.Consistent.transition`). A stage table whose stages follow one another by allowed
steps (`Advances`), and whose work fails only with faults that blame its own stage
(`Fault.Blames`), is walked without a panic to one of two ends (`runStages_ends`): all of its
stages entered, or a prefix of them and then `failed`, with a stage fault of the last stage
entered. The table of a pipeline has both properties, so a run (`Pipeline.run_trail`):

| result | trail |
|---|---|
| success | `clean, compiling, linking, packaging, archiving, stub, done` |
| failure in stage `S` | the working stages up to `S`, then `failed`; the fault is a stage fault of `S` |
-/

namespace CrossBuild

namespace Stage

/-- The six working stages, in the order a build enters them. -/
def working : List Stage := [.clean, .compiling, .linking, .packaging, .archiving, .stub]

theorem forward_eq_working : forward = working ++ [.done] := rfl

end Stage

/-- Stages that a machine in `s` can enter one after the other: each step is allowed, and no
stage entered is terminal, so that a failure may still follow. -/
def Advances : Stage → List Stage → Prop
  | _, [] => True
  | s, t :: ts => State.allowed s.code t.code = true ∧ State.isTerminal t.code = false ∧ Advances t ts

/-- A fault that a failure in stage `s` reports as a fault of `s`: it holds no stage fault, or it
is a stage fault of `s` itself. -/
def Fault.Blames (s : Stage) (f : Fault) : Prop :=
  f.hasStage = false ∨ ∃ src inner, f = .stage s.code src inner

/-- A failing step into `failed` is allowed from every stage that is not terminal. -/
theorem State.allowed_failed {s : Stage} (h : State.isTerminal s.code = false) :
    State.allowed s.code Stage.failed.code = true := by
  simp [State.allowed, h]

/-- Consecutive pairs of a trail grown by one stage: the old pairs and one step from its end. -/
theorem zip_tail_append_singleton {α : Type} :
    ∀ (l : List α) (a x : α), l.getLast? = some a →
      (l ++ [x]).zip (l ++ [x]).tail = l.zip l.tail ++ [(a, x)]
  | [], _, _, h => by simp at h
  | [b], a, x, h => by simp_all
  | b :: c :: rest, a, x, h => by
    have ih := zip_tail_append_singleton (c :: rest) a x (by simpa using h)
    simpa using ih

namespace Machine

variable {m m' : Machine} {dst : Stage}

/-- The invariant of a pipeline's machine: it is in the last stage of its trail, and the
observer was shown every consecutive pair of the trail, in order, each an allowed step. -/
structure Consistent (m : Machine) : Prop where
  last : m.trail.getLast? = some m.state
  seen_eq : m.seen = m.trail.zip m.trail.tail
  allowed : ∀ st ∈ m.seen, State.allowed st.1.code st.2.code = true

theorem start_consistent : start.Consistent :=
  ⟨rfl, rfl, by simp [start]⟩

/-- An allowed step moves the machine, grows the trail and is shown to the observer. -/
theorem transition_of_allowed (h : State.allowed m.state.code dst.code = true) :
    m.transition dst = .ok ⟨dst, m.trail ++ [dst], m.seen ++ [(m.state, dst)]⟩ := by
  simp [transition, h]

/-- A step that is not allowed panics. -/
theorem transition_eq_ok (h : m.transition dst = .ok m') :
    State.allowed m.state.code dst.code = true ∧
      m' = ⟨dst, m.trail ++ [dst], m.seen ++ [(m.state, dst)]⟩ := by
  unfold transition at h
  split at h
  · exact ⟨‹_›, (Except.ok.inj h).symm⟩
  · cases h

/-- **Every step the machine takes keeps it consistent.** -/
theorem Consistent.transition (hm : m.Consistent) (ht : m.transition dst = .ok m') :
    m'.Consistent := by
  obtain ⟨hallowed, rfl⟩ := transition_eq_ok ht
  refine ⟨by simp, ?_, ?_⟩
  · rw [zip_tail_append_singleton m.trail m.state dst hm.last, hm.seen_eq]
  · intro st hst
    rcases List.mem_append.1 hst with hst | hst
    · exact hm.allowed st hst
    · simp only [List.mem_singleton] at hst
      subst hst
      exact hallowed

/-- A machine that is not in a terminal stage fails without a panic, and the fault it reports is
a stage fault of `here` unless it already holds one. -/
theorem fail_of_live (h : State.isTerminal m.state.code = false) (here : Stage) (f : Fault) :
    m.fail here f = .ok (⟨.failed, m.trail ++ [.failed], m.seen ++ [(m.state, .failed)]⟩,
      if f.hasStage then f else stageFault here "" f) := by
  simp only [fail, transition_of_allowed (State.allowed_failed h)]
  rfl

end Machine

/-- A fault that blames `s` is reported by a failure in `s` as a stage fault of `s`. -/
theorem Fault.Blames.reported {s : Stage} {f : Fault} (h : f.Blames s) :
    ∃ src inner, (if f.hasStage then f else stageFault s "" f) = .stage s.code src inner := by
  rcases h with h | ⟨src, inner, rfl⟩
  · exact ⟨"", some f, by simp [h, stageFault]⟩
  · exact ⟨src, inner, by simp [Fault.hasStage]⟩

/-- **A walk of a stage table ends in one of two ways.** From a consistent machine in a stage that
is not terminal, a table whose stages follow by allowed steps and whose work blames only its own
stage is walked without a panic: either every stage is entered and the work is done, or the stages
up to some `S` are entered, then `failed`, and the fault is a stage fault of `S`. A failing stage
steps the machine into `failed` and reports a fault of its own; a successful one walks the rest of
the table from the stage just entered. -/
theorem runStages_ends (table : List StageStep) :
    ∀ (m : Machine) (w : Work) (p : Progress), m.Consistent →
      State.isTerminal m.state.code = false → Advances m.state (table.map StageStep.stage) →
      (∀ s ∈ table, ∀ w p f, (s.run w p).2 = .error f → f.Blames s.stage) →
      ∃ m' p' r, runStages m table w p = .ok (m', p', r) ∧ m'.Consistent ∧
        (((∃ w', r = .ok w') ∧ m'.trail = m.trail ++ table.map StageStep.stage) ∨
          ∃ pre S src inner, pre ++ [S] <+: table.map StageStep.stage ∧
            r = .error (.stage S.code src inner) ∧ m'.trail = m.trail ++ pre ++ [S, .failed]) := by
  induction table with
  | nil =>
    intro m w p hm _ _ _
    exact ⟨m, p, .ok w, rfl, hm, .inl ⟨⟨w, rfl⟩, by simp⟩⟩
  | cons s rest ih =>
    intro m w p hm _ hadv hblame
    obtain ⟨hstep, hlive, hrest⟩ := hadv
    set m₁ : Machine := ⟨s.stage, m.trail ++ [s.stage], m.seen ++ [(m.state, s.stage)]⟩
    have ht : m.transition s.stage = .ok m₁ := Machine.transition_of_allowed hstep
    have hm₁ : m₁.Consistent := hm.transition ht
    rcases hrun : s.run w p with ⟨p', _ | w'⟩
    case error f =>
      have hf : f.Blames s.stage := hblame s (List.mem_cons_self ..) w p f (by rw [hrun])
      obtain ⟨src, inner, hrep⟩ := hf.reported
      have hfail := Machine.fail_of_live (m := m₁) hlive s.stage f
      have hm₂ := hm₁.transition (Machine.transition_of_allowed (m := m₁) (State.allowed_failed hlive))
      refine ⟨_, p', .error (.stage s.stage.code src inner), ?_, hm₂,
        .inr ⟨[], s.stage, src, inner, by simp, rfl, by simp [m₁]⟩⟩
      simp only [runStages, ht, hrun, bind, Except.bind, hfail, ← hrep]
      rfl
    case ok =>
      obtain ⟨m', p'', r, hrun', hm', hend⟩ :=
        ih m₁ w' p' hm₁ hlive hrest fun s' hs' => hblame s' (List.mem_cons_of_mem _ hs')
      refine ⟨m', p'', r, ?_, hm', ?_⟩
      · simp only [runStages, ht, hrun, bind, Except.bind]
        exact hrun'
      · rcases hend with ⟨hok, htrail⟩ | ⟨pre, S, src, inner, hpre, hr, htrail⟩
        · exact .inl ⟨hok, by simp [htrail, m₁]⟩
        · exact .inr ⟨s.stage :: pre, S, src, inner, by simpa using hpre, hr, by simp [htrail, m₁]⟩

/-! ### The faults of each stage -/

/-- Every fault of the compiling stage is a stage fault of `compiling`, for the source at hand. -/
theorem compileAll_blames (runner : Runner) (pl : Pipeline) :
    ∀ (srcs : List String) (p : Progress) (objs : List String) (f : Fault),
      (compileAll runner pl srcs p objs).2 = .error f → f.Blames .compiling
  | [], _, _, _, h => by simp [compileAll] at h
  | rel :: rest, p, objs, f, h => by
    unfold compileAll at h
    split at h
    · cases h; exact .inr ⟨rel, _, rfl⟩
    · split at h
      · cases h; exact .inr ⟨rel, _, rfl⟩
      · dsimp only at h
        split at h
        · cases h; exact .inr ⟨rel, _, rfl⟩
        · exact compileAll_blames runner pl rest _ _ f h

/-- The stub stage fails with faults that hold no stage fault. -/
theorem buildStub_hasStage {runner : Runner} {pl : Pipeline} {set : ArtifactSet} {p : Progress}
    {f : Fault} (h : (buildStub runner pl set p).2 = .error f) : f.hasStage = false := by
  unfold buildStub at h
  split at h
  · cases h
    exact (Header.scanFiles_inert ‹_›).1
  · split at h
    · rename_i hwrite
      cases h
      exact (Disk.writeFile_inert hwrite).1
    · dsimp only at h
      split at h
      · rename_i hrun
        cases h
        rw [(Progress.run_fault.1 (congrArg Prod.snd hrun)).2]
        rfl
      · split at h
        · rename_i hrun
          cases h
          rw [(Progress.run_fault.1 (congrArg Prod.snd hrun)).2]
          rfl
        · cases h

/-- A tool run after a check of the objects fails without a stage fault. -/
theorem checked_run_hasStage {pl : Pipeline} {runner : Runner} {objs : List String} {p : Progress}
    {c : Command} {f : Fault}
    (h : (match pl.checkObjects objs with
      | some f => (p, some f)
      | none => p.run runner c).2 = some f) : f.hasStage = false := by
  split at h
  · rename_i hcheck
    cases h
    unfold Pipeline.checkObjects at hcheck
    split at hcheck
    · cases hcheck
    · cases hcheck; rfl
  · rw [(Progress.run_fault.1 h).2]
    rfl

namespace Work

@[simp] theorem keeping_fst {α : Type} (r : Progress × Except Fault α) (keep : α → Work) :
    (keeping r keep).1 = r.1 := rfl

@[simp] theorem keeping_error {α : Type} {r : Progress × Except Fault α} {keep : α → Work}
    {f : Fault} : (keeping r keep).2 = .error f ↔ r.2 = .error f := by
  rcases r with ⟨p, _ | a⟩ <;> simp [keeping, Except.map]

@[simp] theorem unless_fst (w : Work) (r : Progress × Option Fault) : (w.unless r).1 = r.1 := rfl

@[simp] theorem unless_error {w : Work} {r : Progress × Option Fault} {f : Fault} :
    (w.unless r).2 = .error f ↔ r.2 = some f := by
  rcases r with ⟨p, _ | g⟩ <;> simp [Work.unless]

end Work

/-- **The work of every stage of a pipeline blames only that stage.** -/
theorem Pipeline.stageTable_blames (pl : Pipeline) (runner : Runner) (set : ArtifactSet) :
    ∀ s ∈ pl.stageTable runner set, ∀ w p f, (s.run w p).2 = .error f → f.Blames s.stage := by
  intro s hs w p f h
  simp only [stageTable, List.mem_cons, List.not_mem_nil, or_false] at hs
  rcases hs with rfl | rfl | rfl | rfl | rfl
  · exact compileAll_blames runner pl pl.sources p [] f (Work.keeping_error.1 h)
  · exact .inl (checked_run_hasStage (Work.unless_error.1 h))
  · have h := Work.unless_error.1 h
    exact .inl (by rw [(Progress.run_fault.1 h).2]; rfl)
  · exact .inl (checked_run_hasStage (Work.unless_error.1 h))
  · exact .inl (buildStub_hasStage (Work.keeping_error.1 h))

/-- The stages of the table follow `clean` one by one, none of them terminal. -/
theorem Pipeline.stageTable_advances (pl : Pipeline) (runner : Runner) (set : ArtifactSet) :
    Advances .clean ((pl.stageTable runner set).map StageStep.stage) := by
  simp only [stageTable, List.map_cons, List.map_nil, Advances]
  decide

/-! ### The ends of a run -/

section Run

variable {pl : Pipeline} {runner : Runner} {d : Disk} {t₀ t₁ : Time.Moment}

/-- A build whose reset fails runs nothing and fails in `clean`. -/
theorem Pipeline.run_of_reset_error {f : Fault} (h : resetDir d pl.resolver.buildDir = .error f) :
    pl.run runner d t₀ t₁ = .ok
      { disk := d, calls := [], machine := ⟨.failed, [.clean, .failed], [(.clean, .failed)]⟩,
        result := .error (stageFault .clean ""
          (.wrap ("failed to reset " ++ pl.resolver.buildDir) (some f))) } := by
  have hf : (Fault.wrap ("failed to reset " ++ pl.resolver.buildDir) (some f)).hasStage = false :=
    (resetDir_inert h).1
  simp only [Pipeline.run, h, Machine.fail_of_live (m := Machine.start) (by decide), hf]
  rfl

/-- A build whose stages fail ends where the walk of the stage table left it. -/
theorem Pipeline.run_of_stages_error {d₀ : Disk} {m : Machine} {p : Progress} {f : Fault}
    (hreset : resetDir d pl.resolver.buildDir = .ok d₀)
    (hwalk : runStages Machine.start
      (pl.stageTable runner (pl.resolver.artifacts pl.name pl.stubSource)) {} { disk := d₀ } =
        .ok (m, p, .error f)) :
    pl.run runner d t₀ t₁ = .ok
      { disk := p.disk, calls := p.calls, machine := m, result := .error f } := by
  simp only [Pipeline.run, hreset, hwalk]
  rfl

/-- A build whose stages all succeed steps into `done`, returns what the stages made and saves
the record of the build into the build directory. -/
theorem Pipeline.run_of_stages_ok {d₀ : Disk} {m m' : Machine} {p : Progress} {w : Work}
    (hreset : resetDir d pl.resolver.buildDir = .ok d₀)
    (hwalk : runStages Machine.start
      (pl.stageTable runner (pl.resolver.artifacts pl.name pl.stubSource)) {} { disk := d₀ } =
        .ok (m, p, .ok w))
    (hdone : m.transition .done = .ok m') :
    pl.run runner d t₀ t₁ = .ok
      { disk := saveRecord p.disk pl.resolver.buildDir
          { name := pl.name, artifacts := pl.resolver.artifacts pl.name pl.stubSource,
            objects := w.objects, symbols := w.symbols.names.toList, startTime := t₀,
            buildTime := t₁ },
        calls := p.calls, machine := m',
        result := .ok ⟨pl.resolver.artifacts pl.name pl.stubSource, w.objects, w.symbols⟩ } := by
  simp only [Pipeline.run, hreset, hwalk, bind, Except.bind, hdone]
  rfl

/-- A walk of the stage table that succeeds went through every working stage: the machine is in
`stub`, its trail is the working stages, and it may step into `done`. -/
theorem Pipeline.stages_ok_done {d₀ : Disk} {m : Machine} {p : Progress} {w : Work}
    (hwalk : runStages Machine.start
      (pl.stageTable runner (pl.resolver.artifacts pl.name pl.stubSource)) {} { disk := d₀ } =
        .ok (m, p, .ok w)) :
    m.trail = Stage.working ∧ m.Consistent ∧
      m.transition .done = .ok ⟨.done, m.trail ++ [.done], m.seen ++ [(m.state, .done)]⟩ := by
  set set := pl.resolver.artifacts pl.name pl.stubSource
  obtain ⟨m', p', r, hwalk', hm, hend⟩ := runStages_ends (pl.stageTable runner set) Machine.start
    {} { disk := d₀ } Machine.start_consistent (by decide) (pl.stageTable_advances runner set)
    (pl.stageTable_blames runner set)
  rw [hwalk] at hwalk'
  obtain ⟨rfl, rfl, rfl⟩ : m = m' ∧ p = p' ∧ Except.ok w = r := by simpa using hwalk'
  have htrail : m.trail = Stage.working := by
    rcases hend with ⟨-, htrail⟩ | ⟨_, _, _, _, _, hr, _⟩
    · simpa [Machine.start, stageTable, Stage.working] using htrail
    · cases hr
  have hstate : m.state = .stub := by simpa [htrail, Stage.working] using hm.last.symm
  exact ⟨htrail, hm, Machine.transition_of_allowed (m := m)
    (show State.allowed m.state.code Stage.done.code = true by rw [hstate]; decide)⟩

end Run

/-- The trail of a failed run does not end in `done`, so it is never the trail of a success. -/
theorem failed_trail_ne_forward (pre : List Stage) (S : Stage) :
    pre ++ [S, .failed] ≠ Stage.forward := by
  intro h
  have := congrArg List.getLast? h
  simp [Stage.forward] at this

/-- **Every run of a pipeline takes only allowed steps and ends as its trail says.** Whatever
the sources, headers, tool statuses and disk (a disk left by an earlier run included), the run
never panics; the observer is shown every consecutive pair of the trail, in order, each an
allowed step, and the machine is in the last stage of the trail. The run succeeds exactly when
its trail is `clean, compiling, linking, packaging, archiving, stub, done`; a failed run entered
the working stages up to some `S` and then `failed`, and its fault is a stage fault of `S`
(`clean` when the reset fails). -/
theorem Pipeline.run_trail (pl : Pipeline) (runner : Runner) (d : Disk) (t₀ t₁ : Time.Moment) :
    ∃ o, pl.run runner d t₀ t₁ = .ok o ∧
      (∀ st ∈ o.machine.seen, State.allowed st.1.code st.2.code = true) ∧
      o.machine.seen = o.trail.zip o.trail.tail ∧ o.trail.getLast? = some o.machine.state ∧
      ((∃ b, o.result = .ok b) ↔ o.trail = Stage.forward) ∧
      (∀ f, o.result = .error f → ∃ pre S src inner, pre ++ [S] <+: Stage.working ∧
        o.trail = pre ++ [S, .failed] ∧ f = .stage S.code src inner) ∧
      (o.trail = [.clean, .failed] ↔ ∃ f, resetDir d pl.resolver.buildDir = .error f) := by
  suffices h : ∃ o, pl.run runner d t₀ t₁ = .ok o ∧ o.machine.Consistent ∧
      ((∃ b, o.result = .ok b) ↔ o.trail = Stage.forward) ∧
      (∀ f, o.result = .error f → ∃ pre S src inner, pre ++ [S] <+: Stage.working ∧
        o.trail = pre ++ [S, .failed] ∧ f = .stage S.code src inner) ∧
      (o.trail = [.clean, .failed] ↔ ∃ f, resetDir d pl.resolver.buildDir = .error f) by
    obtain ⟨o, hrun, hc, hends⟩ := h
    exact ⟨o, hrun, hc.allowed, hc.seen_eq, hc.last, hends⟩
  set set := pl.resolver.artifacts pl.name pl.stubSource
  rcases hreset : resetDir d pl.resolver.buildDir with f | d₀
  case error =>
    refine ⟨_, Pipeline.run_of_reset_error hreset, ?_, ?_, ?_, ?_⟩
    · exact Machine.start_consistent.transition
        (Machine.transition_of_allowed (m := Machine.start) (State.allowed_failed (s := .clean) rfl))
    · exact iff_of_false (by simp) (failed_trail_ne_forward [] .clean)
    · intro f' hf'
      cases hf'
      exact ⟨[], .clean, "", _, by simp [Stage.working], rfl, rfl⟩
    · exact iff_of_true rfl ⟨f, rfl⟩
  case ok =>
    obtain ⟨m, p, r, hwalk, hm, hend⟩ := runStages_ends (pl.stageTable runner set) Machine.start {}
      { disk := d₀ } Machine.start_consistent (by decide) (pl.stageTable_advances runner set)
      (pl.stageTable_blames runner set)
    rcases hend with ⟨⟨w, rfl⟩, -⟩ | ⟨pre, S, src, inner, hpre, rfl, htrail⟩
    · obtain ⟨htrail, -, hdone⟩ := Pipeline.stages_ok_done hwalk
      refine ⟨_, Pipeline.run_of_stages_ok hreset hwalk hdone, hm.transition hdone, ?_, ?_, ?_⟩
      · simp [Outcome.trail, htrail, Stage.forward_eq_working]
      · simp
      · simp [Outcome.trail, htrail, Stage.working]
    · refine ⟨_, Pipeline.run_of_stages_error hreset hwalk, hm, ?_, ?_, ?_⟩
      · have hne := failed_trail_ne_forward (.clean :: pre) S
        exact iff_of_false (by simp) (by simpa [Outcome.trail, htrail, Machine.start] using hne)
      · intro f hf
        cases hf
        refine ⟨.clean :: pre, S, src, inner, ?_, by simp [Outcome.trail, htrail, Machine.start], rfl⟩
        simpa [Stage.working, stageTable] using hpre
      · refine iff_of_false (fun h => ?_) (by simp)
        have := congrArg List.length h
        simp [Outcome.trail, htrail, Machine.start] at this

end CrossBuild
