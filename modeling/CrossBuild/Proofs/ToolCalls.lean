import CrossBuild.Proofs.StageTrail

/-!
# The commands a build runs

A build has a fixed *plan* of tool commands (`Pipeline.plan`): one compile per source, in order,
then the link, the package, the archive and the two commands of the stub. A run asks its
runner for a prefix of the plan: it stops after the first command whose status is not 0, or
right before a command that a fault of another kind prevents, which can only be the compile
of a source (a source outside the project, an object directory that cannot be made) or the
stub compile (a header that cannot be scanned, a stub source that cannot be written); a failed
reset prevents everything. The run succeeds exactly when the whole plan ran and every command
succeeded, and then its objects are those of the plan
(`Pipeline.run_calls_prefix_of_plan`).

The proof is compositional. `Follows` says what a piece of a run does with its part of the
plan: which commands it runs, where it may stop, what it leaves behind on success and which
status its fault carries. Each stage of the table follows its part of the plan, and pieces
that follow their parts run one after the other follow the concatenation (`Follows.cons`),
which gives the whole walk of the stage table (`workOf`, the walk without the machine).
-/

namespace CrossBuild

/-! ### Running planned commands -/

section Replay

variable (runner : Runner)

/-- The commands a runner is asked for when `cs` run in order after `before`, up to and
including the first that fails. -/
def replay (before : List Command) : List Command → List Command
  | [] => []
  | c :: cs => if runner before c = 0 then c :: replay (before ++ [c]) cs else [c]

/-- Whether every command of `cs`, run in order after `before`, succeeds. -/
def allSucceed (before : List Command) : List Command → Bool
  | [] => true
  | c :: cs => runner before c == 0 && allSucceed (before ++ [c]) cs

/-- The status of the first command of `cs` that fails, run in order after `before`, or 1 when
none fails. -/
def failStatus (before : List Command) : List Command → Status
  | [] => 1
  | c :: cs => if runner before c = 0 then failStatus (before ++ [c]) cs else runner before c

/-- A runner is asked for at most the commands planned. -/
theorem replay_length_le (before cs : List Command) : (replay runner before cs).length ≤ cs.length := by
  induction cs generalizing before with
  | nil => simp [replay]
  | cons c cs ih =>
    unfold replay
    split
    · simpa using ih (before ++ [c])
    · simp

variable {runner}

theorem replay_append (before xs ys : List Command) :
    replay runner before (xs ++ ys) =
      if allSucceed runner before xs then xs ++ replay runner (before ++ xs) ys
      else replay runner before xs := by
  induction xs generalizing before with
  | nil => simp [allSucceed]
  | cons c cs ih =>
    by_cases hc : runner before c = 0
    · by_cases hrest : allSucceed runner (before ++ [c]) cs
      · simp [replay, allSucceed, hc, ih, hrest]
      · simp [replay, allSucceed, hc, ih, hrest]
    · simp [replay, allSucceed, hc]

theorem allSucceed_append (before xs ys : List Command) :
    allSucceed runner before (xs ++ ys) =
      (allSucceed runner before xs && allSucceed runner (before ++ xs) ys) := by
  induction xs generalizing before with
  | nil => simp [allSucceed]
  | cons c cs ih => simp [allSucceed, ih, Bool.and_assoc]

theorem failStatus_append (before xs ys : List Command) :
    failStatus runner before (xs ++ ys) =
      if allSucceed runner before xs then failStatus runner (before ++ xs) ys
      else failStatus runner before xs := by
  induction xs generalizing before with
  | nil => simp [allSucceed]
  | cons c cs ih =>
    by_cases hc : runner before c = 0
    · by_cases hrest : allSucceed runner (before ++ [c]) cs
      · simp [failStatus, allSucceed, hc, ih, hrest]
      · simp [failStatus, allSucceed, hc, ih, hrest]
    · simp [failStatus, allSucceed, hc]

/-- Commands that all succeed are all run. -/
theorem replay_of_allSucceed {before cs : List Command} (h : allSucceed runner before cs) :
    replay runner before cs = cs := by
  induction cs generalizing before with
  | nil => rfl
  | cons c cs ih =>
    simp only [allSucceed, Bool.and_eq_true, beq_iff_eq] at h
    simp [replay, h.1, ih h.2]

/-- Every prefix of commands that all succeed succeeds too. -/
theorem allSucceed_take {before cs : List Command} (h : allSucceed runner before cs) (k : Nat) :
    allSucceed runner before (cs.take k) := by
  rw [← List.take_append_drop k cs, allSucceed_append] at h
  simp only [Bool.and_eq_true] at h
  exact h.1

end Replay

/-! ### Pieces of a run that follow a plan -/

/-- A piece of a run, which turned the progress `p` into `r`, follows the planned commands `cs`:
for some `k` where `stops` lets it stop (or `k` the whole plan), it asked the runner for the
commands of `cs.take k` in order, up to and including the first that failed; it ran no command
at a position where `must` says it cannot get to; it succeeded, with a value satisfying `post`,
exactly when all of `cs` ran and succeeded; and its fault carries the status of the failing
command, or 1 when no command failed. -/
def Follows {α : Type} (runner : Runner) (cs : List Command) (stops must : Nat → Prop)
    (post : α → Prop) (p : Progress) (r : Progress × Except Fault α) : Prop :=
  ∃ k ≤ cs.length, (stops k ∨ k = cs.length) ∧
    (∀ i < cs.length, must i → (replay runner p.calls (cs.take k)).length ≤ i) ∧
    r.1.calls = p.calls ++ replay runner p.calls (cs.take k) ∧
    match r.2 with
    | .ok a => k = cs.length ∧ allSucceed runner p.calls cs = true ∧ post a
    | .error f => (k = cs.length → allSucceed runner p.calls cs = false) ∧
        statusOf (some f) = failStatus runner p.calls (cs.take k)

/-- The work of a stage table without the machine: the work of each stage in order, up to the
first fault, which is reported as a failure of that stage reports it. -/
def workOf : List StageStep → Work → Progress → Progress × Except Fault Work
  | [], w, p => (p, .ok w)
  | s :: rest, w, p =>
    match s.run w p with
    | (p', .ok w') => workOf rest w' p'
    | (p', .error f) => (p', .error (if f.hasStage then f else stageFault s.stage "" f))

/-- Reporting a fault as a fault of a stage keeps its status. -/
theorem statusOf_reported (s : Stage) (f : Fault) :
    statusOf (some (if f.hasStage then f else stageFault s "" f)) = statusOf (some f) := by
  split <;> rfl

/-- **The machine only watches the work.** A stage table whose stages follow one another by
allowed steps is walked without a panic, and the walk ends with the progress and the result of
the work alone. -/
theorem runStages_eq_workOf (table : List StageStep) :
    ∀ (m : Machine) (w : Work) (p : Progress), State.isTerminal m.state.code = false →
      Advances m.state (table.map StageStep.stage) →
      ∃ m', runStages m table w p = .ok (m', workOf table w p) := by
  induction table with
  | nil => exact fun m w p _ _ => ⟨m, rfl⟩
  | cons s rest ih =>
    intro m w p _ hadv
    obtain ⟨hstep, hlive, hrest⟩ := hadv
    have ht := Machine.transition_of_allowed hstep
    rcases hrun : s.run w p with ⟨p', f | w'⟩
    · simp only [runStages, ht, hrun, bind, Except.bind,
        Machine.fail_of_live (m := ⟨s.stage, _, _⟩) hlive, workOf]
      exact ⟨_, rfl⟩
    · obtain ⟨m', hm'⟩ := ih ⟨s.stage, m.trail ++ [s.stage], m.seen ++ [(m.state, s.stage)]⟩ w' p'
        hlive hrest
      exact ⟨m', by simp only [runStages, ht, hrun, bind, Except.bind, workOf, hm']⟩

section Compose

variable {runner : Runner}

/-- An empty table follows the empty plan. -/
theorem Follows.done {w : Work} {p : Progress} {post : Work → Prop} (h : post w)
    (stops must : Nat → Prop) : Follows runner [] stops must post p (workOf [] w p) := by
  refine ⟨0, Nat.le_refl _, .inr rfl, fun i hi => absurd hi (Nat.not_lt_zero i), by simp [workOf, replay], ?_⟩
  exact ⟨rfl, rfl, h⟩

/-- A piece that succeeded ran its whole plan, every command of it succeeding. -/
theorem Follows.of_ok {α : Type} {cs : List Command} {S M : Nat → Prop} {Q : α → Prop}
    {p p' : Progress} {a : α} (h : Follows runner cs S M Q p (p', .ok a)) :
    Q a ∧ p'.calls = p.calls ++ cs := by
  obtain ⟨k, -, -, -, hc, hk, hall, hq⟩ := h
  subst hk
  exact ⟨hq, by rw [hc, List.take_length, replay_of_allSucceed hall]⟩

/-- A piece that failed fails the same way when more commands are planned after it: the run got no
further, and the fault keeps its status. Either the first piece stopped before one of its commands,
and so did the whole, or a command of it failed, and the whole plan is as far as the run got. -/
theorem Follows.append_of_error {α β : Type} {cs₁ cs₂ : List Command}
    {S₁ S₂ M₁ M₂ : Nat → Prop} {Q₁ : α → Prop} {Q₂ : β → Prop} {p p' : Progress} {f g : Fault}
    (h : Follows runner cs₁ S₁ M₁ Q₁ p (p', .error f))
    (hg : statusOf (some g) = statusOf (some f)) :
    Follows runner (cs₁ ++ cs₂) (fun k => S₁ k ∨ ∃ j, S₂ j ∧ k = cs₁.length + j)
      (fun i => M₁ i ∧ i < cs₁.length ∨ ∃ j, M₂ j ∧ i = cs₁.length + j) Q₂ p (p', .error g) := by
  obtain ⟨k₁, hk₁, hs₁, hm₁, hc₁, hfull, hstatus⟩ := h
  by_cases hstop : S₁ k₁
  · have htake : (cs₁ ++ cs₂).take k₁ = cs₁.take k₁ := List.take_append_of_le_length hk₁
    refine ⟨k₁, by simp; omega, .inl (.inl hstop), ?_, by rw [htake]; exact hc₁, ?_, ?_⟩
    · intro i hi hmi
      rw [htake]
      have hlen := Nat.le_trans (replay_length_le runner p.calls (cs₁.take k₁))
        (List.length_take_le k₁ cs₁)
      rcases hmi with ⟨hmi, hi₁⟩ | ⟨j, -, rfl⟩
      · exact hm₁ i hi₁ hmi
      · omega
    · intro hk
      have hk₁' : k₁ = cs₁.length := by simp at hk; omega
      rw [allSucceed_append, hfull hk₁', Bool.false_and]
    · rw [hg, htake]; exact hstatus
  · have hk : k₁ = cs₁.length := hs₁.resolve_left hstop
    have hfail := hfull hk
    subst hk
    have hreplay : replay runner p.calls (cs₁ ++ cs₂) = replay runner p.calls cs₁ := by
      rw [replay_append, hfail]; rfl
    refine ⟨(cs₁ ++ cs₂).length, Nat.le_refl _, .inr rfl, ?_, ?_, ?_, ?_⟩
    · intro i hi hmi
      rw [List.take_length, hreplay]
      rcases hmi with ⟨hmi, hi₁⟩ | ⟨j, -, rfl⟩
      · simpa using hm₁ i hi₁ hmi
      · have := replay_length_le runner p.calls cs₁
        omega
    · rw [List.take_length, hreplay]; simpa using hc₁
    · intro _
      rw [allSucceed_append, hfail, Bool.false_and]
    · rw [hg, List.take_length, failStatus_append, hfail]
      simpa using hstatus

/-- A piece that succeeded, followed by a piece run from where it left the commands, follows the
concatenation of their plans; a stop of the second is shifted past the first's plan. The first piece
ran all of its plan, so none of its positions was out of reach. -/
theorem Follows.append_of_ok {α β : Type} {cs₁ cs₂ : List Command} {S₁ S₂ M₁ M₂ : Nat → Prop}
    {Q₁ : α → Prop} {Q₂ : β → Prop} {p p' : Progress} {a : α} {r : Progress × Except Fault β}
    (h₁ : Follows runner cs₁ S₁ M₁ Q₁ p (p', .ok a)) (h₂ : Follows runner cs₂ S₂ M₂ Q₂ p' r) :
    Follows runner (cs₁ ++ cs₂) (fun k => S₁ k ∨ ∃ j, S₂ j ∧ k = cs₁.length + j)
      (fun i => M₁ i ∧ i < cs₁.length ∨ ∃ j, M₂ j ∧ i = cs₁.length + j) Q₂ p r := by
  have hcalls := h₁.of_ok.2
  obtain ⟨k₁, -, -, hm₁, -, hk, hall, -⟩ := h₁
  subst hk
  obtain ⟨k₂, hk₂, hs₂, hm₂, hc₂, hr₂⟩ := h₂
  have htake : (cs₁ ++ cs₂).take (cs₁.length + k₂) = cs₁ ++ cs₂.take k₂ := by
    rw [List.take_append, List.take_of_length_le (by omega), Nat.add_sub_cancel_left]
  have hreplay : replay runner p.calls (cs₁ ++ cs₂.take k₂) =
      cs₁ ++ replay runner (p.calls ++ cs₁) (cs₂.take k₂) := by
    rw [replay_append, hall]; rfl
  refine ⟨cs₁.length + k₂, by simp; omega, ?_, ?_, ?_, ?_⟩
  · rcases hs₂ with h | h
    · exact .inl (.inr ⟨k₂, h, rfl⟩)
    · exact .inr (by simp [h])
  · intro i hi hmi
    rw [htake, hreplay, List.length_append]
    rcases hmi with ⟨hmi, hi₁⟩ | ⟨j, hmj, rfl⟩
    · have := hm₁ i hi₁ hmi
      rw [List.take_length, replay_of_allSucceed hall] at this
      omega
    · have := hm₂ j (by simp at hi; omega) hmj
      rw [hcalls] at this
      omega
  · rw [htake, hreplay, hc₂, hcalls, List.append_assoc]
  · revert hr₂
    rcases r.2 with f | b
    · rintro ⟨hfull₂, hstatus₂⟩
      refine ⟨fun hk => ?_, ?_⟩
      · rw [allSucceed_append, hall, Bool.true_and, ← hcalls]
        exact hfull₂ (by simp at hk; omega)
      · rw [htake, failStatus_append, if_pos hall, ← hcalls]
        exact hstatus₂
    · rintro ⟨hk, hall₂, hq₂⟩
      refine ⟨by simp [hk], ?_, hq₂⟩
      rw [allSucceed_append, hall, Bool.true_and, ← hcalls]
      exact hall₂

/-- **Pieces run one after the other follow the concatenation of their plans.** The second piece
runs only after the first succeeded, from where it left the commands; a stop of either piece is a
stop of the whole, the second's shifted past the first's plan. The first piece ran all of its plan,
and the second runs from there. -/
theorem Follows.cons {s : StageStep} {rest : List StageStep} {w : Work} {p : Progress}
    {cs₁ cs₂ : List Command} {S₁ S₂ M₁ M₂ : Nat → Prop} {Q₁ Q₂ : Work → Prop}
    (h₁ : Follows runner cs₁ S₁ M₁ Q₁ p (s.run w p))
    (h₂ : ∀ w' p', Q₁ w' → p'.calls = p.calls ++ cs₁ →
      Follows runner cs₂ S₂ M₂ Q₂ p' (workOf rest w' p')) :
    Follows runner (cs₁ ++ cs₂) (fun k => S₁ k ∨ ∃ j, S₂ j ∧ k = cs₁.length + j)
      (fun i => M₁ i ∧ i < cs₁.length ∨ ∃ j, M₂ j ∧ i = cs₁.length + j) Q₂ p
      (workOf (s :: rest) w p) := by
  rcases hrun : s.run w p with ⟨p', f | w'⟩
  case error =>
    rw [hrun] at h₁
    simp only [workOf, hrun]
    exact h₁.append_of_error (statusOf_reported s.stage f)
  case ok =>
    rw [hrun] at h₁
    obtain ⟨hq, hcalls⟩ := h₁.of_ok
    simp only [workOf, hrun]
    exact h₁.append_of_ok (h₂ w' p' hq hcalls)

/-- A piece that keeps its value in the work follows the same plan. -/
theorem Follows.keeping {α : Type} {cs : List Command} {S M : Nat → Prop} {Q : α → Prop}
    {p : Progress} {r : Progress × Except Fault α} {keep : α → Work} (h : Follows runner cs S M Q p r) :
    Follows runner cs S M (fun w => ∃ a, Q a ∧ w = keep a) p (Work.keeping r keep) := by
  obtain ⟨k, hk, hs, hm, hc, hr⟩ := h
  refine ⟨k, hk, hs, hm, hc, ?_⟩
  rcases r with ⟨p', f | a⟩
  · exact hr
  · exact ⟨hr.1, hr.2.1, a, hr.2.2, rfl⟩

/-- **One tool command follows its own plan**, leaving the work as it was. -/
theorem Follows.tool (w : Work) (p : Progress) (c : Command) (S : Nat → Prop) :
    Follows runner [c] S (fun _ => False) (· = w) p (w.unless (p.run runner c)) := by
  have hreplay : replay runner p.calls [c] = [c] := by
    unfold replay
    split <;> rfl
  refine ⟨1, Nat.le_refl _, .inr rfl, fun _ _ h => h.elim, by simp [hreplay], ?_⟩
  by_cases hc : runner p.calls c = 0
  · simp [Work.unless, Progress.run, hc, allSucceed]
  · simp [Work.unless, Progress.run, hc, allSucceed, failStatus, statusOf, Fault.status?]

/-- A piece stopped by an inert fault before any of its commands follows its plan, if it may
stop at its start. -/
theorem Follows.stopped {α : Type} {cs : List Command} {S M : Nat → Prop} {Q : α → Prop}
    {p : Progress} {f : Fault} (hS : S 0) (hcs : cs ≠ []) (hf : statusOf (some f) = 1) :
    Follows runner cs S M Q p (p, .error f) := by
  refine ⟨0, Nat.zero_le _, .inl hS, fun i _ _ => by simp [replay], by simp [replay], ?_⟩
  refine ⟨fun h => absurd h.symm (by simpa using hcs), ?_⟩
  simpa [failStatus] using hf

/-- **The stub stage follows its two commands**, and may stop before the first: when the headers
cannot be scanned or the stub source cannot be written. Both commands run, unless the first
fails. -/
theorem buildStub_follows (pl : Pipeline) (set : ArtifactSet) (p : Progress) :
    Follows runner [pl.toolchain.compileStub set.stubSource set.stubObject,
      pl.toolchain.linkStub set.stubObject set.stub] (· = 0) (fun _ => False) (fun _ => True) p
      (buildStub runner pl set p) := by
  unfold buildStub
  split
  · exact Follows.stopped rfl (by simp) (Header.scanFiles_inert ‹_›).statusOf
  · split
    · exact Follows.stopped rfl (by simp)
        (Fault.Inert.statusOf (by simpa using Disk.writeFile_inert ‹_›))
    · refine ⟨2, Nat.le_refl _, .inr rfl, fun _ _ h => h.elim, ?_⟩
      by_cases h₁ : runner p.calls (pl.toolchain.compileStub set.stubSource set.stubObject) = 0
      · by_cases h₂ : runner (p.calls ++ [pl.toolchain.compileStub set.stubSource set.stubObject])
            (pl.toolchain.linkStub set.stubObject set.stub) = 0
        · simp [Progress.run, h₁, h₂, replay, allSucceed]
        · simp [Progress.run, h₁, h₂, replay, allSucceed, failStatus, statusOf, Fault.status?]
      · simp [Progress.run, h₁, replay, allSucceed, failStatus, statusOf, Fault.status?]

/-- A piece may promise less: stop in more places, reach more places, leave a weaker result. -/
theorem Follows.mono {α : Type} {cs : List Command} {S S' M M' : Nat → Prop} {Q Q' : α → Prop}
    {p : Progress} {r : Progress × Except Fault α} (h : Follows runner cs S M Q p r)
    (hS : ∀ k, S k → S' k) (hM : ∀ i < cs.length, M' i → M i) (hQ : ∀ a, Q a → Q' a) :
    Follows runner cs S' M' Q' p r := by
  obtain ⟨k, hk, hs, hm, hc, hr⟩ := h
  refine ⟨k, hk, hs.imp_left (hS k), fun i hi hmi => hm i hi (hM i hi hmi), hc, ?_⟩
  rcases r with ⟨p', f | a⟩
  · exact hr
  · exact ⟨hr.1, hr.2.1, hQ a hr.2.2⟩

/-- A command that fails stops a piece that follows `c :: cs` right after it, with its status,
as long as the piece could get to it. -/
theorem Follows.of_fail {α : Type} {c : Command} {cs : List Command} {S M : Nat → Prop}
    {Q : α → Prop} {p p' : Progress} {f : Fault} (hc : runner p.calls c ≠ 0)
    (hp' : p'.calls = p.calls ++ [c]) (hM : ¬M 0) (hf : statusOf (some f) = runner p.calls c) :
    Follows runner (c :: cs) S M Q p (p', .error f) := by
  have hreplay : replay runner p.calls (c :: cs) = [c] := by simp [replay, hc]
  refine ⟨(c :: cs).length, Nat.le_refl _, .inr rfl, ?_, ?_, ?_, ?_⟩
  · rintro (_ | i) _ hmi
    · exact absurd hmi hM
    · rw [List.take_length, hreplay]
      simp
  · rw [List.take_length, hreplay, hp']
  · intro _
    simp [allSucceed, hc]
  · rw [List.take_length, failStatus, if_neg hc, hf]

/-- A command that succeeds, followed by a piece that follows `cs`, follows `c :: cs`. -/
theorem Follows.after_ok {α : Type} {c : Command} {cs : List Command} {S M : Nat → Prop}
    {Q : α → Prop} {p p' : Progress} {r : Progress × Except Fault α}
    (hc : runner p.calls c = 0) (hp' : p'.calls = p.calls ++ [c])
    (h : Follows runner cs S M Q p' r) :
    Follows runner (c :: cs) (fun k => ∃ j, S j ∧ k = j + 1) (fun i => ∃ j, M j ∧ i = j + 1) Q p r := by
  obtain ⟨k, hk, hs, hm, hcalls, hr⟩ := h
  have hreplay : replay runner p.calls ((c :: cs).take (k + 1)) =
      c :: replay runner p'.calls (cs.take k) := by
    simp [replay, hc, hp']
  have hall : allSucceed runner p.calls (c :: cs) = allSucceed runner p'.calls cs := by
    simp [allSucceed, hc, hp']
  refine ⟨k + 1, by simp; omega, ?_, ?_, ?_, ?_⟩
  · rcases hs with hs | hs
    · exact .inl ⟨k, hs, rfl⟩
    · exact .inr (by simp [hs])
  · rintro i hi ⟨j, hmj, rfl⟩
    rw [hreplay, List.length_cons]
    have := hm j (by simp at hi; omega) hmj
    omega
  · rw [hreplay, hcalls, hp']
    simp
  · rcases r with ⟨p'', f | a⟩
    · refine ⟨fun hk' => ?_, ?_⟩
      · rw [hall]; exact hr.1 (by simp at hk'; omega)
      · rw [hr.2]
        simp [failStatus, hc, hp']
    · exact ⟨by simp [hr.1], by rw [hall]; exact hr.2.1, hr.2.2⟩

end Compose

/-! ### The stages of a pipeline -/

/-- The compile command of a source: the source under the root, compiled into its object file. -/
def Pipeline.compileCommand (pl : Pipeline) (rel : String) : Command :=
  pl.toolchain.compile (pl.resolver.source rel) (pl.resolver.objectFile rel)

/-- The object files of the sources, in order. -/
def Pipeline.objectFiles (pl : Pipeline) : List String :=
  pl.sources.map pl.resolver.objectFile

/-- The commands a build plans to run, in order: one compile per source, then the link, the
package and the archive of the objects, and the compile and the link of the stub. -/
def Pipeline.plan (pl : Pipeline) : List Command :=
  let set := pl.resolver.artifacts pl.name pl.stubSource
  let tc := pl.toolchain
  pl.sources.map pl.compileCommand ++
    [tc.link pl.objectFiles set.elf, tc.package set.elf set.oelf set.prx,
      tc.archive pl.objectFiles set.archive, tc.compileStub set.stubSource set.stubObject,
      tc.linkStub set.stubObject set.stub]

theorem Pipeline.checkObjects_objectFiles (pl : Pipeline) : pl.checkObjects pl.objectFiles = none := by
  simp [checkObjects, objectFiles]

section Stages

variable {runner : Runner}

/-- **Compiling follows one compile per source, in order.** It may stop before any of them, and it
never gets to the compile of a source outside the project; on success the objects are the object
files of the sources, after those made before. A source outside the project stops the stage before
its compile, and a compiler that fails stops it with its status; otherwise the rest of the sources
follow. -/
theorem compileAll_follows (pl : Pipeline) :
    ∀ (srcs : List String) (p : Progress) (objs : List String),
      Follows runner (srcs.map pl.compileCommand) (· < srcs.length)
        (fun i => ∃ rel, srcs[i]? = some rel ∧ Path.isLocal rel = false)
        (· = objs.reverse ++ srcs.map pl.resolver.objectFile) p (compileAll runner pl srcs p objs)
  | [], p, objs => by
    refine ⟨0, Nat.le_refl _, .inr rfl, fun i hi => absurd hi (by simp), by simp [compileAll, replay], ?_⟩
    simp [compileAll, allSucceed]
  | rel :: rest, p, objs => by
    unfold compileAll
    by_cases hl : Path.isLocal rel
    case neg =>
      simp only [Resolver.objectPath, hl]
      exact Follows.stopped (by simp) (by simp) rfl
    case pos =>
      simp only [Resolver.objectPath, hl, if_true]
      rcases hd : p.disk.mkdirAll (Path.dir (pl.resolver.objectFile rel)) with f | d
      case error =>
        exact Follows.stopped (by simp) (by simp) (Disk.mkdirAll_inert hd).statusOf
      case ok =>
        dsimp only
        by_cases hc : runner p.calls (pl.compileCommand rel) = 0
        case pos =>
          have ih := compileAll_follows pl rest { disk := d, calls := p.calls ++ [pl.compileCommand rel] }
            (pl.resolver.objectFile rel :: objs)
          have hrun : Progress.run runner { p with disk := d } (pl.compileCommand rel) =
              ({ disk := d, calls := p.calls ++ [pl.compileCommand rel] }, none) := by
            simp [Progress.run, hc]
          simp only [Pipeline.compileCommand] at hrun
          rw [hrun]
          refine (Follows.after_ok hc rfl ih).mono ?_ ?_ ?_
          · rintro k ⟨j, hj, rfl⟩
            simp only [List.length_cons]
            omega
          · rintro (_ | i) hi ⟨r, hr, hrl⟩
            · simp only [List.getElem?_cons_zero, Option.some.injEq] at hr
              subst hr
              simp [hl] at hrl
            · exact ⟨i, ⟨r, by simpa using hr, hrl⟩, rfl⟩
          · intro a ha
            simp [ha]
        case neg =>
          have hrun : Progress.run runner { p with disk := d } (pl.compileCommand rel) =
              ({ disk := d, calls := p.calls ++ [pl.compileCommand rel] },
                some (.exit (pl.compileCommand rel).bin (runner p.calls (pl.compileCommand rel)))) := by
            simp [Progress.run, hc]
          simp only [Pipeline.compileCommand] at hrun
          rw [hrun]
          refine Follows.of_fail hc rfl ?_ ?_
          · rintro ⟨r, hr, hrl⟩
            simp only [List.getElem?_cons_zero, Option.some.injEq] at hr
            subst hr
            simp [hl] at hrl
          · simp [statusOf, Fault.status?, stageFault, Pipeline.compileCommand]

/-- **The work of a pipeline's stage table follows the plan.** It may stop before the compile of a
source or before the stub compile, never gets to the compile of a source outside the project, and
leaves the object files of the sources on success. The plan is cut where the stages of the table
take over from one another, and every stage after the compiles keeps the object files. -/
theorem Pipeline.work_follows (pl : Pipeline) (runner : Runner) (p : Progress) :
    Follows runner pl.plan (fun k => k < pl.sources.length ∨ k = pl.sources.length + 3)
      (fun i => ∃ rel, pl.sources[i]? = some rel ∧ Path.isLocal rel = false)
      (fun w => w.objects = pl.objectFiles)
      p (workOf (pl.stageTable runner (pl.resolver.artifacts pl.name pl.stubSource)) {} p) := by
  set set := pl.resolver.artifacts pl.name pl.stubSource
  set tc := pl.toolchain
  have hplan : pl.plan = pl.sources.map pl.compileCommand ++ ([tc.link pl.objectFiles set.elf] ++
      ([tc.package set.elf set.oelf set.prx] ++ ([tc.archive pl.objectFiles set.archive] ++
        ([tc.compileStub set.stubSource set.stubObject, tc.linkStub set.stubObject set.stub] ++
          [])))) := by
    simp [Pipeline.plan, set, tc]
  let Objs : Work → Prop := fun w => w.objects = pl.objectFiles
  have hcompile : ∀ (w : Work),
      Follows runner (pl.sources.map pl.compileCommand) (· < pl.sources.length)
        (fun i => ∃ rel, pl.sources[i]? = some rel ∧ Path.isLocal rel = false) Objs p
        (Work.keeping (compileAll runner pl pl.sources p []) fun objs => { w with objects := objs }) :=
    fun w => (compileAll_follows pl pl.sources p []).keeping.mono (fun _ h => h) (fun _ _ h => h)
      (by rintro _ ⟨a, rfl, rfl⟩; simp [Objs, Pipeline.objectFiles])
  have htool : ∀ (w : Work) (c : Command), Objs w → ∀ p,
      Follows runner [c] (fun _ => False) (fun _ => False) Objs p (w.unless (p.run runner c)) :=
    fun w c hw p => (Follows.tool w p c _).mono (fun _ h => h) (fun _ _ h => h) (fun _ h => h ▸ hw)
  have hlink : ∀ (w : Work), Objs w → ∀ p,
      Follows runner [tc.link pl.objectFiles set.elf] (fun _ => False) (fun _ => False) Objs p
        (w.unless (pl.link runner w.objects set p)) := by
    intro w hw p
    rw [Pipeline.link, hw, pl.checkObjects_objectFiles]
    exact htool w _ hw p
  have harchive : ∀ (w : Work), Objs w → ∀ p,
      Follows runner [tc.archive pl.objectFiles set.archive] (fun _ => False) (fun _ => False) Objs p
        (w.unless (pl.archive runner w.objects set p)) := by
    intro w hw p
    rw [Pipeline.archive, hw, pl.checkObjects_objectFiles]
    exact htool w _ hw p
  have hstub : ∀ (w : Work), Objs w → ∀ p,
      Follows runner [tc.compileStub set.stubSource set.stubObject, tc.linkStub set.stubObject set.stub]
        (· = 0) (fun _ => False) Objs p
        (Work.keeping (buildStub runner pl set p) fun syms => { w with symbols := syms }) :=
    fun w hw p => (buildStub_follows pl set p).keeping.mono (fun _ h => h) (fun _ _ h => h)
      (by rintro _ ⟨a, -, rfl⟩; exact hw)
  have hdone : ∀ (w : Work), Objs w → ∀ p,
      Follows runner [] (fun _ => False) (fun _ => False) Objs p (workOf [] w p) :=
    fun w hw p => Follows.done hw _ _
  rw [hplan]
  refine (Follows.cons (hcompile {}) fun w₁ p₁ hw₁ _ =>
    Follows.cons (hlink w₁ hw₁ p₁) fun w₂ p₂ hw₂ _ =>
    Follows.cons (htool w₂ _ hw₂ p₂) fun w₃ p₃ hw₃ _ =>
    Follows.cons (harchive w₃ hw₃ p₃) fun w₄ p₄ hw₄ _ =>
    Follows.cons (hstub w₄ hw₄ p₄) fun w₅ p₅ hw₅ _ => hdone w₅ hw₅ p₅).mono ?_ ?_ (fun _ h => h)
  · intro k hk
    simp at hk
    omega
  · rintro i - ⟨rel, hrel, hl⟩
    obtain ⟨hi, -⟩ := List.getElem?_eq_some_iff.1 hrel
    exact .inl ⟨⟨rel, hrel, hl⟩, by simpa using hi⟩

/-- **After a successful reset a build is the work of its stage table**: it asks for the same
commands and ends with the same result, what the stages made on success. A failed walk leaves
the disk as the stages left it; a successful one saves the record of the build into the build
directory. -/
theorem Pipeline.run_of_reset_ok (pl : Pipeline) (runner : Runner) (d : Disk) (t₀ t₁ : Time.Moment)
    {d₀ : Disk} (hreset : resetDir d pl.resolver.buildDir = .ok d₀) {p : Progress}
    {r : Except Fault Work}
    (hw : workOf (pl.stageTable runner (pl.resolver.artifacts pl.name pl.stubSource)) {}
      { disk := d₀ } = (p, r)) :
    ∃ o, pl.run runner d t₀ t₁ = .ok o ∧ o.calls = p.calls ∧
      (∀ f, r = .error f → o.result = .error f ∧ o.disk = p.disk) ∧
      (∀ w, r = .ok w →
        o.result = .ok ⟨pl.resolver.artifacts pl.name pl.stubSource, w.objects, w.symbols⟩ ∧
        o.disk = saveRecord p.disk pl.resolver.buildDir
          { name := pl.name, artifacts := pl.resolver.artifacts pl.name pl.stubSource,
            objects := w.objects, symbols := w.symbols.names.toList, startTime := t₀,
            buildTime := t₁ }) := by
  set set := pl.resolver.artifacts pl.name pl.stubSource
  obtain ⟨m, hwalk⟩ := runStages_eq_workOf (pl.stageTable runner set) Machine.start {}
    { disk := d₀ } (by decide) (pl.stageTable_advances runner set)
  rw [hw] at hwalk
  cases r with
  | error f =>
    refine ⟨_, Pipeline.run_of_stages_error hreset hwalk, rfl, ?_, (fun _ h => by cases h)⟩
    rintro f' ⟨⟩
    exact ⟨rfl, rfl⟩
  | ok w =>
    obtain ⟨-, -, hdone⟩ := Pipeline.stages_ok_done hwalk
    refine ⟨_, Pipeline.run_of_stages_ok hreset hwalk hdone, rfl, (fun _ h => by cases h), ?_⟩
    rintro w' ⟨⟩
    exact ⟨rfl, rfl⟩

/-- A plan always holds the five commands after the compiles, so it is never empty. -/
theorem Pipeline.plan_ne_nil (pl : Pipeline) : pl.plan ≠ [] := by
  simp [Pipeline.plan]

/-- **A build asks its runner for a prefix of its plan.** For any pipeline, runner, disk and
times, the run ends without a panic, and for some `k` its commands are those of the first `k`
of the plan, up to and including the first that fails. `k` is where a fault that is no tool's
stopped the run: before the compile of a source, before the stub compile, or, when the reset
fails, before everything; otherwise `k` is the whole plan. No command runs from the compile of
a source outside the project on. The run succeeds exactly when the whole plan ran and every
command succeeded, and then its objects are the object files of the sources; a failed run's
fault carries the status of the failing command, or 1 when no command failed.

A successful run saves the record of the build (its name, artifacts, objects and symbol names,
and the two times) into the build directory of the disk the stages left. A failed run saves
none: it leaves the disk as it was when the reset fails, and as the stages left it otherwise. -/
theorem Pipeline.run_calls_prefix_of_plan (pl : Pipeline) (runner : Runner) (d : Disk)
    (t₀ t₁ : Time.Moment) :
    ∃ o k, pl.run runner d t₀ t₁ = .ok o ∧
      o.calls = replay runner [] (pl.plan.take k) ∧
      (k = 0 ∨ k < pl.sources.length ∨ k = pl.sources.length + 3 ∨ k = pl.plan.length) ∧
      (∀ f, resetDir d pl.resolver.buildDir = .error f → k = 0 ∧ o.disk = d) ∧
      (∀ i (hi : i < pl.sources.length), Path.isLocal pl.sources[i] = false → o.calls.length ≤ i) ∧
      ((∃ b, o.result = .ok b) ↔ o.calls = pl.plan ∧ allSucceed runner [] pl.plan = true) ∧
      (∀ b, o.result = .ok b → b.objects = pl.objectFiles) ∧
      (∀ f, o.result = .error f → statusOf (some f) = failStatus runner [] (pl.plan.take k)) ∧
      (∀ d₀, resetDir d pl.resolver.buildDir = .ok d₀ →
        (∀ f, o.result = .error f → o.disk = (workOf (pl.stageTable runner
          (pl.resolver.artifacts pl.name pl.stubSource)) {} { disk := d₀ }).1.disk) ∧
        (∀ b, o.result = .ok b → o.disk = saveRecord (workOf (pl.stageTable runner
          (pl.resolver.artifacts pl.name pl.stubSource)) {} { disk := d₀ }).1.disk
            pl.resolver.buildDir
            { name := pl.name, artifacts := b.artifacts, objects := b.objects,
              symbols := b.symbols.names.toList, startTime := t₀, buildTime := t₁ })) := by
  rcases hreset : resetDir d pl.resolver.buildDir with f | d₀
  case error =>
    refine ⟨_, 0, Pipeline.run_of_reset_error hreset, by simp [replay], .inl rfl,
      fun _ _ => ⟨rfl, rfl⟩, fun _ _ _ => Nat.zero_le _, iff_of_false (by simp) ?_, by simp, ?_,
      (fun _ h => by cases h)⟩
    · exact fun h => pl.plan_ne_nil h.1.symm
    · intro f' hf'
      cases hf'
      simpa [failStatus, stageFault, statusOf, Fault.status?] using (resetDir_inert hreset).statusOf
  case ok =>
    rcases hw : workOf (pl.stageTable runner (pl.resolver.artifacts pl.name pl.stubSource)) {}
      { disk := d₀ } with ⟨p, r⟩
    obtain ⟨o, hrun, hcalls, herror, hok⟩ := pl.run_of_reset_ok runner d t₀ t₁ hreset hw
    have hfollows := pl.work_follows runner { disk := d₀ }
    rw [hw] at hfollows
    obtain ⟨k, hk, hs, hm, hc, hr⟩ := hfollows
    have hcalls' : o.calls = replay runner [] (pl.plan.take k) := by
      rw [hcalls, hc]
      rfl
    have hlen : pl.plan.length = pl.sources.length + 5 := by simp [Pipeline.plan]
    refine ⟨o, k, hrun, hcalls', ?_, (fun _ h => by cases h), ?_, ?_⟩
    · rcases hs with (hs | hs) | hs
      · exact .inr (.inl hs)
      · exact .inr (.inr (.inl hs))
      · exact .inr (.inr (.inr hs))
    · intro i hi hl
      rw [hcalls']
      exact hm i (by omega) ⟨_, List.getElem?_eq_getElem hi, hl⟩
    · cases r with
      | error f =>
        obtain ⟨hresult, hdisk⟩ := herror f rfl
        refine ⟨iff_of_false (by simp [hresult]) ?_, by simp [hresult], ?_, ?_⟩
        · rintro ⟨hplan, hall⟩
          have hk' : k = pl.plan.length := by
            have htake := replay_of_allSucceed (allSucceed_take hall k)
            rw [← hcalls', hplan] at htake
            have := congrArg List.length htake
            simp at this
            omega
          simp [hr.1 hk'] at hall
        · intro f' hf'
          rw [hresult] at hf'
          cases hf'
          exact hr.2
        · rintro _ ⟨⟩
          rw [hw]
          exact ⟨fun _ _ => hdisk, fun _ hb => by simp [hresult] at hb⟩
      | ok w =>
        obtain ⟨hresult, hdisk⟩ := hok w rfl
        obtain ⟨rfl, hall, hobjs⟩ := hr
        refine ⟨iff_of_true ⟨_, hresult⟩ ⟨?_, hall⟩, ?_, by simp [hresult], ?_⟩
        · rw [hcalls', List.take_length, replay_of_allSucceed hall]
        · intro b hb
          rw [hresult] at hb
          cases hb
          exact hobjs
        · rintro _ ⟨⟩
          rw [hw]
          refine ⟨fun _ hf => by simp [hresult] at hf, fun b hb => ?_⟩
          rw [hresult] at hb
          cases hb
          exact hdisk

end Stages

end CrossBuild
