import CrossBuild.Fault

/-!
# The status of a fault lies along its chain

Unwrapping a fault again and again (`Fault.unwrap`) walks its *chain* (`Fault.chain`): the fault
itself, then each fault it wraps, until one wraps nothing. The chain is finite, since unwrapping
lowers the nesting depth (`Fault.depth_unwrap`).

`statusOf_follows_unwrap` says that the process status of a fault is the status of the first tool
failure on its chain, and 1 when the chain has none. So a context or a stage around a fault keeps
its status, an extract fault has status 1, and a process exits with 0 after a fault exactly when
the first tool failure on its chain reported 0. A stage fault reports the status of the fault it
carries; that is its own status exactly when it carries one, for a stage fault around nothing
reports 0 and has the status 1.
-/

namespace CrossBuild

namespace Fault

/-- The status of a tool failure, for a fault that is one. -/
def toolStatus? : Fault → Option Status
  | .exit _ n => some n
  | _ => none

/-- How deep faults nest inside this one: one less than the length of its chain. -/
def depth : Fault → Nat
  | .wrap _ (some f) | .stage _ _ (some f) => f.depth + 1
  | .extract .. | .io .. => 1
  | _ => 0

/-- Unwrapping goes one level in. -/
theorem depth_unwrap {f g : Fault} (h : f.unwrap = some g) : g.depth < f.depth := by
  cases f with
  | wrap c inner | stage s src inner =>
    cases inner with
    | none => cases h
    | some f => cases h; simp [depth]
  | extract | io => cases h; simp [depth]
  | exit | plain | config => cases h

/-- The faults met by unwrapping again and again, the fault itself first. -/
def chain (f : Fault) : List Fault :=
  f :: match _h : f.unwrap with
    | some g => g.chain
    | none => []
termination_by f.depth
decreasing_by exact depth_unwrap ‹_›

theorem chain_of_unwrap_some {f g : Fault} (h : f.unwrap = some g) : f.chain = f :: g.chain := by
  rw [chain]
  split <;> simp_all

theorem chain_of_unwrap_none {f : Fault} (h : f.unwrap = none) : f.chain = [f] := by
  rw [chain]
  split <;> simp_all

/-- A fault that is no tool failure has the status of the fault it wraps, if any. -/
theorem status?_of_toolStatus?_none {f : Fault} (h : f.toolStatus? = none) :
    f.status? = f.unwrap.bind status? := by
  cases f with
  | exit => cases h
  | wrap c inner | stage s src inner => cases inner <;> rfl
  | plain | extract | io | config => rfl

theorem status?_of_toolStatus?_some {f : Fault} {n : Status} (h : f.toolStatus? = some n) :
    f.status? = some n := by
  cases f with
  | exit => exact h
  | _ => cases h

/-- **The search for a tool status walks the chain**: it finds the status of the first tool failure
on it. A tool failure is found at once; any other fault passes the search on to the fault it wraps.
-/
theorem status?_eq_findSome?_chain (f : Fault) : f.status? = f.chain.findSome? toolStatus? := by
  induction f using chain.induct with
  | case1 f ih =>
    cases ht : f.toolStatus? with
    | some n =>
      rw [status?_of_toolStatus?_some ht, chain, List.findSome?_cons, ht]
    | none =>
      rw [status?_of_toolStatus?_none ht]
      cases hu : f.unwrap with
      | some g => rw [chain_of_unwrap_some hu, List.findSome?_cons, ht, Option.bind_some, ih g hu]
      | none => rw [chain_of_unwrap_none hu, List.findSome?_cons, ht]; rfl

end Fault

/-- A process exits with 0 after a fault exactly when its status is 0. -/
theorem exitStatus_eq_zero_iff (e : Option Fault) : exitStatus e = 0 ↔ statusOf e = 0 := by
  rw [exitStatus, ← Int64.toInt_zero, Int64.toInt_inj]

/-- **Where the status of a fault comes from.** Without a fault the status is 0; a fault has the
status of the first tool failure on its chain, or 1 without one. Hence a context or a stage around
a fault keeps its status and an extract fault has the status 1. A stage fault reports its own
status exactly when it carries a fault: one around nothing reports 0 and has the status 1. A
process exits with 0 after a fault exactly when the first tool failure on its chain reported 0. -/
theorem statusOf_follows_unwrap :
    statusOf none = 0 ∧
    (∀ f : Fault, statusOf (some f) = (f.chain.findSome? Fault.toolStatus?).getD 1) ∧
    (∀ (c : String) (f : Fault), statusOf (some (.wrap c (some f))) = statusOf (some f)) ∧
    (∀ (s : Int64) (src : String) (f : Fault),
      statusOf (some (.stage s src (some f))) = statusOf (some f)) ∧
    (∀ (s : Int64) (src : String) (inner : Option Fault),
      (Fault.stage s src inner).stageStatus? = some (statusOf (some (.stage s src inner))) ↔
        inner.isSome) ∧
    (∀ (s : Int64) (src : String),
      (Fault.stage s src none).stageStatus? = some 0 ∧ statusOf (some (.stage s src none)) = 1) ∧
    (∀ (file : String) (line : Int) (text : String) (e : Header.NameError),
      statusOf (some (.extract file line text e)) = 1) ∧
    (∀ f : Fault, exitStatus (some f) = 0 ↔ f.chain.findSome? Fault.toolStatus? = some 0) := by
  have hchain : ∀ f : Fault, statusOf (some f) = (f.chain.findSome? Fault.toolStatus?).getD 1 :=
    fun f => by rw [statusOf, Fault.status?_eq_findSome?_chain]
  refine ⟨rfl, hchain, fun _ _ => rfl, fun _ _ _ => rfl, ?_, fun _ _ => ⟨rfl, rfl⟩,
    fun _ _ _ _ => rfl, ?_⟩
  · intro s src inner
    cases inner with
    | none => simp [Fault.stageStatus?, statusOf, Fault.status?]
    | some f => simp [Fault.stageStatus?, statusOf, Fault.status?]
  · intro f
    rw [exitStatus_eq_zero_iff, hchain]
    cases f.chain.findSome? Fault.toolStatus? <;> simp

example : statusOf (some (.wrap "link" (some (.stage 1 "" (some (.exit "ld.lld" 7)))))) = 7 := by
  decide

end CrossBuild
