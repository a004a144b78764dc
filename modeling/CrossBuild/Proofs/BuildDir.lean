import CrossBuild.Manifest.Validate
import CrossBuild.Artifact
import CrossBuild.Proofs.Paths

/-!
# Where the build directory lies

Every build starts by removing its build directory, and so does `clean`. A manifest that passes
its checks (`Manifest.check`) names a local build directory and local sources and headers
(`Manifest.local_of_check_eq_none`), so under an absolute project root the build directory has
the root's components followed by its own (`Path.components_join`). Hence:

* the build directory lies within the root, and it is the root itself exactly when the
  manifest's `build_dir` cleans to `.`, which the checks let through;
* a source or header lies within the build directory exactly when it lies within `build_dir`
  as a path relative to the root, which the checks do not rule out either.

The manifest `dotBuild` shows the first case: its build directory is the project root, so the
removal takes every source and header with it.
-/

namespace CrossBuild

open CrossBuild.Path

/-- The sources of a list that `checkSources` lets through are local. -/
theorem checkSources_local :
    ∀ {seen srcs : List String}, checkSources seen srcs = none → ∀ s ∈ srcs, isLocal s = true
  | _, [], _, _, hs => by simp at hs
  | seen, s :: rest, h, t, ht => by
    unfold checkSources at h
    split at h
    · cases h
    · rename_i hlocal
      split at h
      · cases h
      · rcases List.mem_cons.1 ht with rfl | ht
        · simpa using hlocal
        · exact checkSources_local h t ht

/-- A guard that faults when it holds passes exactly when it fails and what follows passes. -/
theorem ite_some_eq_none_iff {α : Type} {c : Prop} [Decidable c] {a : α} {x : Option α} :
    (if c then some a else x) = none ↔ ¬c ∧ x = none := by
  by_cases hc : c <;> simp [hc]

/-- A guard that faults when it fails passes exactly when it holds and what follows passes. -/
theorem ite_eq_none_of_some_iff {α : Type} {c : Prop} [Decidable c] {a : α} {x : Option α} :
    (if c then x else some a) = none ↔ c ∧ x = none := by
  by_cases hc : c <;> simp [hc]

/-- A manifest passes its checks exactly when every guard of the table lets it through. The sources
are checked in the middle of the chain, by a match rather than a guard. -/
theorem Manifest.check_eq_none_iff (m : Manifest) :
    m.check = none ↔
      Semver.isValid m.schema = true ∧ Semver.major m.schema = schemaMajor ∧
      m.name.startsWith "lib" = true ∧ hasSeparator m.name = false ∧
      m.buildDir ≠ "" ∧ isLocal m.buildDir = true ∧ m.sources ≠ [] ∧
      checkSources [] m.sources = none ∧
      m.target.triple ≠ "" ∧ m.target.paid ≠ "" ∧ m.stub.triple ≠ "" ∧
      m.stub.source ≠ "" ∧ hasSeparator m.stub.source = false ∧ m.stub.headers ≠ [] ∧
      ∀ h ∈ m.stub.headers, isLocal h = true := by
  unfold Manifest.check
  cases hsrc : checkSources [] m.sources <;>
    simp [ite_some_eq_none_iff, ite_eq_none_of_some_iff, String.isEmpty_iff, List.isEmpty_iff,
      and_assoc]

/-- A manifest that passes its checks names a local build directory, and local sources and
headers. -/
theorem Manifest.local_of_check_eq_none {m : Manifest} (hm : m.check = none) :
    isLocal m.buildDir = true ∧ ∀ p ∈ m.sources ++ m.stub.headers, isLocal p = true := by
  obtain ⟨-, -, -, -, -, hdir, -, hsrc, -, -, -, -, -, -, hhdr⟩ :=
    (Manifest.check_eq_none_iff m).1 hm
  refine ⟨hdir, fun p hp => ?_⟩
  rcases List.mem_append.1 hp with hp | hp
  · exact checkSources_local hsrc p hp
  · exact hhdr p hp

@[simp] theorem Resolver.new_root (root dir : String) : (Resolver.new root dir).root = root := by
  unfold Resolver.new
  split <;> rfl

/-- A local build directory is taken inside the root. -/
theorem Resolver.new_buildDir_of_isLocal {root dir : String} (h : isLocal dir = true) :
    (Resolver.new root dir).buildDir = join [root, dir] := by
  simp [Resolver.new, isAbs_eq_false_of_isLocal h]

/-- **The build directory under a checked manifest.** Under an absolute root, the build
directory lies within the root; it is the root itself exactly when the manifest's build
directory cleans to `.`; and a source or header lies within it exactly when it lies within the
manifest's build directory, both taken relative to the root. -/
theorem buildDir_within_root {m : Manifest} {root : String} (hm : m.check = none)
    (hroot : isAbs root = true) :
    let r := Resolver.new root m.buildDir
    Within r.buildDir root ∧
    (Within root r.buildDir ↔ clean m.buildDir = ".") ∧
    ∀ p ∈ m.sources ++ m.stub.headers, (Within (r.source p) r.buildDir ↔ Within p m.buildDir) := by
  obtain ⟨hdir, hinputs⟩ := Manifest.local_of_check_eq_none hm
  have hbuild : components (Resolver.new root m.buildDir).buildDir.toList =
      components root.toList ++ components m.buildDir.toList := by
    rw [Resolver.new_buildDir_of_isLocal hdir, components_join hroot hdir]
  refine ⟨?_, ?_, fun p hp => ?_⟩
  · rw [Within, hbuild]
    exact List.prefix_append _ _
  · rw [Within, hbuild, clean_eq_dot_iff hdir]
    constructor
    · intro h
      have hlen := h.length_le
      rw [List.length_append] at hlen
      exact List.eq_nil_of_length_eq_zero (by omega)
    · intro h
      simp only [h, List.append_nil, List.prefix_refl]
  · rw [Within, hbuild, Resolver.source, Resolver.new_root, components_join hroot (hinputs p hp)]
    exact List.prefix_append_right_inj _

/-- A build directory of `.`. -/
def dotBuild : Manifest :=
  { schema := "v1", name := "libdemo", buildDir := ".", sources := ["a.cpp"],
    target := { triple := "x86_64-pc-freebsd12-elf", paid := "0x1" },
    stub := { triple := "x86_64-pc-linux-gnu", source := "stub.c", headers := ["a.h"] } }

theorem dotBuild_check : dotBuild.check = none := by
  simp +decide [Manifest.check, dotBuild, hasSeparator, isLocal, isAbs, clean, cleanList,
    components, pieces, checkSources]

/-- A build directory of `.` passes the checks, and under the root `/proj` it is the root itself,
with the source `a.cpp` inside it. -/
theorem dotBuild_is_root :
    dotBuild.check = none ∧
    (Resolver.new "/proj" dotBuild.buildDir).buildDir = "/proj" ∧
    Within ((Resolver.new "/proj" dotBuild.buildDir).source "a.cpp")
      (Resolver.new "/proj" dotBuild.buildDir).buildDir := by
  obtain ⟨hdir, hinputs⟩ := Manifest.local_of_check_eq_none dotBuild_check
  have hroot : isAbs "/proj" = true := by simp +decide [isAbs]
  have hbuild : (Resolver.new "/proj" dotBuild.buildDir).buildDir = "/proj" := by
    rw [Resolver.new_buildDir_of_isLocal hdir]
    decide
  refine ⟨dotBuild_check, hbuild, ?_⟩
  rw [hbuild, Within, Resolver.source, Resolver.new_root,
    components_join hroot (hinputs "a.cpp" (by simp [dotBuild]))]
  exact List.prefix_append _ _

theorem dotBuild_within_root :
    dotBuild.check = none ∧ isAbs "/proj" = true ∧
    (let r := Resolver.new "/proj" dotBuild.buildDir
     Within r.buildDir "/proj" ∧
     (Within "/proj" r.buildDir ↔ clean dotBuild.buildDir = ".") ∧
     ∀ p ∈ dotBuild.sources ++ dotBuild.stub.headers,
       (Within (r.source p) r.buildDir ↔ Within p dotBuild.buildDir)) := by
  have hroot : isAbs "/proj" = true := by simp +decide [isAbs]
  exact ⟨dotBuild_check, hroot, buildDir_within_root dotBuild_check hroot⟩

end CrossBuild
