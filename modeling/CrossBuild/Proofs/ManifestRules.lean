import Mathlib.Tactic.MkIffOfInductiveProp
import CrossBuild.Manifest.Read

/-!
# The rules of a manifest, and the first one broken

A manifest keeps twelve rules (`Manifest.Valid`): a valid schema version of major `v1`; a name
that starts with `lib` and has no `/` or `\`; a non-empty local build directory; at least one
source, all local and no two the same; a target triple, a program authority id and a stub
triple; a non-empty stub source without `/` or `\`; at least one header, all local.

`Manifest.rules` lists them in the order they are checked, each with the fault that reports it.
The sources give two rules at each index (`Manifest.sourceRules`): the source there is local,
and then it is none of the sources before it. So when a source is both elsewhere and earlier,
the first index that is either decides, and at that index not being local is reported first.
The headers give one rule each.

`Manifest.check` reports the fault of the first rule broken, and nothing when all hold
(`Manifest.check_eq_firstFault`), which is exactly when the manifest keeps the rules. Reading a
manifest text gives the manifest exactly when the text is a TOML document whose top table
decodes to a manifest that keeps the rules. The main statement is
`Manifest.check_reports_first_broken_rule`.
-/

namespace CrossBuild

namespace Manifest

open CrossBuild.Path

/-- A rule of a manifest: whether it holds, and the fault that reports it when it does not. -/
structure Rule where
  holds : Bool
  fault : ManifestFault

/-- The fault of the first rule that does not hold, or none when all hold. -/
def firstFault (rs : List Rule) : Option ManifestFault :=
  (rs.find? fun r => !r.holds).map Rule.fault

@[simp] theorem firstFault_nil : firstFault [] = none := rfl

theorem firstFault_cons (r : Rule) (rs : List Rule) :
    firstFault (r :: rs) = if !r.holds then some r.fault else firstFault rs := by
  cases h : r.holds <;> simp [firstFault, h]

theorem firstFault_append (rs qs : List Rule) :
    firstFault (rs ++ qs) = (firstFault rs).or (firstFault qs) := by
  simp only [firstFault, List.find?_append, Option.map_or]

theorem firstFault_eq_none_iff {rs : List Rule} : firstFault rs = none ↔ ∀ r ∈ rs, r.holds = true := by
  simp [firstFault]

/-- The rules of the sources `srcs` that follow the sources `earlier`: at each index, the source
there is local, and then it is neither one of `earlier` nor a source before it. -/
def sourceRules (earlier srcs : List String) : List Rule :=
  (srcs.mapIdx fun i s =>
    [⟨isLocal s, .badSource s⟩, ⟨decide (s ∉ earlier ++ srcs.take i), .duplicateSource s⟩]).flatten

theorem sourceRules_cons (earlier : List String) (s : String) (rest : List String) :
    sourceRules earlier (s :: rest) =
      ⟨isLocal s, .badSource s⟩ :: ⟨decide (s ∉ earlier), .duplicateSource s⟩ ::
        sourceRules (earlier ++ [s]) rest := by
  simp [sourceRules, List.mapIdx_cons, List.take_succ_cons]

/-- The rules of a manifest, in the order they are checked. -/
def rules (m : Manifest) : List Rule :=
  [⟨Semver.isValid m.schema, .badSchema m.schema⟩,
    ⟨Semver.major m.schema == schemaMajor, .unsupportedSchema (Semver.major m.schema)⟩,
    ⟨m.name.startsWith "lib" && !m.name.contains '/' && !m.name.contains '\\', .badName m.name⟩,
    ⟨!m.buildDir.isEmpty && isLocal m.buildDir, .badBuildDir m.buildDir⟩,
    ⟨!m.sources.isEmpty, .noSources⟩] ++
  sourceRules [] m.sources ++
  [⟨!m.target.triple.isEmpty, .noTargetTriple⟩,
    ⟨!m.target.paid.isEmpty, .noPaid⟩,
    ⟨!m.stub.triple.isEmpty, .noStubTriple⟩,
    ⟨!m.stub.source.isEmpty && !m.stub.source.contains '/' && !m.stub.source.contains '\\',
      .badStubSource m.stub.source⟩,
    ⟨!m.stub.headers.isEmpty, .noHeaders⟩] ++
  m.stub.headers.map fun h => ⟨isLocal h, .badHeader h⟩

/-- A manifest that keeps all twelve rules. -/
@[mk_iff] structure Valid (m : Manifest) : Prop where
  schema_valid : Semver.isValid m.schema = true
  schema_major : Semver.major m.schema = "v1"
  name_lib : "lib".toList <+: m.name.toList
  name_bare : '/' ∉ m.name.toList ∧ '\\' ∉ m.name.toList
  buildDir_ne : m.buildDir ≠ ""
  buildDir_local : isLocal m.buildDir = true
  sources_ne : m.sources ≠ []
  sources_local : ∀ s ∈ m.sources, isLocal s = true
  sources_nodup : m.sources.Nodup
  triple_ne : m.target.triple ≠ ""
  paid_ne : m.target.paid ≠ ""
  stubTriple_ne : m.stub.triple ≠ ""
  stubSource_ne : m.stub.source ≠ ""
  stubSource_bare : '/' ∉ m.stub.source.toList ∧ '\\' ∉ m.stub.source.toList
  headers_ne : m.stub.headers ≠ []
  headers_local : ∀ h ∈ m.stub.headers, isLocal h = true

/-! ### The sources -/

/-- The source rules hold exactly when every source is local, none is one of `earlier`, and no
two are the same. -/
theorem sourceRules_hold_iff (earlier srcs : List String) :
    (∀ r ∈ sourceRules earlier srcs, r.holds = true) ↔
      (∀ s ∈ srcs, isLocal s = true) ∧ (∀ s ∈ srcs, s ∉ earlier) ∧ srcs.Nodup := by
  induction srcs generalizing earlier with
  | nil => simp [sourceRules]
  | cons s rest ih =>
    rw [sourceRules_cons, List.forall_mem_cons, List.forall_mem_cons, ih]
    simp only [decide_eq_true_eq, List.mem_append, List.mem_singleton, not_or, List.forall_mem_cons,
      List.nodup_cons]
    constructor
    · rintro ⟨hs, hearlier, hlocal, hapart, hnodup⟩
      exact ⟨⟨hs, hlocal⟩, ⟨hearlier, fun t ht => (hapart t ht).1⟩,
        fun hmem => (hapart s hmem).2 rfl, hnodup⟩
    · rintro ⟨⟨hs, hlocal⟩, ⟨hearlier, hapart⟩, hnotin, hnodup⟩
      exact ⟨hs, hearlier, hlocal,
        fun t ht => ⟨hapart t ht, fun hts => hnotin (hts ▸ ht)⟩, hnodup⟩

/-- The sources are checked in order: each against locality, then against the sources seen,
which are `earlier` in another order. -/
theorem checkSources_eq_firstFault {seen earlier : List String} (hseen : ∀ x, x ∈ seen ↔ x ∈ earlier)
    (srcs : List String) : checkSources seen srcs = firstFault (sourceRules earlier srcs) := by
  induction srcs generalizing seen earlier with
  | nil => rfl
  | cons s rest ih =>
    have hnext : ∀ x, x ∈ s :: seen ↔ x ∈ earlier ++ [s] := fun x => by
      simp [hseen x, or_comm]
    rw [checkSources, sourceRules_cons, firstFault_cons, firstFault_cons, ih hnext]
    simp [hseen s]

theorem firstFault_headers (hs : List String) :
    (hs.find? fun h => !isLocal h).map .badHeader =
      firstFault (hs.map fun h => ⟨isLocal h, .badHeader h⟩) := by
  simp [firstFault, Function.comp_def]

/-! ### The whole manifest -/

/-- **The check reports the first rule broken.** The check matches on the sources' fault where the
rules take `Option.or`, which is the same match. -/
theorem check_eq_firstFault (m : Manifest) : m.check = firstFault m.rules := by
  have hsrc := @checkSources_eq_firstFault [] [] (fun _ => Iff.rfl) m.sources
  simp only [rules, List.cons_append, List.nil_append, List.append_assoc, firstFault_cons,
    firstFault_append]
  unfold check
  rw [hsrc, firstFault_headers]
  cases firstFault (sourceRules [] m.sources) <;>
    simp [hasSeparator, Bool.or_assoc]

/-- The rules of a manifest hold exactly when it keeps them. -/
theorem rules_hold_iff (m : Manifest) : (∀ r ∈ m.rules, r.holds = true) ↔ m.Valid := by
  rw [valid_iff]
  simp only [rules, List.forall_mem_append, List.forall_mem_cons, List.forall_mem_map,
    sourceRules_hold_iff]
  simp [schemaMajor, and_assoc]

theorem check_eq_none_iff_valid (m : Manifest) : m.check = none ↔ m.Valid := by
  rw [check_eq_firstFault, firstFault_eq_none_iff, rules_hold_iff]

/-! ### Reading a manifest -/

/-- A text that is a document whose top table decodes to a manifest reads as the check's verdict
on that manifest. -/
theorem read_of_decode {text : String} {es : Toml.Entries} {m : Manifest}
    (hes : Toml.read text = .ok es) (hdec : decode es = some m) :
    read text = m.check.elim (.ok m) fun f => .error (.invalid f) := by
  unfold Manifest.read
  rw [hes]
  dsimp only
  rw [hdec]
  dsimp only
  cases m.check <;> rfl

/-- Reading a text gives a manifest exactly when the text is a document whose top table decodes
to that manifest and the manifest passes the check. -/
theorem read_eq_ok_iff (text : String) (m : Manifest) :
    read text = .ok m ↔ ∃ es, Toml.read text = .ok es ∧ decode es = some m ∧ m.check = none := by
  constructor
  · intro h
    unfold Manifest.read at h
    split at h
    · cases h
    · rename_i es hes
      split at h
      · cases h
      · rename_i m' hdec
        split at h
        · cases h
        · rename_i hc
          cases h
          exact ⟨es, hes, hdec, hc⟩
  · rintro ⟨es, hes, hdec, hc⟩
    rw [read_of_decode hes hdec, hc]
    rfl

/-- Reading a text fails with a fault of the manifest exactly when the text is a document whose
top table decodes to a manifest that the check refuses with that fault. -/
theorem read_eq_invalid_iff (text : String) (f : ManifestFault) :
    read text = .error (.invalid f) ↔
      ∃ es m, Toml.read text = .ok es ∧ decode es = some m ∧ m.check = some f := by
  constructor
  · intro h
    unfold Manifest.read at h
    split at h
    · cases h
    · rename_i es hes
      split at h
      · cases h
      · rename_i m hdec
        split at h
        · rename_i hc
          cases h
          exact ⟨es, m, hes, hdec, hc⟩
        · cases h
  · rintro ⟨es, m, hes, hdec, hc⟩
    rw [read_of_decode hes hdec, hc]
    rfl

/-- **A manifest is checked rule by rule.** A manifest passes the check exactly when it keeps the
twelve rules; otherwise the check reports the fault of the first rule broken, in the order of
`Manifest.rules`, where at each index of the sources not being local comes before being an
earlier source. Reading a text gives a manifest exactly when the text is a TOML document whose
top table decodes to it and it keeps the rules, and fails with a fault of the manifest exactly
when the decoded manifest breaks a rule, the first one broken reporting. -/
theorem check_reports_first_broken_rule :
    (∀ m : Manifest, m.check = none ↔ m.Valid) ∧
    (∀ m : Manifest, m.check = firstFault m.rules) ∧
    (∀ (text : String) (m : Manifest), read text = .ok m ↔
      ∃ es, Toml.read text = .ok es ∧ decode es = some m ∧ m.Valid) ∧
    (∀ (text : String) (f : ManifestFault), read text = .error (.invalid f) ↔
      ∃ es m, Toml.read text = .ok es ∧ decode es = some m ∧ firstFault m.rules = some f) :=
  ⟨check_eq_none_iff_valid, check_eq_firstFault,
    fun text m => by rw [read_eq_ok_iff, check_eq_none_iff_valid],
    fun text f => by simp only [read_eq_invalid_iff, check_eq_firstFault]⟩

/-- A manifest that breaks several rules reports the first: here the name, before the empty
build directory and the missing sources. -/
example : ({ schema := "v1.2.0", name := "demo" } : Manifest).check = some (.badName "demo") := by
  have hvalid : Semver.isValid "v1.2.0" = true := by decide
  have hmajor : Semver.major "v1.2.0" = "v1" := by decide
  simp [check, hvalid, hmajor, schemaMajor]

end Manifest

end CrossBuild
