import Mathlib.Data.String.Basic
import CrossBuild.Disk
import CrossBuild.Proofs.Outputs

/-!
# What the disk operations leave alone

A clean absolute path (`Path.CleanAbs`: a slash, then its components) names on a disk the
location of its components (`Path.location`). The disk finds it exactly when every directory
above that location is there (`Disk.Reaches`, `Disk.stat_eq_ok_iff`), so on a disk whose every
item has the directories above it (`Disk.WellFormed`, as on a real file system) such a path
names whatever the disk holds at its location. A path is split at its slashes by
`String.splitOn`, which `Disk.splitOn_slash` brings to the split of its characters.

Two relations between a disk and a later one say what the operations in between kept:

| relation | items of the first disk | files of the second disk | made by |
|---|---|---|---|
| `Grows d d'` | all kept | were files of `d` | `mkdir`, `mkdirAll` |
| `Spares L d d'` | kept outside `L` | lie outside `L`, were files of `d` | `removeAll` of a clean absolute path |

Over a well formed disk, either relation fixes which clean absolute paths name files and with
which text: all of them for `Grows`, those outside `L` for `Spares` (`Grows.stat_file_iff`,
`Spares.stat_file_iff`).
-/

namespace CrossBuild

namespace Path

/-- The location a path names on a disk: the texts of its components. -/
def location (p : String) : List String :=
  (components p.toList).map String.ofList

/-- A path as cleaning writes an absolute one: a slash, then its components. -/
def CleanAbs (p : String) : Prop :=
  p.toList = '/' :: unsplit (components p.toList)

theorem CleanAbs.named {p : String} (hp : CleanAbs p) :
    ∀ c ∈ components p.toList, Named c ∧ c ≠ parentMark := by
  have hhead : p.toList.head? = some '/' := by rw [hp]; rfl
  exact fun c hc =>
    ⟨named_of_mem_components hc, fun h => parentMark_not_mem_components_of_rooted hhead (h ▸ hc)⟩

/-- Cleaning an absolute path writes it as a slash and its components. -/
theorem cleanAbs_clean {s : String} (hs : isAbs s = true) : CleanAbs (clean s) := by
  have hhead := isAbs_iff.1 hs
  unfold CleanAbs
  rw [clean, String.toList_ofList, components_cleanList hhead]
  exact cleanList_of_rooted hhead

/-- An absolute root joined with any path is clean. -/
theorem cleanAbs_join {root : String} (hroot : isAbs root = true) (p : String) :
    CleanAbs (join [root, p]) := by
  have hhead := isAbs_iff.1 hroot
  have hne : root ≠ "" := fun h => by simp [h] at hhead
  rw [join_pair hne]
  apply cleanAbs_clean
  rw [isAbs_iff, String.toList_append, String.toList_append, List.append_assoc, List.head?_append,
    hhead]
  rfl

/-- Lying within a directory is lying at or under its location. -/
theorem within_iff_location {p dir : String} : Within p dir ↔ location dir <+: location p := by
  constructor
  · exact fun h => h.map String.ofList
  · intro h
    obtain ⟨l, hl, heq⟩ := List.prefix_map_iff.1 h
    have hback := congrArg (List.map String.toList) heq
    simp only [location, List.map_map, Function.comp_def, String.toList_ofList, List.map_id'] at hback
    unfold Within
    rw [hback]
    exact hl

end Path

namespace Disk

open CrossBuild.Path

/-! ### Splitting at slashes -/

section Split

open String in
/-- The legacy split of a text at `/`, from a position inside it, is the split of its characters. -/
theorem splitOnAux_slash (l m r : List Char) (acc : List String) :
    String.splitOnAux (String.ofList (l ++ m ++ r)) "/" ⟨String.utf8Len l⟩
        ⟨String.utf8Len l + String.utf8Len m⟩ 0 acc =
      acc.reverse ++ (List.splitOnPPrepend (· == '/') r m.reverse).map String.ofList := by
  unfold String.splitOnAux
  simp only [List.append_assoc, atEnd_iff, rawEndPos_ofList, utf8Len_append, Pos.Raw.mk_le_mk,
    Nat.add_le_add_iff_left, (by omega : utf8Len m + utf8Len r ≤ utf8Len m ↔ utf8Len r = 0),
    utf8Len_eq_zero, List.reverse_cons]
  split
  · subst r
    simpa using extract_of_valid l m []
  · obtain ⟨c, r, rfl⟩ := r.exists_cons_of_ne_nil ‹_›
    have hget : Pos.Raw.get "/" 0 = '/' := by decide
    have hnext : Pos.Raw.next "/" 0 = ⟨1⟩ := by decide
    have hend : "/".rawEndPos ≤ ⟨1⟩ := by decide
    simp only [by
      simpa [-ofList_append] using
        (⟨get_of_valid (l ++ m) (c :: r), next_of_valid (l ++ m) c r,
            extract_of_valid l m (c :: r)⟩ :
          _ ∧ _ ∧ _), hget, hnext, hend, if_true]
    split <;> rename_i h
    · have hc : c = '/' := by simpa using h
      subst hc
      have hsize : '/'.utf8Size = 1 := by decide
      have hpos : (⟨utf8Len l + utf8Len m + 1⟩ : Pos.Raw).unoffsetBy ⟨1⟩ = ⟨utf8Len l + utf8Len m⟩ := by
        simp [Pos.Raw.unoffsetBy]
      rw [hsize, hpos, show l ++ (m ++ '/' :: r) = l ++ m ++ '/' :: r by simp, extract_of_valid]
      simpa [-ofList_append, List.splitOnPPrepend_cons_eq_if, Nat.add_assoc, hsize] using
        splitOnAux_slash (l ++ m ++ ['/']) [] r (ofList m :: acc)
    · have hn := next_of_valid (l ++ m) c r
      simp only [List.append_assoc, utf8Len_append] at hn
      rw [show (⟨utf8Len l + utf8Len m⟩ : Pos.Raw).unoffsetBy 0 = ⟨utf8Len l + utf8Len m⟩ by
        simp [Pos.Raw.unoffsetBy], hn]
      simpa [-ofList_append, List.splitOnPPrepend_cons_eq_if, h, Nat.add_assoc] using
        splitOnAux_slash l (m ++ [c]) r acc
termination_by r.length

open String in
theorem splitOn_slash (s : String) :
    s.splitOn "/" = (s.toList.splitOn '/').map String.ofList := by
  have h := splitOnAux_slash [] [] s.toList []
  simp only [List.nil_append, String.ofList_toList, utf8Len_nil, Nat.add_zero] at h
  have hsep : ("/" == "") = false := by decide
  rw [String.splitOn, hsep]
  rw [if_neg Bool.false_ne_true]
  simpa [List.splitOn] using h

/-- A rooted path splits at its slashes into an empty piece and its components. -/
theorem splitOn_rooted {p : String} {cs : List (List Char)} (hp : p.toList = '/' :: unsplit cs)
    (hcs : ∀ c ∈ cs, '/' ∉ c) :
    p.splitOn "/" = "" :: if cs = [] then [""] else cs.map String.ofList := by
  rw [splitOn_slash, hp, ← pieces, pieces_slash_cons, pieces_unsplit hcs]
  split <;> simp

end Split

/-! ### Resolving clean absolute paths -/

section Resolve

@[simp] theorem find?_nil (d : Disk) : d.find? [] = some .dir := rfl

theorem step_empty (loc : List String) : step loc "" = loc := by
  simp [step]

/-- A path component that `step` goes down into. -/
def Plain (c : String) : Prop :=
  c ≠ "" ∧ c ≠ "." ∧ c ≠ ".."

theorem step_plain {loc : List String} {c : String} (hc : Plain c) : step loc c = loc ++ [c] := by
  simp [step, hc.1, hc.2.1, hc.2.2]

/-- Walking plain components goes down through them, and succeeds exactly when every location
passed on the way, the last one apart, is a directory. -/
theorem walk_plain_iff (d : Disk) : ∀ (cs loc L : List String), (∀ c ∈ cs, Plain c) →
    (d.walk loc cs = .ok L ↔
      L = loc ++ cs ∧ ∀ k, 0 < k → k < cs.length → d.find? (loc ++ cs.take k) = some .dir)
  | [], loc, L, _ => by
    simp only [walk, Except.ok.injEq, List.append_nil, List.length_nil]
    exact ⟨fun h => ⟨h.symm, fun _ _ h => absurd h (Nat.not_lt_zero _)⟩, fun h => h.1.symm⟩
  | [c], loc, L, h => by
    simp only [walk, step_plain (h c List.mem_cons_self), Except.ok.injEq, List.length_singleton]
    exact ⟨fun h => ⟨h.symm, fun _ h₁ h₂ => by omega⟩, fun h => h.1.symm⟩
  | c :: c' :: cs, loc, L, h => by
    have hc := h c List.mem_cons_self
    have ih := walk_plain_iff d (c' :: cs) (loc ++ [c]) L fun x hx => h x (List.mem_cons_of_mem c hx)
    simp only [walk, step_plain hc]
    cases hf : d.find? (loc ++ [c]) with
    | none =>
      simp only [reduceCtorEq, false_iff, not_and]
      intro _ hall
      have h1 := hall 1 (by omega) (by simp)
      simp [hf] at h1
    | some i =>
      cases i with
      | file t =>
        simp only [reduceCtorEq, false_iff, not_and]
        intro _ hall
        have h1 := hall 1 (by omega) (by simp)
        simp [hf] at h1
      | dir =>
        simp only
        rw [ih]
        constructor
        · rintro ⟨rfl, hall⟩
          refine ⟨by simp, fun k hk hlen => ?_⟩
          obtain ⟨j, rfl⟩ : ∃ j, k = j + 1 := ⟨k - 1, by omega⟩
          cases j with
          | zero => simpa using hf
          | succ j =>
            have := hall (j + 1) (by omega) (by simpa using hlen)
            simpa using this
        · rintro ⟨rfl, hall⟩
          refine ⟨by simp, fun k hk hlen => ?_⟩
          have := hall (k + 1) (by omega) (by simpa using hlen)
          simpa using this

theorem plain_ofList {c : List Char} (hc : Named c) (hpm : c ≠ parentMark) :
    Plain (String.ofList c) := by
  refine ⟨fun h => hc.1 ?_, fun h => hc.2.1 ?_, fun h => hpm ?_⟩
  · simpa using congrArg String.toList h
  · simpa using congrArg String.toList h
  · simpa [parentMark] using congrArg String.toList h

/-- Every directory above a location is there. -/
def Reaches (d : Disk) (loc : List String) : Prop :=
  ∀ k < loc.length, d.find? (loc.take k) = some .dir

instance (d : Disk) (loc : List String) : Decidable (d.Reaches loc) := by
  unfold Reaches
  infer_instance

theorem Reaches.mono {d : Disk} {L L' : List String} (h : d.Reaches L) (hL : L' <+: L) :
    d.Reaches L' := by
  obtain ⟨t, rfl⟩ := hL
  intro k hk
  have hr := h k (by simp; omega)
  rwa [List.take_append_of_le_length hk.le] at hr

/-- The parent of a reached location is a directory. -/
theorem Reaches.find?_parent {d : Disk} {L : List String} {c : String} (h : d.Reaches (L ++ [c])) :
    d.find? L = some .dir := by
  simpa using h L.length (by simp)

/-- A rooted path written from named components resolves to them, exactly when every directory
above them is there. -/
theorem resolve_rooted_iff {d : Disk} {p : String} {cs : List (List Char)}
    (hp : p.toList = '/' :: unsplit cs) (hcs : ∀ c ∈ cs, Named c ∧ c ≠ parentMark)
    (L : List String) :
    d.resolve p = .ok L ↔ L = cs.map String.ofList ∧ d.Reaches (cs.map String.ofList) := by
  have hne : p.isEmpty = false := by
    simp [← String.toList_eq_nil_iff, hp]
  have habs : p.startsWith "/" = true := isAbs_iff.2 (by simp [hp])
  have hsplit := splitOn_rooted hp fun c hc => (hcs c hc).1.2.2
  simp only [resolve, hne, habs, Bool.false_eq_true, if_false, if_true, hsplit]
  split
  · rename_i h
    subst h
    simp [walk, step, find?, Reaches, eq_comm]
  · rename_i h
    obtain ⟨c, r, hcr⟩ := List.exists_cons_of_ne_nil (mt List.map_eq_nil_iff.1 h)
    have hplain : ∀ x ∈ cs.map String.ofList, Plain x := by
      simp only [List.mem_map]
      rintro x ⟨c, hc, rfl⟩
      exact plain_ofList (hcs c hc).1 (hcs c hc).2
    rw [hcr] at hplain ⊢
    simp only [walk, step_empty, find?_nil]
    rw [walk_plain_iff d (c :: r) [] L hplain, List.nil_append]
    simp only [Reaches, List.nil_append]
    constructor
    · rintro ⟨rfl, hall⟩
      refine ⟨rfl, fun k hk => ?_⟩
      cases k with
      | zero => exact find?_nil d
      | succ k => exact hall (k + 1) (Nat.succ_pos k) hk
    · rintro ⟨rfl, hall⟩
      exact ⟨rfl, fun k _ hk => hall k hk⟩

/-- What a rooted path written from named components names: what the disk holds at their
location, once every directory above it is there. -/
theorem stat_rooted_iff {d : Disk} {p : String} {cs : List (List Char)}
    (hp : p.toList = '/' :: unsplit cs) (hcs : ∀ c ∈ cs, Named c ∧ c ≠ parentMark) (i : Item) :
    d.stat p = .ok i ↔ d.Reaches (cs.map String.ofList) ∧ d.find? (cs.map String.ofList) = some i := by
  unfold stat
  cases hr : d.resolve p with
  | error e =>
    simp only [bind, Except.bind, reduceCtorEq, false_iff, not_and]
    intro hreach _
    have hok := (resolve_rooted_iff hp hcs _).2 ⟨rfl, hreach⟩
    rw [hr] at hok
    cases hok
  | ok L =>
    obtain ⟨rfl, hreach⟩ := (resolve_rooted_iff hp hcs L).1 hr
    simp only [bind, Except.bind, hreach, true_and]
    cases d.find? (cs.map String.ofList) <;> simp

/-- **What a clean absolute path names.** It names what the disk holds at its location, exactly
when every directory above the location is there. -/
theorem stat_eq_ok_iff {d : Disk} {p : String} (hp : CleanAbs p) (i : Item) :
    d.stat p = .ok i ↔ d.Reaches (location p) ∧ d.find? (location p) = some i :=
  stat_rooted_iff hp hp.named i

end Resolve

/-! ### Well formed disks -/

section WellFormed

/-- Every item has the directories above it, as on a real file system. -/
def WellFormed (d : Disk) : Prop :=
  ∀ x ∈ d.items, d.Reaches x.1

instance : DecidablePred WellFormed := fun d => by
  unfold WellFormed Reaches
  infer_instance

variable {d : Disk}

theorem WellFormed.reaches (hwf : d.WellFormed) {L : List String} {i : Item}
    (h : d.find? L = some i) : d.Reaches L := by
  by_cases hL : L = []
  · subst hL
    intro k hk
    simp at hk
  · simp only [find?, List.isEmpty_iff, hL, if_false, Option.map_eq_some_iff] at h
    obtain ⟨x, hx, -⟩ := h
    have hkey : x.1 = L := by simpa using List.find?_some hx
    exact hkey ▸ hwf x (List.mem_of_find?_eq_some hx)

/-- Whatever lies above an item of a well formed disk is reached. -/
theorem WellFormed.reaches_of_prefix (hwf : d.WellFormed) {L loc : List String} {i : Item}
    (h : d.find? loc = some i) (hL : L <+: loc) : d.Reaches L :=
  (hwf.reaches h).mono hL

/-- On a well formed disk a clean absolute path names what the disk holds at its location. -/
theorem WellFormed.stat_eq_ok_iff (hwf : d.WellFormed) {p : String} (hp : CleanAbs p) (i : Item) :
    d.stat p = .ok i ↔ d.find? (location p) = some i := by
  rw [Disk.stat_eq_ok_iff hp]
  exact ⟨And.right, fun h => ⟨hwf.reaches h, h⟩⟩

end WellFormed

/-! ### Growing a disk -/

section Grows

theorem exists_of_bind_eq_ok {ε α β : Type} {x : Except ε α} {f : α → Except ε β} {b : β}
    (h : (x >>= f) = .ok b) : ∃ a, x = .ok a ∧ f a = .ok b := by
  cases x with
  | error e => cases h
  | ok a => exact ⟨a, rfl, h⟩

theorem find?_set {d : Disk} {L loc : List String} {i : Item} (h : loc ≠ []) :
    (d.set L i).find? loc = if loc = L then some i else d.find? loc := by
  by_cases hl : loc = L
  · subst hl
    have hnone : (d.items.filter fun x => x.1 != loc).find? (fun x => x.1 == loc) = none :=
      List.find?_eq_none.2 fun x hx => by simpa using (List.mem_filter.1 hx).2
    simp [find?, set, h, List.find?_append, hnone]
  · have hkept : (d.items.filter fun x => x.1 != L).find? (fun x => x.1 == loc) =
        d.items.find? (fun x => x.1 == loc) := by
      rw [List.find?_filter]
      congr 1
      funext x
      by_cases hx : x.1 = loc <;> simp [hx, hl]
    simp [find?, set, h, hl, List.find?_append, hkept, Ne.symm hl]

theorem find?_prune {d : Disk} {L loc : List String} (h : loc ≠ []) :
    (d.prune L).find? loc = if L <+: loc then none else d.find? loc := by
  simp only [find?, prune, List.isEmpty_iff, h, if_false, List.find?_filter]
  split
  · rename_i hL
    rw [List.find?_eq_none.2 fun x _ => by
      by_cases hx : x.1 = loc <;> simp [hx, List.isPrefixOf_iff_prefix, hL]]
    rfl
  · rename_i hL
    have hb : L.isPrefixOf loc = false :=
      Bool.eq_false_iff.2 fun hp => hL (List.isPrefixOf_iff_prefix.1 hp)
    congr 2
    funext x
    by_cases hx : x.1 = loc <;> simp [hx, hb]

theorem find?_record (d : Disk) (c : Change) : (d.record c).find? = d.find? := rfl

/-- A location stays reached on a disk that holds what the first one held at every directory
strictly above it, the root apart. -/
theorem Reaches.of_above {d d' : Disk} {loc : List String} (h : d.Reaches loc)
    (hkeep : ∀ k, 0 < k → k < loc.length → d'.find? (loc.take k) = d.find? (loc.take k)) :
    d'.Reaches loc := by
  intro k hk
  rcases Nat.eq_zero_or_pos k with rfl | hpos
  · simp
  · rw [hkeep k hpos hk, h k hk]

/-- A directory strictly above a location, the root apart, is a location of its own. -/
theorem take_ne_nil_ne_self {loc : List String} {k : Nat} (hpos : 0 < k) (hk : k < loc.length) :
    loc.take k ≠ [] ∧ ¬loc <+: loc.take k := by
  constructor
  · simp only [ne_eq, List.take_eq_nil_iff, List.ne_nil_of_length_pos (Nat.zero_lt_of_lt hk),
      or_false]
    omega
  · intro hpre
    have hlen := hpre.length_le
    simp only [List.length_take] at hlen
    omega

/-- Putting an item at a location keeps the directories above it. -/
theorem Reaches.set {d : Disk} {loc : List String} (h : d.Reaches loc) (i : Item) :
    (d.set loc i).Reaches loc := by
  refine h.of_above fun k hpos hk => ?_
  obtain ⟨htake, hshort⟩ := take_ne_nil_ne_self hpos hk
  have hne : loc.take k ≠ loc := fun he => by
    rw [he] at hshort
    exact hshort (List.prefix_refl _)
  rw [find?_set htake, if_neg hne]

/-- A disk grows into another when everything it holds stays, and the only new items are
directories. -/
def Grows (d d' : Disk) : Prop :=
  (∀ loc i, d.find? loc = some i → d'.find? loc = some i) ∧
  ∀ loc t, d'.find? loc = some (.file t) → d.find? loc = some (.file t)

theorem Grows.refl (d : Disk) : Grows d d :=
  ⟨fun _ _ h => h, fun _ _ h => h⟩

theorem Grows.trans {d₁ d₂ d₃ : Disk} (h₁ : Grows d₁ d₂) (h₂ : Grows d₂ d₃) : Grows d₁ d₃ :=
  ⟨fun l i h => h₂.1 l i (h₁.1 l i h), fun l t h => h₁.2 l t (h₂.2 l t h)⟩

/-- A directory put where nothing was grows the disk. -/
theorem grows_set_dir {d : Disk} {L : List String} (hL : d.find? L = none) (c : Change) :
    Grows d ((d.set L .dir).record c) := by
  constructor
  · intro loc i h
    rw [find?_record]
    by_cases hloc : loc = []
    · subst hloc
      exact h
    · rw [find?_set hloc, if_neg (fun he => by rw [he, hL] at h; cases h)]
      exact h
  · intro loc t h
    rw [find?_record] at h
    by_cases hloc : loc = []
    · subst hloc
      cases h
    · rw [find?_set hloc] at h
      split at h
      · cases h
      · exact h

theorem mkdir_grows {d d' : Disk} {p : String} (h : d.mkdir p = .ok d') : Grows d d' := by
  unfold mkdir at h
  cases hr : d.resolve (dropTrailingSlashes p) with
  | error e => simp [hr, bind, Except.bind] at h
  | ok loc =>
    simp only [hr, bind, Except.bind] at h
    cases hf : d.find? loc with
    | some i => simp [hf] at h
    | none =>
      simp only [hf, Except.ok.injEq] at h
      subst h
      exact grows_set_dir hf _

/-- Making a directory with the ones above it only adds directories: the directories above come
first, then this one, and a directory that appeared meanwhile is kept as it is. -/
theorem mkdirAllFrom_grows : ∀ (n : Nat) (d : Disk) (p : String) (d' : Disk),
    mkdirAllFrom n d p = .ok d' → Grows d d'
  | 0, d, _, d', h => by
    simp only [mkdirAllFrom, Except.ok.injEq] at h
    subst h
    exact .refl d
  | n + 1, d, p, d', h => by
    unfold mkdirAllFrom at h
    split at h
    · cases h
      exact .refl d
    · cases h
    · dsimp only at h
      split at h
      all_goals
        obtain ⟨d₁, hparent, h⟩ := exists_of_bind_eq_ok h
        have hg₁ : Grows d d₁ := by
          first
            | exact mkdirAllFrom_grows n d _ d₁ hparent
            | cases hparent; exact .refl d
        split at h
        · cases h
          exact hg₁.trans (mkdir_grows ‹_›)
        · split at h
          · cases h
            exact hg₁
          · cases h

theorem mkdirAll_grows {d d' : Disk} {p : String} (h : d.mkdirAll p = .ok d') : Grows d d' :=
  mkdirAllFrom_grows _ d p d' h

end Grows

/-! ### Directory creation runs out of fuel never -/

section Fuel

/-- Directory creation climbs from a path to a shorter one: cutting the trailing slashes and
then the last component takes at least the last character. -/
theorem length_parentText_lt {p : String} (hp : p ≠ "") : (parentText p).length < p.length := by
  have hne : p.toList.reverse ≠ [] := by simpa using hp
  obtain ⟨c, cs, hcs⟩ := List.exists_cons_of_ne_nil hne
  have hlen : p.length = cs.length + 1 := by
    rw [← String.length_toList, ← List.length_reverse, hcs, List.length_cons]
  have hcut : (((c :: cs).dropWhile (· == '/')).dropWhile (· != '/')).length ≤ cs.length := by
    by_cases hc : c = '/'
    · rw [List.dropWhile_cons_of_pos (by simp [hc])]
      exact ((List.dropWhile_suffix _).length_le).trans (List.dropWhile_suffix _).length_le
    · rw [List.dropWhile_cons_of_neg (by simp [hc]), List.dropWhile_cons_of_pos (by simp [hc])]
      exact (List.dropWhile_suffix _).length_le
  simp only [parentText, String.length_ofList, List.length_reverse, List.length_drop, hcs]
  omega

/-- **The fuel of directory creation suffices.** Every step climbs to a shorter parent, so two
fuels above the length of the path make the same directories: `mkdirAll`, which gives one more
than the length, never reaches the end of its fuel. -/
theorem mkdirAllFrom_enough : ∀ {n m : Nat} {d : Disk} {p : String},
    p.length < n → p.length < m → mkdirAllFrom n d p = mkdirAllFrom m d p
  | 0, _, _, _, hn, _ => absurd hn (Nat.not_lt_zero _)
  | _ + 1, 0, _, _, _, hm => absurd hm (Nat.not_lt_zero _)
  | n + 1, m + 1, d, p, hn, hm => by
    by_cases hparent : (parentText p).isEmpty = true
    · simp only [mkdirAllFrom, hparent, if_true]
    · have hp : p ≠ "" := fun h => hparent (by rw [h]; rfl)
      have hlt := length_parentText_lt hp
      have habove : mkdirAllFrom n d (parentText p) = mkdirAllFrom m d (parentText p) :=
        mkdirAllFrom_enough (by omega) (by omega)
      simp only [mkdirAllFrom, hparent, habove]

theorem mkdirAll_eq_mkdirAllFrom {d : Disk} {p : String} {n : Nat} (h : p.length < n) :
    d.mkdirAll p = mkdirAllFrom n d p :=
  mkdirAllFrom_enough (Nat.lt_succ_self _) h

end Fuel

/-! ### Sparing what lies outside a location -/

section Spares

/-- A disk spares what lies outside `L` in a later one when every item outside `L` stays, and
every file of the later disk lies outside `L` and was a file of the first. -/
def Spares (L : List String) (d d' : Disk) : Prop :=
  (∀ loc i, ¬L <+: loc → d.find? loc = some i → d'.find? loc = some i) ∧
  ∀ loc t, d'.find? loc = some (.file t) → ¬L <+: loc ∧ d.find? loc = some (.file t)

variable {L : List String} {d d' : Disk}

theorem Spares.grow {d'' : Disk} (h : Spares L d d') (h' : Grows d' d'') : Spares L d d'' :=
  ⟨fun loc i hL hi => h'.1 loc i (h.1 loc i hL hi), fun loc t ht => h.2 loc t (h'.2 loc t ht)⟩

theorem Spares.record (h : Spares L d d') (c : Change) : Spares L d (d'.record c) :=
  h

/-- Pruning a location spares everything outside it. -/
theorem spares_prune (d : Disk) (L : List String) : Spares L d (d.prune L) := by
  constructor
  · intro loc i hL hi
    by_cases hloc : loc = []
    · subst hloc
      exact hi
    · rw [find?_prune hloc, if_neg hL]
      exact hi
  · intro loc t ht
    by_cases hloc : loc = []
    · subst hloc
      cases ht
    · rw [find?_prune hloc] at ht
      split at ht
      · cases ht
      · exact ⟨‹_›, ht⟩

/-- A well formed disk with a directory missing above `L` has nothing at or under `L`, so
leaving it as it is spares what lies outside `L`. -/
theorem spares_of_not_reaches (hwf : d.WellFormed) (h : ¬d.Reaches L) : Spares L d d :=
  ⟨fun _ _ _ hi => hi, fun _ _ ht => ⟨fun hL => h (hwf.reaches_of_prefix ht hL), ht⟩⟩

end Spares

/-! ### Removing a clean absolute path -/

section Cut

theorem unsplit_head?_ne_slash : ∀ {cs : List (List Char)}, (∀ c ∈ cs, Named c) →
    (unsplit cs).head? ≠ some '/'
  | [], _ => by simp [unsplit]
  | [c], h => fun hc => (h c List.mem_cons_self).2.2 (List.mem_of_mem_head? hc)
  | c :: d :: ds, h => by
    have hc := h c List.mem_cons_self
    show (c ++ '/' :: unsplit (d :: ds)).head? ≠ some '/'
    rw [List.head?_append_of_ne_nil _ hc.1]
    exact fun hh => hc.2.2 (List.mem_of_mem_head? hh)

/-- What lies before the last component of a rooted path, read backwards: the slash before it,
then the parent, unless the parent is the root. -/
def parentRev (init : List (List Char)) : List Char :=
  if init = [] then [] else (unsplit init).reverse ++ ['/']

theorem parentRev_reverse (init : List (List Char)) :
    (parentRev init).reverse = if init = [] then [] else '/' :: unsplit init := by
  unfold parentRev
  split <;> simp

/-- A rooted path read backwards: its last component, the slash before it, then the rest. -/
theorem rooted_reverse (init : List (List Char)) (c : List Char) :
    ('/' :: unsplit (init ++ [c])).reverse = c.reverse ++ '/' :: parentRev init := by
  rw [unsplit_append_single, parentRev]
  split <;> simp

section Component

variable {c : List Char} (hslash : '/' ∉ c) (q : List Char)
include hslash

/-- Trailing slashes are cut from a path read backwards; there are none after a component. -/
theorem dropWhile_slash_component (hc : c ≠ []) :
    (c.reverse ++ '/' :: q).dropWhile (· == '/') = c.reverse ++ '/' :: q := by
  obtain ⟨last, crest, hcr⟩ : ∃ last crest, c.reverse = last :: crest :=
    List.exists_cons_of_ne_nil (by simpa using hc)
  have hlast : last ≠ '/' := fun h => hslash (List.mem_reverse.1 (by rw [hcr, h]; simp))
  rw [hcr, List.cons_append]
  exact List.dropWhile_cons_of_neg (by simpa using hlast)

theorem dropWhile_not_slash_component :
    (c.reverse ++ '/' :: q).dropWhile (· != '/') = '/' :: q := by
  rw [List.dropWhile_append_of_pos fun x hx => by
    simpa using fun h : x = '/' => hslash (List.mem_reverse.1 (h ▸ hx))]
  simp

theorem takeWhile_not_slash_component :
    (c.reverse ++ '/' :: q).takeWhile (· != '/') = c.reverse := by
  rw [List.takeWhile_append_of_pos fun x hx => by
    simpa using fun h : x = '/' => hslash (List.mem_reverse.1 (h ▸ hx))]
  simp

end Component

/-- Removal cuts a rooted path written from named components into the path of the components
before the last, and the last. -/
theorem splitLast_rooted {p : String} {init : List (List Char)} {c : List Char}
    (hp : p.toList = '/' :: unsplit (init ++ [c])) (hnamed : ∀ x ∈ init ++ [c], Named x) :
    splitLast p = (String.ofList ('/' :: unsplit init), String.ofList c) := by
  have hc := hnamed c (by simp)
  obtain ⟨last, crest, hcr⟩ : ∃ last crest, c.reverse = last :: crest :=
    List.exists_cons_of_ne_nil (by simpa using hc.1)
  have hkeep : (unsplit (init ++ [c])).dropWhile (· == '/') = unsplit (init ++ [c]) := by
    have hfront := unsplit_head?_ne_slash hnamed
    cases h : unsplit (init ++ [c]) with
    | nil => rfl
    | cons x xs => exact List.dropWhile_cons_of_neg (by rw [h] at hfront; simpa using hfront)
  have hlast : last ≠ '/' := fun h =>
    hc.2.2 (List.mem_reverse.1 (by rw [hcr, h]; exact List.mem_cons_self))
  have hrev : ('/' :: unsplit (init ++ [c])).reverse = last :: (crest ++ '/' :: parentRev init) := by
    rw [rooted_reverse, hcr, List.cons_append]
  have hdrop : (last :: (crest ++ '/' :: parentRev init)).dropWhile (· == '/') =
      last :: (crest ++ '/' :: parentRev init) := by
    have h := dropWhile_slash_component hc.2.2 (parentRev init) hc.1
    rwa [hcr, List.cons_append] at h
  have hbefore : (crest ++ '/' :: parentRev init).dropWhile (· != '/') = '/' :: parentRev init := by
    have h := dropWhile_not_slash_component hc.2.2 (parentRev init)
    rwa [hcr, List.cons_append, List.dropWhile_cons_of_pos (by simpa using hlast)] at h
  have hbase : (crest ++ '/' :: parentRev init).takeWhile (· != '/') = crest := by
    have h := takeWhile_not_slash_component hc.2.2 (parentRev init)
    rw [hcr, List.cons_append, List.takeWhile_cons_of_pos (by simpa using hlast)] at h
    exact (List.cons.inj h).2
  have hc' : (last :: crest).reverse = c := by rw [← hcr, List.reverse_reverse]
  unfold splitLast
  simp only [hp, hkeep, hrev, hdrop, List.reverse_reverse, hbefore, hbase, hc']
  by_cases hi : init = [] <;> simp [hi, parentRev, unsplit]

/-- The parent that directory creation climbs to from a rooted path written from named
components: the path of the components before the last, or nothing at the root. -/
theorem parentText_rooted {p : String} {init : List (List Char)} {c : List Char}
    (hp : p.toList = '/' :: unsplit (init ++ [c])) (hc : Named c) :
    parentText p = String.ofList (if init = [] then [] else '/' :: unsplit init) := by
  unfold parentText
  rw [hp, rooted_reverse, dropWhile_slash_component hc.2.2 _ hc.1,
    dropWhile_not_slash_component hc.2.2]
  simp only [List.drop_one, List.tail_cons, parentRev_reverse]

/-- A rooted path written from named components has no trailing slash to drop. -/
theorem dropTrailingSlashes_rooted {p : String} {init : List (List Char)} {c : List Char}
    (hp : p.toList = '/' :: unsplit (init ++ [c])) (hc : Named c) : dropTrailingSlashes p = p := by
  have hdrop : p.toList.reverse.dropWhile (· == '/') = p.toList.reverse := by
    rw [hp, rooted_reverse, dropWhile_slash_component hc.2.2 _ hc.1]
  have hne : p.toList.reverse.isEmpty = false := by simp [hp]
  simp [dropTrailingSlashes, hdrop, hne]

/-- A clean absolute path never ends in `/.`. -/
theorem not_endsWith_slashDot {p : String} (hp : CleanAbs p) : p.endsWith "/." = false := by
  rw [Bool.eq_false_iff, ne_eq, endsWith_iff_suffix, ← List.reverse_prefix]
  intro hsuf
  rcases List.eq_nil_or_concat (components p.toList) with hnil | ⟨init, c, hcs⟩
  · rw [hp, hnil] at hsuf
    simpa [unsplit] using hsuf.length_le
  · rw [List.concat_eq_append] at hcs
    have hc := (hp.named c (by simp [hcs])).1
    rw [hp, hcs, rooted_reverse] at hsuf
    obtain ⟨last, crest, hcr⟩ : ∃ last crest, c.reverse = last :: crest :=
      List.exists_cons_of_ne_nil (by simpa using hc.1)
    rw [hcr] at hsuf
    cases crest with
    | nil =>
      have hlast : last = '.' := (by simpa using hsuf : '.' = last).symm
      apply hc.2.1
      rw [← List.reverse_reverse c, hcr, hlast]
      rfl
    | cons y ys =>
      have hy : y = '/' := (by simpa using hsuf : '.' = last ∧ '/' = y).2.symm
      apply hc.2.2
      rw [← List.mem_reverse, hcr, ← hy]
      simp

theorem isEmpty_eq_false_of_cleanAbs {p : String} (hp : CleanAbs p) : p.isEmpty = false :=
  Bool.eq_false_iff.2 fun he => by
    have hnil := congrArg String.toList (String.isEmpty_iff.1 he)
    rw [hp] at hnil
    simp at hnil

/-- A clean absolute path passes the guard of removal. -/
theorem removable_of_cleanAbs {p : String} (hp : CleanAbs p) :
    (p == "." || p.endsWith "/.") = false := by
  have hdot : p ≠ "." := fun h => by
    have hlist := congrArg String.toList h
    rw [hp] at hlist
    simp at hlist
  simp [hdot, not_endsWith_slashDot hp]

/-- A clean absolute path other than the root has a last component. -/
theorem exists_last_of_resolve_error {d : Disk} {p : String} (hp : CleanAbs p) {e : Errno}
    (h : d.resolve p = .error e) : ∃ init c, components p.toList = init ++ [c] := by
  rcases List.eq_nil_or_concat (components p.toList) with hnil | ⟨init, c, hcs⟩
  · have hroot := (resolve_rooted_iff (d := d) hp hp.named (location p)).2
      ⟨rfl, by simp [hnil, Reaches]⟩
    rw [h] at hroot
    cases hroot
  · exact ⟨init, c, by rw [hcs, List.concat_eq_append]⟩

end Cut

/-! ### Removing and making a clean absolute path -/

section Remove

variable {d d' : Disk} {p : String}

/-- A clean absolute path whose directories above are all there is removed by pruning its
location. -/
theorem removeAll_of_reaches (hp : CleanAbs p) (h : d.Reaches (location p)) :
    d.removeAll p = .ok ((d.prune (location p)).record (.remove (pathOf (location p)))) := by
  unfold removeAll
  rw [if_neg (by simp [isEmpty_eq_false_of_cleanAbs hp]), if_neg (by simp [removable_of_cleanAbs hp]),
    (resolve_rooted_iff hp hp.named (location p)).2 ⟨rfl, h⟩]

/-- **Removing a clean absolute path spares everything outside it.** On a well formed disk,
whichever way removal goes (the path resolves; it names nothing; or its parent is looked at
instead), a successful removal takes away exactly what lies at or under the path's location.
A path that does not resolve has a directory missing above it, so nothing lies under it. -/
theorem removeAll_spares (hwf : d.WellFormed) (hp : CleanAbs p) (h : d.removeAll p = .ok d') :
    Spares (location p) d d' := by
  have hstay : ∀ e, d.resolve p = .error e → Spares (location p) d d := fun e he =>
    spares_of_not_reaches hwf fun hreach => by
      rw [(resolve_rooted_iff hp hp.named (location p)).2 ⟨rfl, hreach⟩] at he
      cases he
  unfold removeAll at h
  rw [if_neg (by simp [isEmpty_eq_false_of_cleanAbs hp]), if_neg (by simp [removable_of_cleanAbs hp])] at h
  split at h
  · cases h
    exact hstay _ ‹_›
  · rename_i loc hloc
    obtain ⟨rfl, -⟩ := (resolve_rooted_iff hp hp.named loc).1 hloc
    cases h
    exact (spares_prune d _).record _
  · rename_i e _ hloc
    obtain ⟨init, c, hcs⟩ := exists_last_of_resolve_error hp hloc
    have hnamed : ∀ x ∈ init ++ [c], Named x ∧ x ≠ parentMark := hcs ▸ hp.named
    have hparent : (String.ofList ('/' :: unsplit init)).toList = '/' :: unsplit init := by simp
    have hinit : ∀ x ∈ init, Named x ∧ x ≠ parentMark := fun x hx => hnamed x (by simp [hx])
    rw [splitLast_rooted (hcs ▸ hp) fun x hx => (hnamed x hx).1] at h
    dsimp only at h
    split at h
    · cases h
      exact hstay e hloc
    · cases h
    · rename_i ploc hploc
      obtain ⟨rfl, -⟩ := (resolve_rooted_iff hparent hinit ploc).1 hploc
      split at h
      · cases h
        exact hstay e hloc
      · cases h
      · cases h
        have hc := hnamed c (by simp)
        rw [step_plain (plain_ofList hc.1 hc.2)]
        simpa [location, hcs] using (spares_prune d _).record _

/-- Making a directory that is already there changes nothing. -/
theorem mkdirAll_of_dir (h : d.stat p = .ok .dir) : d.mkdirAll p = .ok d := by
  simp [mkdirAll, mkdirAllFrom, h]

/-- Making a missing clean absolute path whose directories above are all there makes that one
directory. The root is always there, so the path has a last component, and climbing to the
directories above it makes nothing. -/
theorem mkdirAll_of_reaches (hp : CleanAbs p) (h : d.Reaches (location p))
    (hnone : d.find? (location p) = none) :
    d.mkdirAll p = .ok ((d.set (location p) .dir).record (.makeDir (pathOf (location p)))) := by
  obtain ⟨init, c, hcs⟩ : ∃ init c, components p.toList = init ++ [c] := by
    rcases List.eq_nil_or_concat (components p.toList) with hnil | ⟨init, c, hcs⟩
    · simp [location, hnil] at hnone
    · exact ⟨init, c, by rw [hcs, List.concat_eq_append]⟩
  have hp' : p.toList = '/' :: unsplit (init ++ [c]) := hcs ▸ hp
  have hnamed : ∀ x ∈ init ++ [c], Named x ∧ x ≠ parentMark := hcs ▸ hp.named
  have hc := (hnamed c (by simp)).1
  have hloc : location p = init.map String.ofList ++ [String.ofList c] := by simp [location, hcs]
  have habove : ∀ n, (parentText p).isEmpty = true ∨
      (parentText p).isEmpty = false ∧ mkdirAllFrom (n + 1) d (parentText p) = .ok d := by
    intro n
    rw [parentText_rooted hp' hc]
    by_cases hi : init = []
    · simp [hi]
    · have hparent : d.stat (String.ofList ('/' :: unsplit init)) = .ok .dir := by
        rw [@stat_rooted_iff d _ init (by simp) fun x hx => hnamed x (by simp [hx])]
        rw [hloc] at h
        exact ⟨h.mono (List.prefix_append _ _), h.find?_parent⟩
      have hne : (String.ofList ('/' :: unsplit init)).isEmpty = false := by simp
      simp only [if_neg hi]
      exact .inr ⟨hne, by simp only [mkdirAllFrom, hparent]⟩
  have hmkdir : d.mkdir p = .ok ((d.set (location p) .dir).record (.makeDir (pathOf (location p)))) := by
    unfold mkdir
    rw [dropTrailingSlashes_rooted hp' hc, (resolve_rooted_iff hp hp.named (location p)).2 ⟨rfl, h⟩]
    simp [bind, Except.bind, hnone]
  obtain ⟨n, hn⟩ : ∃ n, p.length = n + 1 :=
    ⟨p.toList.length - 1, by rw [← String.length_toList, hp']; simp⟩
  cases hs : d.stat p with
  | ok i =>
    rw [stat_eq_ok_iff hp, hnone] at hs
    cases hs.2
  | error e =>
    rw [mkdirAll, hn, mkdirAllFrom]
    simp only [hs, bind, Except.bind]
    rcases habove n with he | ⟨he, hm⟩
    · simp only [he, if_true, hmkdir]
    · simp only [he, Bool.false_eq_true, if_false, hm, hmkdir]

end Remove

/-! ### Files kept -/

section Files

variable {d d' : Disk} {p : String}

/-- Over a well formed disk, a disk it grows into has the same files at clean absolute paths. -/
theorem Grows.stat_file_iff (hwf : d.WellFormed) (h : Grows d d') (hp : CleanAbs p) (t : String) :
    d'.stat p = .ok (.file t) ↔ d.stat p = .ok (.file t) := by
  rw [hwf.stat_eq_ok_iff hp, Disk.stat_eq_ok_iff hp]
  constructor
  · exact fun hs => h.2 _ _ hs.2
  · intro hf
    exact ⟨fun k hk => h.1 _ _ (hwf.reaches hf k hk), h.1 _ _ hf⟩

/-- Over a well formed disk, a disk that spares what lies outside `L` has, at clean absolute
paths, the files of the first that lie outside `L`, and no others: the directories above such a
file lie outside `L` too. -/
theorem Spares.stat_file_iff {L : List String} (hwf : d.WellFormed) (h : Spares L d d')
    (hp : CleanAbs p) (t : String) :
    d'.stat p = .ok (.file t) ↔ ¬L <+: location p ∧ d.stat p = .ok (.file t) := by
  rw [hwf.stat_eq_ok_iff hp, Disk.stat_eq_ok_iff hp]
  constructor
  · exact fun hs => h.2 _ _ hs.2
  · rintro ⟨hL, hf⟩
    have habove : ∀ k, ¬L <+: (location p).take k := fun k hk => hL (hk.trans (List.take_prefix k _))
    exact ⟨fun k hk => h.1 _ _ (habove k) (hwf.reaches hf k hk), h.1 _ _ hL hf⟩

/-- **A file reads back what was written to it.** After a successful write of a text to a clean
absolute path, the path names a file holding that text. -/
theorem fileText?_writeFile {t : String} (hp : CleanAbs p) (h : d.writeFile p t = .ok d') :
    d'.fileText? p = some t := by
  unfold writeFile at h
  split at h
  · cases h
  · rename_i loc hloc
    obtain ⟨rfl, hreach⟩ := (resolve_rooted_iff hp hp.named loc).1 hloc
    split at h
    · cases h
    · rename_i hnotdir
      cases h
      change d.Reaches (location p) at hreach
      change d.find? (location p) = some .dir → False at hnotdir
      change ((d.set (location p) (.file t)).record (.write (pathOf (location p)) t)).fileText? p =
        some t
      have hne : location p ≠ [] := fun he => hnotdir (by rw [he]; rfl)
      have hstat : ((d.set (location p) (.file t)).record
          (.write (pathOf (location p)) t)).stat p = .ok (.file t) := by
        rw [stat_eq_ok_iff hp, find?_record, find?_set hne, if_pos rfl]
        exact ⟨hreach.set _, rfl⟩
      simp [fileText?, hstat]

end Files

end Disk

end CrossBuild
