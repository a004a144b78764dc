import Mathlib.Data.List.Sort
import Mathlib.Data.String.Basic
import CrossBuild.Env.Vars
import CrossBuild.Proofs.CommandLine

/-!
# The environment of a tool lists a map, sorted by name

`mergeEnv` builds the environment handed to a tool from a base list of `KEY=VALUE` entries and a
list of overrides. This module shows that it lists, as `KEY=VALUE` entries, the finite map that
the base entries and the overrides define (`mergedValue`). An entry is cut at its first `=`, and
an entry without one is dropped (`cutEntry_eq_some_iff`, `cutEntry_eq_none_iff`); the name may be
empty. A later entry for a name replaces an earlier one, and the overrides come last.

The names are listed in increasing order of their UTF-8 bytes, which is the order of their
characters (`bytewiseLt_iff`), since UTF-8 keeps the order of code points in the first byte where
two encodings differ (`utf8EncodeChar_lt_append`). Setting names one by one keeps each name once,
with the value set last (`Environment.lookup_setAll`), so the sorted listing is strictly
increasing and determined by the map alone (`mergedVars_eq_of_mergedValue`).

`mergeEnv_lists_mergedValue` gathers this. When no override name holds a `=`, cutting each entry
of the listing gives back its name and value, and merging the same overrides again changes
nothing.
-/

namespace CrossBuild

section ByteOrder

/-- One text comes before another in the order of their UTF-8 bytes. -/
def BytewiseLt (s t : String) : Prop :=
  s.toUTF8.data.toList < t.toUTF8.data.toList

/-- **UTF-8 keeps the order of characters.** The encoding of a smaller character is smaller in the
first byte where the two differ, whatever follows either. The encodings are digits of the code point
in base 64 under a marked leading byte; the digits nest, and the leading digits of the larger code
point are no smaller. The proof takes one case for each length of either encoding. -/
theorem utf8EncodeChar_lt_append {c d : Char} (h : c < d) (X Y : List UInt8) :
    String.utf8EncodeChar c ++ X < String.utf8EncodeChar d ++ Y := by
  have hd := Text.toNat_lt_of_char d
  have hlt : c.toNat < d.toNat := Char.lt_def.1 h
  have hc1 : c.toNat / 64 / 64 = c.toNat / 4096 := Nat.div_div_eq_div_mul _ _ _
  have hc2 : c.toNat / 4096 / 64 = c.toNat / 262144 := Nat.div_div_eq_div_mul _ _ _
  have hd1 : d.toNat / 64 / 64 = d.toNat / 4096 := Nat.div_div_eq_div_mul _ _ _
  have hd2 : d.toNat / 4096 / 64 = d.toNat / 262144 := Nat.div_div_eq_div_mul _ _ _
  have hm1 : c.toNat / 64 ≤ d.toNat / 64 := Nat.div_le_div_right (Nat.le_of_lt hlt)
  have hm2 : c.toNat / 4096 ≤ d.toNat / 4096 := Nat.div_le_div_right (Nat.le_of_lt hlt)
  have hm3 : c.toNat / 262144 ≤ d.toNat / 262144 := Nat.div_le_div_right (Nat.le_of_lt hlt)
  have hc4 : c.toNat / 262144 < 8 := by omega
  have hd4 : d.toNat / 262144 < 8 := by omega
  simp only [String.utf8EncodeChar, Char.toNat_val] at *
  split_ifs <;>
    simp (disch := simp only [UInt8.size]; omega) only [List.cons_append, List.nil_append,
      List.cons_lt_cons_iff, UInt8.lt_iff_toNat_lt, ← UInt8.toNat_inj, UInt8.toNat_ofNat_of_lt',
      Nat.mod_eq_of_lt hc4, Nat.mod_eq_of_lt hd4] <;>
    omega

/-- The bytes of a list of characters are in the order of the characters. -/
theorem bytesOf_lt_bytesOf {cs ds : List Char} (h : cs < ds) : bytesOf cs < bytesOf ds := by
  induction cs generalizing ds with
  | nil =>
    cases ds with
    | nil => exact absurd h (List.lt_irrefl [])
    | cons d ds =>
      obtain ⟨b, bs, hb⟩ := List.exists_cons_of_ne_nil (String.utf8EncodeChar_ne_nil (c := d))
      rw [bytesOf_cons, hb]
      exact List.nil_lt_cons b _
  | cons c cs ih =>
    cases ds with
    | nil => exact absurd h (List.not_lt_nil _)
    | cons d ds =>
      rw [bytesOf_cons, bytesOf_cons]
      rcases List.cons_lt_cons_iff.1 h with hcd | ⟨rfl, hrest⟩
      · exact utf8EncodeChar_lt_append hcd _ _
      · exact List.append_left_lt (ih hrest)

/-- **The order of UTF-8 bytes is the order of texts**, character by character. The byte order is a
strict order, so it cannot reverse the order of texts. -/
theorem bytewiseLt_iff {s t : String} : BytewiseLt s t ↔ s < t := by
  have hmono {s t : String} (h : s < t) : BytewiseLt s t := by
    rw [BytewiseLt, toUTF8_bytes, toUTF8_bytes]
    exact bytesOf_lt_bytesOf (String.lt_iff.1 h)
  refine ⟨fun h => ?_, hmono⟩
  rcases lt_trichotomy s t with hlt | rfl | hgt
  · exact hlt
  · exact absurd h (List.lt_irrefl _)
  · exact absurd (hmono hgt) (List.lt_asymm h)

end ByteOrder

section Cut

theorem eq_takeWhile_append_dropWhile {cs : List Char} (h : '=' ∈ cs) :
    cs = cs.takeWhile (· ≠ '=') ++ '=' :: (cs.dropWhile (· ≠ '=')).drop 1 := by
  induction cs with
  | nil => cases h
  | cons c cs ih =>
    by_cases hc : c = '='
    · simp [hc]
    · have hcs : '=' ∈ cs := (List.mem_cons.1 h).resolve_left (Ne.symm hc)
      simp only [List.takeWhile_cons, List.dropWhile_cons, ne_eq, hc, not_false_eq_true,
        decide_true, if_true, List.cons_append]
      exact congrArg (c :: ·) (ih hcs)

theorem not_mem_takeWhile (cs : List Char) : '=' ∉ cs.takeWhile (· ≠ '=') := by
  intro h
  simpa using List.all_eq_true.1 List.all_takeWhile '=' h

/-- An entry that has a `=` is cut at its first one. -/
theorem cutEntry_append {k v : String} (hk : '=' ∉ k.toList) :
    cutEntry (k ++ "=" ++ v) = some (k, v) := by
  have hall : ∀ c ∈ k.toList, decide (c ≠ '=') = true := fun c hc =>
    decide_eq_true fun h => hk (h ▸ hc)
  have htoList : (k ++ "=" ++ v).toList = k.toList ++ '=' :: v.toList := by
    simp [String.toList_append]
  simp only [cutEntry, htoList, List.takeWhile_append_of_pos hall, List.dropWhile_append_of_pos hall]
  simp

theorem cutEntry_eq_none_iff {kv : String} : cutEntry kv = none ↔ '=' ∉ kv.toList := by
  by_cases h : '=' ∈ kv.toList <;> simp [cutEntry, h]

/-- **Cutting an entry at its first `=`.** The name is all before it and holds no `=`; the value
is all after it. -/
theorem cutEntry_eq_some_iff {kv k v : String} :
    cutEntry kv = some (k, v) ↔ kv = k ++ "=" ++ v ∧ '=' ∉ k.toList := by
  constructor
  · intro h
    have hmem : '=' ∈ kv.toList := by
      by_contra hn
      rw [cutEntry_eq_none_iff.2 hn] at h
      cases h
    let k' := String.ofList (kv.toList.takeWhile (· ≠ '='))
    let v' := String.ofList ((kv.toList.dropWhile (· ≠ '=')).drop 1)
    have hk' : '=' ∉ k'.toList := by simpa [k'] using not_mem_takeWhile kv.toList
    have hkv : kv = k' ++ "=" ++ v' := by
      apply String.toList_injective
      simpa [String.toList_append, k', v'] using eq_takeWhile_append_dropWhile hmem
    rw [hkv, cutEntry_append hk', Option.some_inj, Prod.mk.injEq] at h
    obtain ⟨rfl, rfl⟩ := h
    exact ⟨hkv, hk'⟩
  · rintro ⟨rfl, hk⟩
    exact cutEntry_append hk

end Cut

section Lookup

variable {l : List (String × String)} {k : String}

@[simp] theorem lookup_cons_ite (l : List (String × String)) (k' v' x : String) :
    ((k', v') :: l).lookup x = if x = k' then some v' else l.lookup x := by
  by_cases h : x = k'
  · simp [h]
  · rw [List.lookup_cons, (beq_eq_false_iff_ne).2 h, if_neg h]

theorem lookup_eq_none_iff_not_mem : l.lookup k = none ↔ k ∉ l.map Prod.fst := by
  rw [List.lookup_eq_none_iff]
  simp only [bne_iff_ne, ne_eq, List.mem_map, not_exists, not_and]
  exact ⟨fun h p hp hpk => h p hp hpk.symm, fun h p hp hkp => h p hp hkp.symm⟩

theorem mem_of_lookup_eq_some {v : String} (h : l.lookup k = some v) : (k, v) ∈ l := by
  obtain ⟨l₁, l₂, rfl, -⟩ := List.lookup_eq_some_iff.1 h
  simp

/-- In a list that holds each name once, the value found for a name is the one paired with it. -/
theorem lookup_eq_some_iff_mem (hl : (l.map Prod.fst).Nodup) (v : String) :
    l.lookup k = some v ↔ (k, v) ∈ l := by
  refine ⟨mem_of_lookup_eq_some, fun hkv => ?_⟩
  induction l with
  | nil => cases hkv
  | cons p l ih =>
    obtain ⟨k', v'⟩ := p
    rw [List.map_cons, List.nodup_cons] at hl
    rcases List.mem_cons.1 hkv with heq | hmem
    · cases heq
      simp
    · have hk' : k' ∉ l.map Prod.fst := hl.1
      have hne : k ≠ k' := by
        rintro rfl
        exact hk' (List.mem_map_of_mem (f := Prod.fst) hmem)
      rw [lookup_cons_ite, if_neg hne, ih hl.2 hmem]

/-- A list that holds each name once, with the pairs of a partial map, finds the map's values. -/
theorem lookup_eq_of_mem_iff {f : String → Option String} (hl : (l.map Prod.fst).Nodup)
    (hf : ∀ k v, (k, v) ∈ l ↔ f k = some v) (k : String) : l.lookup k = f k := by
  cases h : f k with
  | some v => exact (lookup_eq_some_iff_mem hl v).2 ((hf k v).2 h)
  | none =>
    cases h' : l.lookup k with
    | none => rfl
    | some v =>
      rw [(hf k v).1 (mem_of_lookup_eq_some h')] at h
      cases h

theorem lookup_reverse (hl : (l.map Prod.fst).Nodup) : l.reverse.lookup k = l.lookup k := by
  have hr : (l.reverse.map Prod.fst).Nodup := by rw [List.map_reverse, List.nodup_reverse]; exact hl
  refine lookup_eq_of_mem_iff (f := fun k => l.lookup k) hr (fun k v => ?_) k
  rw [List.mem_reverse, lookup_eq_some_iff_mem hl]

end Lookup

namespace Environment

variable (e : Environment) (k v x : String)

/-- Giving every pair for a name a new value changes the value found for that name only. -/
theorem lookup_map_replace (vars : List (String × String)) :
    (vars.map fun (k', v') => if k' == k then (k', v) else (k', v')).lookup x =
      if x = k then (vars.lookup x).map fun _ => v else vars.lookup x := by
  induction vars with
  | nil => split <;> rfl
  | cons p vars ih =>
    obtain ⟨k', v'⟩ := p
    by_cases hk : k' = k
    · subst hk
      by_cases hx : x = k' <;> simp_all
    · have hk' : k ≠ k' := Ne.symm hk
      by_cases hx : x = k' <;> simp_all

/-- Where the name is there, every pair for it takes the new value; a new name goes at the end. -/
theorem lookup_set : (e.set k v).vars.lookup x = if x = k then some v else e.vars.lookup x := by
  by_cases hk : k ∈ e.vars.map Prod.fst
  · rw [set, if_pos (by simpa using hk), lookup_map_replace]
    obtain ⟨w, hw⟩ := Option.ne_none_iff_exists'.1 (mt lookup_eq_none_iff_not_mem.1 (not_not.2 hk))
    by_cases hx : x = k
    · subst hx
      simp [hw]
    · simp [hx]
  · rw [set, if_neg (by simpa using hk), List.lookup_append]
    by_cases hx : x = k
    · subst hx
      simp [lookup_eq_none_iff_not_mem.2 hk]
    · cases e.vars.lookup x <;> simp [hx]

theorem keys_set : (e.set k v).vars.map Prod.fst =
    if k ∈ e.vars.map Prod.fst then e.vars.map Prod.fst else e.vars.map Prod.fst ++ [k] := by
  by_cases hk : k ∈ e.vars.map Prod.fst
  · rw [set, if_pos (by simpa using hk), if_pos hk, List.map_map]
    apply List.map_congr_left
    intro p _
    by_cases h : p.1 = k <;> simp [h]
  · rw [set, if_neg (by simpa using hk), if_neg hk]
    simp

theorem nodup_keys_set (h : (e.vars.map Prod.fst).Nodup) : ((e.set k v).vars.map Prod.fst).Nodup := by
  rw [keys_set]
  split
  · exact h
  · rename_i hk
    exact List.nodup_append.2 ⟨h, List.nodup_singleton k, fun a ha b hb => by
      rw [List.mem_singleton.1 hb]; exact fun hab => hk (hab ▸ ha)⟩

theorem setAll_append (kvs kvs' : List (String × String)) :
    e.setAll (kvs ++ kvs') = (e.setAll kvs).setAll kvs' := by
  simp [setAll, List.foldl_append]

/-- **Setting names in order**: a name takes the value set for it last, and keeps its value if
none is set. -/
theorem lookup_setAll (kvs : List (String × String)) :
    (e.setAll kvs).vars.lookup x = (kvs.reverse.lookup x).or (e.vars.lookup x) := by
  induction kvs generalizing e with
  | nil => simp [setAll]
  | cons p kvs ih =>
    obtain ⟨k, v⟩ := p
    show ((e.set k v).setAll kvs).vars.lookup x = _
    rw [ih, lookup_set, List.reverse_cons, List.lookup_append, Option.or_assoc]
    by_cases hx : x = k <;> simp [hx]

theorem nodup_keys_setAll (kvs : List (String × String)) (h : (e.vars.map Prod.fst).Nodup) :
    ((e.setAll kvs).vars.map Prod.fst).Nodup := by
  induction kvs generalizing e with
  | nil => exact h
  | cons p kvs ih => exact ih _ (nodup_keys_set e p.1 p.2 h)

end Environment

section Merge

variable (base : List String) (override : List (String × String))

/-- The value the merged environment gives a name: that of the last entry for it among the base
entries that have a `=`, cut at the first one, followed by the overrides. -/
def mergedValue (k : String) : Option String :=
  (base.filterMap cutEntry ++ override).reverse.lookup k

/-- The pairs that the merged environment lists, in order. -/
def mergedVars : List (String × String) :=
  ((Environment.setAll {} (base.filterMap cutEntry)).setAll override).vars.mergeSort
    fun a b => a.1 ≤ b.1

theorem mergeEnv_eq_map : mergeEnv base override =
    (mergedVars base override).map fun kv => kv.1 ++ "=" ++ kv.2 := rfl

theorem mergedValue_eq (k : String) : mergedValue base override k =
    (override.reverse.lookup k).or ((base.filterMap cutEntry).reverse.lookup k) := by
  rw [mergedValue, List.reverse_append, List.lookup_append]

/-- Before it is sorted, the merged environment holds each name once. -/
theorem nodup_keys_merged :
    (((Environment.setAll {} (base.filterMap cutEntry)).setAll override).vars.map Prod.fst).Nodup := by
  rw [← Environment.setAll_append]
  exact Environment.nodup_keys_setAll _ _ List.nodup_nil

/-- Before it is sorted, the merged environment gives each name its merged value. -/
theorem lookup_merged (k : String) :
    ((Environment.setAll {} (base.filterMap cutEntry)).setAll override).vars.lookup k =
      mergedValue base override k := by
  rw [← Environment.setAll_append, Environment.lookup_setAll, mergedValue]
  simp

theorem mergedVars_perm : (mergedVars base override).Perm
    ((Environment.setAll {} (base.filterMap cutEntry)).setAll override).vars :=
  List.mergeSort_perm _ _

theorem nodup_keys_mergedVars : ((mergedVars base override).map Prod.fst).Nodup :=
  ((mergedVars_perm base override).map Prod.fst).nodup_iff.2 (nodup_keys_merged base override)

theorem mem_mergedVars_iff (k v : String) :
    (k, v) ∈ mergedVars base override ↔ mergedValue base override k = some v := by
  rw [(mergedVars_perm base override).mem_iff,
    ← lookup_eq_some_iff_mem (nodup_keys_merged base override), lookup_merged]

/-- The names of the merged environment are listed in strictly increasing order. Sorted by a total
order on distinct names, the names increase strictly. -/
theorem pairwise_lt_mergedVars : (mergedVars base override).Pairwise fun a b => a.1 < b.1 := by
  have hle : (mergedVars base override).Pairwise fun a b => decide (a.1 ≤ b.1) = true :=
    List.pairwise_mergeSort
      (fun a b c hab hbc => by simp only [decide_eq_true_eq] at *; exact le_trans hab hbc)
      (fun a b => by simpa using le_total a.1 b.1) _
  have hne := List.pairwise_map.1 (nodup_keys_mergedVars base override)
  exact (hle.and hne).imp fun ⟨hab, hne⟩ => lt_of_le_of_ne (by simpa using hab) hne

/-- A strict order relates no two pairs both ways, so a sorted listing has one order. -/
theorem mergedVars_eq_of_mergedValue {base' : List String} {override' : List (String × String)}
    (h : ∀ k, mergedValue base override k = mergedValue base' override' k) :
    mergedVars base override = mergedVars base' override' := by
  have hnodup {b o} : (mergedVars b o).Nodup :=
    List.nodup_iff_pairwise_ne.2 ((pairwise_lt_mergedVars b o).imp fun hab heq => by
      subst heq
      exact lt_irrefl _ hab)
  refine List.Perm.eq_of_pairwise ?_ (pairwise_lt_mergedVars _ _) (pairwise_lt_mergedVars _ _)
    ((List.perm_ext_iff_of_nodup hnodup hnodup).2 ?_)
  · exact fun a b _ _ hab hba => absurd hab (lt_asymm hba)
  · rintro ⟨k, v⟩
    rw [mem_mergedVars_iff, mem_mergedVars_iff, h]

variable {override}

/-- A name of the merged environment holds no `=` when no override name does. -/
theorem not_mem_of_mergedValue (hkeys : ∀ kv ∈ override, '=' ∉ kv.1.toList) {k v : String}
    (h : mergedValue base override k = some v) : '=' ∉ k.toList := by
  have hmem := List.mem_append.1 (List.mem_reverse.1 (mem_of_lookup_eq_some h))
  rcases hmem with hb | ho
  · obtain ⟨kv, -, hcut⟩ := List.mem_filterMap.1 hb
    exact (cutEntry_eq_some_iff.1 hcut).2
  · exact hkeys _ ho

/-- Cutting the entries of the merged environment gives back its pairs. -/
theorem map_cutEntry_mergeEnv (hkeys : ∀ kv ∈ override, '=' ∉ kv.1.toList) :
    (mergeEnv base override).map cutEntry = (mergedVars base override).map some := by
  rw [mergeEnv_eq_map, List.map_map]
  apply List.map_congr_left
  rintro ⟨k, v⟩ hkv
  exact cutEntry_append (not_mem_of_mergedValue base hkeys ((mem_mergedVars_iff _ _ k v).1 hkv))

/-- Merging the same overrides into a merged environment changes nothing. The listing gives each
name its merged value, so the overrides meet the values they set. -/
theorem mergeEnv_mergeEnv (hkeys : ∀ kv ∈ override, '=' ∉ kv.1.toList) :
    mergeEnv (mergeEnv base override) override = mergeEnv base override := by
  have hcut : (mergeEnv base override).filterMap cutEntry = mergedVars base override := by
    simpa [List.filterMap_map] using
      congrArg (List.filterMap id) (map_cutEntry_mergeEnv base hkeys)
  rw [mergeEnv_eq_map (mergeEnv base override)]
  conv_rhs => rw [mergeEnv_eq_map]
  congr 1
  apply mergedVars_eq_of_mergedValue
  intro k
  have hnodup := nodup_keys_mergedVars base override
  have hlist : (mergedVars base override).reverse.lookup k = mergedValue base override k := by
    rw [lookup_reverse hnodup]
    exact lookup_eq_of_mem_iff hnodup (mem_mergedVars_iff _ _) k
  rw [mergedValue_eq, hcut, hlist, mergedValue_eq, ← Option.or_assoc, Option.or_self]

/-- **The environment of a tool lists the merged map, sorted by name.** An entry is cut at its
first `=` into a name without `=` and a value, and an entry without `=` is dropped. The merged
environment lists each name of the map once, with its value, in strictly increasing order of the
UTF-8 bytes of the names; the overrides win over the base entries. When no override name holds a
`=`, cutting each listed entry gives back its name and value, and merging the same overrides again
changes nothing. -/
theorem mergeEnv_lists_mergedValue (hkeys : ∀ kv ∈ override, '=' ∉ kv.1.toList) :
    (∀ kv k v, cutEntry kv = some (k, v) ↔ kv = k ++ "=" ++ v ∧ '=' ∉ k.toList) ∧
    (∀ kv, cutEntry kv = none ↔ '=' ∉ kv.toList) ∧
    ∃ vars : List (String × String),
      mergeEnv base override = vars.map (fun kv => kv.1 ++ "=" ++ kv.2) ∧
      vars.Pairwise (fun a b => BytewiseLt a.1 b.1) ∧
      (vars.map Prod.fst).Nodup ∧
      (∀ k v, (k, v) ∈ vars ↔ mergedValue base override k = some v) ∧
      (mergeEnv base override).map cutEntry = vars.map some ∧
      (∀ k v, override.reverse.lookup k = some v → (k, v) ∈ vars) ∧
      mergeEnv (mergeEnv base override) override = mergeEnv base override := by
  refine ⟨fun _ _ _ => cutEntry_eq_some_iff, fun _ => cutEntry_eq_none_iff, mergedVars base override,
    mergeEnv_eq_map base override, ?_, nodup_keys_mergedVars base override,
    mem_mergedVars_iff base override, map_cutEntry_mergeEnv base hkeys, fun k v hk => ?_,
    mergeEnv_mergeEnv base hkeys⟩
  · exact (pairwise_lt_mergedVars base override).imp bytewiseLt_iff.2
  · rw [mem_mergedVars_iff, mergedValue_eq, hk, Option.some_or]

/-- Overrides for a name set twice in the base, beside an entry without `=`, one with the empty
name and one whose value holds a `=`: merging them again changes nothing. -/
theorem mergeEnv_override_again :
    (∀ kv ∈ [("PATH", "/opt/bin"), ("CC", "clang")], '=' ∉ kv.1.toList) ∧
    mergeEnv (mergeEnv ["PATH=/bin", "=x", "OPT=a=b", "broken", "PATH=/usr/bin"]
        [("PATH", "/opt/bin"), ("CC", "clang")]) [("PATH", "/opt/bin"), ("CC", "clang")] =
      mergeEnv ["PATH=/bin", "=x", "OPT=a=b", "broken", "PATH=/usr/bin"]
        [("PATH", "/opt/bin"), ("CC", "clang")] := by
  have hkeys : ∀ kv ∈ [("PATH", "/opt/bin"), ("CC", "clang")], '=' ∉ kv.1.toList := by decide
  obtain ⟨-, -, -, -, -, -, -, -, -, hagain⟩ :=
    mergeEnv_lists_mergedValue ["PATH=/bin", "=x", "OPT=a=b", "broken", "PATH=/usr/bin"] hkeys
  exact ⟨hkeys, hagain⟩

end Merge

end CrossBuild
