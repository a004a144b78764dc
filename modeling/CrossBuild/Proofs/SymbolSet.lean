import Mathlib.Data.Finset.Card
import CrossBuild.Header.Symbols

/-!
# The two records of a symbol set agree

A symbol set keeps its names twice: in order, in an array, and as the keys of a map that marks
each with `true` and is made on the first addition. The two agree (`Symbols.Consistent`) when the
names are distinct and the map marks exactly them. A fresh set is consistent, and adding a name
keeps it so (`Symbols.Consistent.add`). In a consistent set the map says whether a name is new,
and a new name goes at the end (`Symbols.add_fst`, `Symbols.names_add`).

`Symbols.addAll_first_occurrences` follows for names added one by one to a fresh set. Each
addition reports its name new exactly when the name was not added before, and the set is
consistent after every addition. The set lists the names reported new, which are the distinct
names in the order they were first met, and its size is the number of distinct names.
-/

namespace CrossBuild.Header

namespace Symbols

/-- The map of a set as it is read: a map not made yet reads as the empty map. -/
def marks (s : Symbols) : Std.HashMap String Bool :=
  s.seen.getD ∅

/-- The array and the map of a set agree: the names are distinct, and the map marks each of
them `true` and has no other key. -/
structure Consistent (s : Symbols) : Prop where
  nodup : s.names.toList.Nodup
  marks_lookup : ∀ x, s.marks[x]? = if x ∈ s.names.toList then some true else none

theorem consistent_empty : ({} : Symbols).Consistent where
  nodup := List.nodup_nil
  marks_lookup _ := by simp [marks]

variable {s : Symbols}

/-- The map of a consistent set says whether a name is there. -/
theorem Consistent.marks_getD (h : s.Consistent) (x : String) :
    s.marks.getD x false = decide (x ∈ s.names.toList) := by
  rw [Std.HashMap.getD_eq_getD_getElem?, h.marks_lookup x]
  split <;> simp_all

theorem add_of_mem (h : s.Consistent) {x : String} (hx : x ∈ s.names.toList) :
    s.add x = (false, { s with seen := some s.marks }) := by
  have hmark : s.marks.getD x false = true := by simp [h.marks_getD, hx]
  simp only [add]
  rw [← marks, if_pos hmark]

theorem add_of_not_mem (h : s.Consistent) {x : String} (hx : x ∉ s.names.toList) :
    s.add x = (true, { names := s.names.push x, seen := some (s.marks.insert x true) }) := by
  have hmark : s.marks.getD x false = false := by simp [h.marks_getD, hx]
  simp only [add]
  rw [← marks, hmark]
  rfl

/-- Adding to a consistent set reports whether the name is new. -/
theorem add_fst (h : s.Consistent) (x : String) : (s.add x).1 = decide (x ∉ s.names.toList) := by
  by_cases hx : x ∈ s.names.toList
  · simp [add_of_mem h hx, hx]
  · simp [add_of_not_mem h hx, hx]

/-- Adding to a consistent set puts a new name at the end and keeps the names otherwise. -/
theorem names_add (h : s.Consistent) (x : String) :
    (s.add x).2.names.toList =
      if x ∈ s.names.toList then s.names.toList else s.names.toList ++ [x] := by
  by_cases hx : x ∈ s.names.toList
  · simp [add_of_mem h hx, hx]
  · simp [add_of_not_mem h hx, hx]

/-- **Adding a name keeps the two records in agreement.** The new mark answers for `x`, the old map
for every other name. -/
theorem Consistent.add (h : s.Consistent) (x : String) : (s.add x).2.Consistent := by
  by_cases hx : x ∈ s.names.toList
  · rw [add_of_mem h hx]
    exact ⟨h.nodup, h.marks_lookup⟩
  · rw [add_of_not_mem h hx]
    refine ⟨?_, fun y => ?_⟩
    · rw [Array.toList_push]
      refine List.nodup_append.2 ⟨h.nodup, List.nodup_singleton x, fun a ha b hb => ?_⟩
      rw [List.mem_singleton.1 hb]
      exact fun hax => hx (hax ▸ ha)
    · show (s.marks.insert x true)[y]? = if y ∈ (s.names.push x).toList then some true else none
      rw [Std.HashMap.getElem?_insert, Array.toList_push]
      by_cases hy : x = y
      · simp [hy]
      · rw [if_neg (by simpa using hy), h.marks_lookup y]
        by_cases hm : y ∈ s.names.toList <;> simp [hm, Ne.symm hy]

theorem addAll_cons (s : Symbols) (x : String) (xs : List String) :
    (s.addAll (x :: xs)).2 = ((s.add x).2.addAll xs).2 := rfl

theorem addAll_append (s : Symbols) (xs ys : List String) :
    (s.addAll (xs ++ ys)).2 = ((s.addAll xs).2.addAll ys).2 := by
  induction xs generalizing s with
  | nil => rfl
  | cons x xs ih => rw [List.cons_append, addAll_cons, addAll_cons, ih]

/-- Adding names one by one keeps a consistent set consistent. -/
theorem Consistent.addAll (h : s.Consistent) (xs : List String) : (s.addAll xs).2.Consistent := by
  induction xs generalizing s with
  | nil => exact h
  | cons x xs ih => rw [addAll_cons]; exact ih (h.add x)

/-- Adding names to a consistent set keeps the names already there, then adds each new name
once, in the order they are first met. -/
theorem names_addAll (h : s.Consistent) (xs : List String) :
    (s.addAll xs).2.names.toList = s.names.toList ++ (xs.removeAll s.names.toList).eraseDups := by
  induction xs generalizing s with
  | nil => simp [Symbols.addAll]
  | cons x xs ih =>
    rw [addAll_cons, ih (h.add x), names_add h]
    by_cases hx : x ∈ s.names.toList
    · have hdrop : (x :: xs).removeAll s.names.toList = xs.removeAll s.names.toList := by
        simp only [List.removeAll, List.filter_cons, List.elem_eq_mem, hx, decide_true,
          Bool.not_true, Bool.false_eq_true, if_false]
      rw [if_pos hx, hdrop]
    · have hkeep : (x :: xs).removeAll s.names.toList = x :: xs.removeAll s.names.toList := by
        simp only [List.removeAll, List.filter_cons, List.elem_eq_mem, hx, decide_false,
          Bool.not_false, if_true]
      have hfilter : xs.removeAll (s.names.toList ++ [x]) =
          (xs.removeAll s.names.toList).filter fun b => !b == x := by
        simp only [List.removeAll, List.filter_filter]
        apply List.filter_congr
        intro a _
        by_cases h1 : a ∈ s.names.toList <;> by_cases h2 : a = x <;> simp [h1, h2]
      rw [if_neg hx, hkeep, List.eraseDups_cons, ← hfilter]
      simp

/-- A fresh set lists the distinct names added, in the order they were first met. -/
theorem names_addAll_empty (xs : List String) :
    (({} : Symbols).addAll xs).2.names.toList = xs.eraseDups := by
  have hall : xs.filter (fun _ => true) = xs := List.filter_eq_self.2 fun _ _ => rfl
  simpa [List.removeAll, hall] using names_addAll consistent_empty xs

/-- Adding names to a consistent set reports each as new exactly when it is neither in the set nor
met earlier in the list. A name met earlier counts the same whether it went into the set or not. -/
theorem addAll_fst (h : s.Consistent) (xs : List String) :
    (s.addAll xs).1 = xs.mapIdx fun i x => decide (x ∉ s.names.toList ++ xs.take i) := by
  induction xs generalizing s with
  | nil => rfl
  | cons x xs ih =>
    show (s.add x).1 :: ((s.add x).2.addAll xs).1 = _
    rw [List.mapIdx_cons, add_fst h, ih (h.add x), names_add h]
    congr 1
    · simp
    · congr 1
      funext i y
      rw [List.take_succ_cons]
      by_cases hx : x ∈ s.names.toList <;> by_cases hyx : y = x <;> simp_all

/-- A consistent set, once names are added, lists the names it had, then the names the additions
reported new, in order. -/
theorem names_addAll_reported (h : s.Consistent) (xs : List String) :
    (s.addAll xs).2.names.toList =
      s.names.toList ++ ((xs.zip (s.addAll xs).1).filter (·.2)).map (·.1) := by
  induction xs generalizing s with
  | nil => simp [Symbols.addAll]
  | cons x xs ih =>
    show ((s.add x).2.addAll xs).2.names.toList = s.names.toList ++
      (((x :: xs).zip ((s.add x).1 :: ((s.add x).2.addAll xs).1)).filter (·.2)).map (·.1)
    rw [ih (h.add x), names_add h, add_fst h, List.zip_cons_cons, List.filter_cons]
    by_cases hx : x ∈ s.names.toList <;> simp [hx]

/-- A fresh set counts the distinct names added. -/
theorem size_addAll_empty (xs : List String) :
    (({} : Symbols).addAll xs).2.size = xs.toFinset.card := by
  have hnodup := (consistent_empty.addAll xs).nodup
  rw [names_addAll_empty] at hnodup
  have hset : xs.eraseDups.toFinset = xs.toFinset := by
    ext y
    simp [List.mem_eraseDups]
  rw [size, ← Array.length_toList, names_addAll_empty, ← List.toFinset_card_of_nodup hnodup, hset]

/-- **Adding names to a fresh set.** Each addition reports its name new exactly when the name was
not added before, and after every addition the array and the map of the set agree. The set lists
the names reported new, in order: the distinct names in the order they were first met. Its size
is the number of distinct names. -/
theorem addAll_first_occurrences (xs : List String) :
    (({} : Symbols).addAll xs).1 = xs.mapIdx (fun i x => decide (x ∉ xs.take i)) ∧
    (∀ k, (({} : Symbols).addAll (xs.take k)).2.Consistent) ∧
    (({} : Symbols).addAll xs).2.names.toList =
      ((xs.zip (({} : Symbols).addAll xs).1).filter (·.2)).map (·.1) ∧
    (({} : Symbols).addAll xs).2.names.toList = xs.eraseDups ∧
    (({} : Symbols).addAll xs).2.size = xs.toFinset.card := by
  refine ⟨?_, fun k => consistent_empty.addAll (xs.take k), ?_, names_addAll_empty xs,
    size_addAll_empty xs⟩
  · simpa using addAll_fst consistent_empty xs
  · simpa using names_addAll_reported consistent_empty xs

end Symbols

end CrossBuild.Header
