import CrossBuild.Proofs.DiskFrame

/-!
# Objects stay inside the build directory

The object of a source is the build directory joined with the source's path and `.o`
(`Resolver.objectPath`). The build directory may be any path here: absolute or relative, empty,
or one that climbs out with `..`.

The path lemmas behind this hold of every path, rooted or not. Cleaning keeps the components of
a path (`Path.components_cleanList_eq`) and whether it is rooted, so two paths with the same
components and the same root clean to the same text (`Path.cleanList_eq_of_components`). Joining
any path and a name that descends (`Path.Descends`: relative, with a component, never `..`) adds
the name's components to the path's (`Path.components_join_descends`), so the join is the path
joined with those components one by one (`Path.join_eq_join_components`). The directory of a
clean path has every component but the last (`Path.components_dir_clean`).

`Resolver.objectPath_inside_buildDir` puts these together: the object path fails exactly for a
source that is not local, and is otherwise the build directory joined with one or more named
components, none of them `..`. So it ends in `.o`, lies strictly inside the build directory, and
its directory, which is made before the compiler runs, is the build directory or lies inside it.
-/

namespace CrossBuild

namespace Path

theorem forall_named_components (s : List Char) : ∀ c ∈ components s, Named c :=
  fun _ hc => named_of_mem_components hc

/-- Pushing the entries of a well formed stack, bottom first, onto an empty unrooted stack builds
the stack again: `..` only ever lands on `..`. Below a `..` there is only `..`, so the top is `..`
or the stack is empty. -/
theorem foldl_push_stackOk_self :
    ∀ st : List (List Char), StackOk st → st.reverse.foldl (push false) [] = st
  | [], _ => rfl
  | c :: rest, h => by
    rw [List.reverse_cons, List.foldl_append, foldl_push_stackOk_self rest h.2.2, List.foldl_cons,
      List.foldl_nil]
    have hc := h.1
    unfold push
    rw [if_neg (by simpa [not_or] using ⟨hc.1, hc.2.1⟩)]
    by_cases hpm : c = parentMark
    · rw [if_pos hpm]
      cases rest with
      | nil => simp [hpm]
      | cons top rest =>
        have htop : top = parentMark := h.2.1 hpm top List.mem_cons_self
        simp [htop, hpm]
    · rw [if_neg hpm]

/-- Named components write a path without a leading slash, empty only when there are none. -/
theorem unsplit_eq_nil_iff {cs : List (List Char)} (h : ∀ c ∈ cs, Named c) :
    unsplit cs = [] ↔ cs = [] := by
  cases cs with
  | nil => simp [unsplit]
  | cons c rest =>
    have hc := (h c List.mem_cons_self).1
    cases rest with
    | nil => simpa [unsplit] using hc
    | cons d ds => simp [unsplit, hc]

/-- A well formed stack, written out, has its entries as components. -/
theorem components_unsplit {cs : List (List Char)} (h : StackOk cs.reverse) :
    components (unsplit cs) = cs := by
  have hnamed : ∀ c ∈ cs, Named c := fun c hc => h.named c (List.mem_reverse.2 hc)
  rw [components_of_rel (Disk.unsplit_head?_ne_slash hnamed),
    pieces_unsplit fun c hc => (hnamed c hc).2.2]
  split
  · rename_i hnil
    simp [hnil, push]
  · rw [← List.reverse_reverse cs, foldl_push_stackOk_self cs.reverse h, List.reverse_reverse]

/-- Cleaning keeps the components of a path, rooted or not. -/
theorem components_cleanList_eq (s : List Char) : components (cleanList s) = components s := by
  by_cases hs : s.head? = some '/'
  · exact components_cleanList hs
  · have hok := stackOk_components s
    have hnamed := forall_named_components s
    unfold cleanList
    rw [if_neg hs]
    split
    · rename_i hnil
      rw [(unsplit_eq_nil_iff hnamed).1 hnil]
      decide
    · exact components_unsplit hok

/-- Two paths with the same components, rooted alike, clean to the same text. -/
theorem cleanList_eq_of_components {s t : List Char} (hr : s.head? = some '/' ↔ t.head? = some '/')
    (hc : components s = components t) : cleanList s = cleanList t := by
  by_cases hs : s.head? = some '/'
  · rw [cleanList_of_rooted hs, cleanList_of_rooted (hr.1 hs), hc]
  · have ht : t.head? ≠ some '/' := fun h => hs (hr.2 h)
    simp only [cleanList, if_neg hs, if_neg ht, hc]

/-- A relative path that never climbs out, after any non-empty path, adds its components to the
first path's. The pieces of `b` land on the stack that the pieces of `a` leave, whatever its
root. -/
theorem components_append_of_ne_nil {a b : List Char} (ha : a ≠ []) (hb : b.head? ≠ some '/')
    (hpm : parentMark ∉ components b) :
    components (a ++ '/' :: b) = components a ++ components b := by
  have hhead : (a ++ '/' :: b).head? = a.head? := List.head?_append_of_ne_nil _ ha
  have hpm' : parentMark ∉ (pieces b).foldl (push false) [] := by
    simpa [components, hb] using hpm
  simp only [components, hhead, pieces_append, List.foldl_append]
  rw [show (pieces a).foldl (push (decide (a.head? = some '/'))) [] =
      [] ++ (pieces a).foldl (push (decide (a.head? = some '/'))) [] from rfl,
    foldl_push_append _ (pieces b) [] _ hpm']
  simp [hb]

/-- Joining a path and further parts, the first of them not empty: the parts written with slashes
between them after the path, or alone after an empty path, then cleaned. -/
theorem join_cons_toList (dir : String) {rest : List String} (hne : rest ≠ [])
    (hhead : ∀ x ∈ rest.head?, x ≠ "") :
    (join (dir :: rest)).toList = cleanList (if dir = "" then ("/".intercalate rest).toList
      else dir.toList ++ '/' :: ("/".intercalate rest).toList) := by
  obtain ⟨r, rs, rfl⟩ := List.exists_cons_of_ne_nil hne
  have hr : r ≠ "" := hhead r rfl
  by_cases hd : dir = ""
  · have hdrop : (dir :: r :: rs).dropWhile (· == "") = r :: rs := by
      rw [hd, List.dropWhile_cons_of_pos (by simp), List.dropWhile_cons_of_neg (by simpa using hr)]
    simp only [join, hdrop, if_pos hd, clean, String.toList_ofList]
  · have hdrop : (dir :: r :: rs).dropWhile (· == "") = dir :: r :: rs :=
      List.dropWhile_cons_of_neg (by simpa using hd)
    simp only [join, hdrop, if_neg hd, clean, String.toList_ofList,
      String.intercalate_cons_of_ne_nil (List.cons_ne_nil r rs), String.toList_append]
    simp

/-- Joining a path and a non-empty name: the name after the path and a slash, or alone after an
empty path, then cleaned. -/
theorem join_pair_toList (dir : String) {n : String} (hn : n ≠ "") :
    (join [dir, n]).toList =
      cleanList (if dir = "" then n.toList else dir.toList ++ '/' :: n.toList) := by
  rw [join_cons_toList dir (List.cons_ne_nil n []) (by simpa using hn), String.intercalate_singleton]

theorem ne_empty_of_descends {n : String} (hn : Descends n) : n ≠ "" := by
  rintro rfl
  exact hn.2.2 (by decide)

/-- **Joining adds components.** Joining any path, rooted, relative or empty, and a name that
descends gives the components of the path followed by those of the name. -/
theorem components_join_descends (dir : String) {n : String} (hn : Descends n) :
    components (join [dir, n]).toList = components dir.toList ++ components n.toList := by
  rw [join_pair_toList dir (ne_empty_of_descends hn), components_cleanList_eq]
  split
  · rename_i hd
    simp [hd, components, pieces, push]
  · exact components_append_of_ne_nil (by simpa using ‹¬dir = ""›) hn.1 hn.2.1

/-- Joining a path and a name that descends is joining the path and the name's components one
by one. -/
theorem join_eq_join_components (dir : String) {n : String} (hn : Descends n) :
    join [dir, n] = join (dir :: (components n.toList).map String.ofList) := by
  have hok := stackOk_components n.toList
  have hnamed := forall_named_components n.toList
  have hne : (components n.toList).map String.ofList ≠ [] := by simpa using hn.2.2
  have hhead : ∀ x ∈ ((components n.toList).map String.ofList).head?, x ≠ "" := by
    intro x hx
    rw [List.head?_map, Option.mem_def, Option.map_eq_some_iff] at hx
    obtain ⟨c, hc, rfl⟩ := hx
    have hc' := (hnamed c (List.mem_of_mem_head? hc)).1
    exact fun h => hc' (by simpa using congrArg String.toList h)
  have hwritten : ("/".intercalate ((components n.toList).map String.ofList)).toList =
      unsplit (components n.toList) := by
    rw [String.toList_intercalate, List.map_map, unsplit_eq_intercalate]
    simp
  have hrel : (unsplit (components n.toList)).head? ≠ some '/' := Disk.unsplit_head?_ne_slash hnamed
  have hcomp : components (unsplit (components n.toList)) = components n.toList :=
    components_unsplit hok
  apply String.toList_inj.1
  rw [join_pair_toList dir (ne_empty_of_descends hn), join_cons_toList dir hne hhead, hwritten]
  apply cleanList_eq_of_components
  · split
    · simp [hn.1, hrel]
    · have hd : dir.toList ≠ [] := by simpa using ‹¬dir = ""›
      rw [List.head?_append_of_ne_nil _ hd, List.head?_append_of_ne_nil _ hd]
  · split
    · exact hcomp.symm
    · have hd : dir.toList ≠ [] := by simpa using ‹¬dir = ""›
      rw [components_append_of_ne_nil hd hn.1 hn.2.1,
        components_append_of_ne_nil hd hrel (by rw [hcomp]; exact hn.2.1), hcomp]

/-- A slash at the end of a path adds an empty piece, which cleaning drops. -/
theorem components_append_slash {x : List Char} (hx : x ≠ []) :
    components (x ++ ['/']) = components x := by
  have hhead : (x ++ ['/']).head? = x.head? := List.head?_append_of_ne_nil _ hx
  have hpieces : pieces (x ++ ['/']) = pieces x ++ [[]] := pieces_append x []
  simp [components, hhead, hpieces, push]

theorem ne_slash_of_mem_reverse {c : List Char} (hc : '/' ∉ c) :
    ∀ x ∈ c.reverse, decide (x ≠ '/') = true :=
  fun _ hx => decide_eq_true fun h => hc (List.mem_reverse.1 (h ▸ hx))

/-- Read backwards, a path of slash-free text after a slash loses that text to the search for the
slash. -/
theorem dropWhile_ne_slash {c : List Char} (hc : '/' ∉ c) (q : List Char) :
    (c.reverse ++ '/' :: q).dropWhile (fun x => decide (x ≠ '/')) = '/' :: q := by
  rw [List.dropWhile_append_of_pos (ne_slash_of_mem_reverse hc)]
  simp

/-- **The directory of a clean path** has every component of the path but the last. With no
components the path is `/` or `.`; a rooted path loses its last component and keeps the slash before
it; a relative path keeps the components before the last, or none. -/
theorem components_dir_clean {p : String} {s : List Char} (hp : p.toList = cleanList s) :
    components (dir p).toList = (components s).dropLast := by
  have hok := stackOk_components s
  have hnamed := forall_named_components s
  simp only [dir, String.toList_ofList, components_cleanList_eq]
  rcases List.eq_nil_or_concat (components s) with hnil | ⟨init, c, hcs⟩
  · by_cases hs : s.head? = some '/'
    · rw [hp, cleanList_of_rooted hs, hnil]
      decide
    · rw [hp, cleanList, if_neg hs, hnil]
      decide
  · rw [List.concat_eq_append] at hcs
    have hc : Named c := hnamed c (by simp [hcs])
    have hinit : ∀ x ∈ init, Named x := fun x hx => hnamed x (by simp [hcs, hx])
    rw [hcs, List.dropLast_concat]
    by_cases hs : s.head? = some '/'
    · have hpm : ∀ x ∈ init, Named x ∧ x ≠ parentMark := fun x hx =>
        ⟨hinit x hx, fun h => parentMark_not_mem_components_of_rooted hs (by simp [hcs, ← h, hx])⟩
      rw [hp, cleanList_of_rooted hs, hcs, Disk.rooted_reverse, dropWhile_ne_slash hc.2.2,
        List.reverse_cons, Disk.parentRev_reverse]
      split
      · rename_i h
        subst h
        decide
      · rw [List.cons_append, ← List.cons_append, components_append_slash (List.cons_ne_nil _ _),
          components_rooted_unsplit hpm]
    · have hne : unsplit (init ++ [c]) ≠ [] :=
        fun h => by simpa using (unsplit_eq_nil_iff (by rwa [← hcs])).1 h
      rw [hp, cleanList, if_neg hs, hcs, if_neg hne, unsplit_append_single]
      split
      · rename_i h
        subst h
        rw [List.dropWhile_eq_nil_iff.2 (ne_slash_of_mem_reverse hc.2.2)]
        decide
      · rename_i h
        have hok' : StackOk init.reverse := by
          rw [hcs, List.reverse_append] at hok
          exact hok.2.2
        rw [List.reverse_append, List.reverse_cons, List.append_assoc, List.singleton_append,
          dropWhile_ne_slash hc.2.2, List.reverse_cons, List.reverse_reverse,
          components_append_slash (fun h' => h ((unsplit_eq_nil_iff hinit).1 h')),
          components_unsplit hok']

/-- A path joined with a name that descends lies strictly inside it, whatever the path. -/
theorem strictlyWithin_join_descends (dir : String) {n : String} (hn : Descends n) :
    StrictlyWithin (join [dir, n]) dir := by
  rw [StrictlyWithin, Within, Within, components_join_descends dir hn]
  refine ⟨List.prefix_append _ _, fun h => hn.2.2 ?_⟩
  have hlen := h.length_le
  rw [List.length_append] at hlen
  exact List.eq_nil_of_length_eq_zero (by omega)

/-- The directory of a path joined with a name that descends is the path or lies inside it. -/
theorem within_dir_join_descends (dir : String) {n : String} (hn : Descends n) :
    Within (Path.dir (join [dir, n])) dir := by
  have hjoin := join_pair_toList dir (ne_empty_of_descends hn)
  have hcomp := components_join_descends dir hn
  rw [hjoin, components_cleanList_eq] at hcomp
  rw [Within, components_dir_clean hjoin, hcomp,
    List.dropLast_append_of_ne_nil hn.2.2]
  exact List.prefix_append _ _

/-- A path whose last piece is a named component other than `..` cleans to a text that ends with
that piece. -/
theorem suffix_cleanList {s : List Char} {front : List (List Char)} {y : List Char}
    (hs : pieces s = front ++ [y]) (hy : Named y) (hpm : y ≠ parentMark) : y <:+ cleanList s := by
  obtain ⟨init, hcs⟩ : ∃ init, components s = init ++ [y] := by
    refine ⟨(front.foldl (push (decide (s.head? = some '/'))) []).reverse, ?_⟩
    simp [components, hs, push, hy.1, hy.2.1, hpm]
  have hbody : y <:+ unsplit (init ++ [y]) := by
    rw [unsplit_append_single]
    split
    · exact List.suffix_refl y
    · exact ⟨unsplit init ++ ['/'], by simp⟩
  unfold cleanList
  rw [hcs]
  split
  · exact hbody.trans (List.suffix_cons _ _)
  · rw [if_neg fun h : unsplit (init ++ [y]) = [] =>
      hy.1 (List.eq_nil_of_suffix_nil (h ▸ hbody))]
    exact hbody

end Path

namespace Resolver

open CrossBuild.Path

variable (r : Resolver) (rel : String)

theorem objectPath_eq_error_iff (f : Fault) :
    r.objectPath rel = .error f ↔ isLocal rel = false ∧ f = outsideFault rel := by
  unfold objectPath
  cases isLocal rel <;> simp [eq_comm]

theorem objectPath_eq_ok_iff (obj : String) :
    r.objectPath rel = .ok obj ↔ isLocal rel = true ∧ obj = join [r.buildDir, rel ++ ".o"] := by
  unfold objectPath objectFile
  cases isLocal rel <;> simp [eq_comm, objectSuffix]

/-- The object name of a local source descends. -/
theorem descends_objectName {rel : String} (h : isLocal rel = true) : Descends (rel ++ ".o") :=
  descends_append_objectSuffix (head?_ne_slash_of_isLocal h) (parentMark_not_mem_of_isLocal h)

/-- The object of a source ends in `.o`: the suffix makes the last piece a named component. The last
piece of what is cleaned is the last piece of the object name. -/
theorem objectFile_endsWith : (join [r.buildDir, rel ++ ".o"]).endsWith ".o" = true := by
  obtain ⟨front, last, hps⟩ : ∃ front last, pieces rel.toList = front ++ [last] := by
    rcases List.eq_nil_or_concat (pieces rel.toList) with hnil | ⟨front, last, hcat⟩
    · exact absurd hnil (pieces_ne_nil _)
    · exact ⟨front, last, by simpa using hcat⟩
  have hlast : '/' ∉ last :=
    slash_not_mem_of_mem_pieces (by rw [hps]; exact List.mem_append_right _ List.mem_cons_self)
  have hy := named_of_ending (c := last ++ ['.', 'o']) (by simpa using hlast) (by simp) (by simp)
  have hname : pieces (rel ++ ".o").toList = front ++ [last ++ ['.', 'o']] := by
    rw [String.toList_append]
    exact pieces_append_noslash hps (by decide)
  have hwhole : ∃ front', pieces (if r.buildDir = "" then (rel ++ ".o").toList
      else r.buildDir.toList ++ '/' :: (rel ++ ".o").toList) = front' ++ [last ++ ['.', 'o']] := by
    split
    · exact ⟨front, hname⟩
    · exact ⟨pieces r.buildDir.toList ++ front, by rw [pieces_append, hname, List.append_assoc]⟩
  obtain ⟨front', hwhole⟩ := hwhole
  rw [endsWith_iff_suffix, join_pair_toList _ (by simp)]
  exact (List.suffix_append last ['.', 'o']).trans (suffix_cleanList hwhole hy.1 hy.2)

/-- **Objects stay inside the build directory.** For any build directory, the object path of a
source fails exactly when the source is not local, with the fault that names it. Otherwise it is
the build directory joined with the source and `.o`, which ends in `.o` and is the build directory
joined with one or more named components, none of them `..`. So it lies strictly inside the build
directory, and the directory made for it is the build directory or lies inside it. -/
theorem objectPath_inside_buildDir :
    (∀ f, r.objectPath rel = .error f ↔ isLocal rel = false ∧ f = outsideFault rel) ∧
    (∀ obj, r.objectPath rel = .ok obj ↔
      isLocal rel = true ∧ obj = join [r.buildDir, rel ++ ".o"]) ∧
    (∀ obj, r.objectPath rel = .ok obj →
      obj.endsWith ".o" = true ∧
      (∃ cs : List String, cs ≠ [] ∧ (∀ c ∈ cs, Named c.toList ∧ c.toList ≠ parentMark) ∧
        obj = join (r.buildDir :: cs)) ∧
      StrictlyWithin obj r.buildDir ∧ Within (Path.dir obj) r.buildDir) := by
  refine ⟨objectPath_eq_error_iff r rel, objectPath_eq_ok_iff r rel, fun obj hobj => ?_⟩
  obtain ⟨hlocal, rfl⟩ := (objectPath_eq_ok_iff r rel obj).1 hobj
  have hn := descends_objectName hlocal
  refine ⟨objectFile_endsWith r rel, ⟨(components (rel ++ ".o").toList).map String.ofList,
    fun h => hn.2.2 (List.map_eq_nil_iff.1 h), fun c hc => ?_, join_eq_join_components r.buildDir hn⟩,
    strictlyWithin_join_descends r.buildDir hn, within_dir_join_descends r.buildDir hn⟩
  obtain ⟨x, hx, rfl⟩ := List.mem_map.1 hc
  rw [String.toList_ofList]
  exact ⟨named_of_mem_components hx, fun h => hn.2.1 (h ▸ hx)⟩

/-- A source whose last component is `..`, under the relative build directory `build`: its object
`build/src/...o` still lies strictly inside, and its directory `build/src` inside, the build
directory. -/
theorem parentSource_object_inside :
    ({ root := "/proj", buildDir := "build" } : Resolver).objectPath "src/.." =
      .ok "build/src/...o" ∧
    ("build/src/...o".endsWith ".o" = true ∧
      (∃ cs : List String, cs ≠ [] ∧ (∀ c ∈ cs, Named c.toList ∧ c.toList ≠ parentMark) ∧
        "build/src/...o" = join ("build" :: cs)) ∧
      StrictlyWithin "build/src/...o" "build" ∧ Within (Path.dir "build/src/...o") "build") := by
  have hobj : ({ root := "/proj", buildDir := "build" } : Resolver).objectPath "src/.." =
      .ok "build/src/...o" :=
    ((objectPath_inside_buildDir _ "src/..").2.1 _).2
      ⟨by simp +decide [isLocal, isAbs], by decide⟩
  exact ⟨hobj, (objectPath_inside_buildDir _ "src/..").2.2 _ hobj⟩

end Resolver

end CrossBuild
