import Mathlib.Data.List.Nodup
import Mathlib.Data.List.TakeWhile
import CrossBuild.Record
import CrossBuild.Proofs.BuildDir

/-!
# Where the outputs of a build land, and when two of them meet

A build writes an object for each source (`Resolver.objectFile`), the seven paths of its artifact
set (`Resolver.artifacts`) and its record. Under a checked manifest and an absolute project root,
each of them is the build directory joined with a name (`Manifest.outputNames`,
`Resolver.outputs_eq_map_join`):

| output | name under the build directory |
|---|---|
| object of source `s` | `s.o` |
| image, signed image, module, archive, stub library | `NAME.elf`, `NAME.oelf`, `NAME.prx`, `NAME.a`, `NAME.so` |
| stub source | the stub source file name `SRC` |
| stub object | `SRC` without its extension, then `.o` (`stubObjectName`) |
| record | `.build.json` |

The one exception is a stub source of `.` or `..`, which the checks let through: the stub source
is then the build directory itself or its parent, and the stub object lies beside one of them.
Every other name descends below the build directory (`Path.Descends`), so the outputs meet (one is
the other or lies inside it) exactly when their names do (`Path.apart_join_iff`). The names meet in
four ways only, none of which the checks look at: the stub source is named like a final output
or the record, or ends in `.o` and so is its own object (`Manifest.fixedNames_nodup_iff`); an
object's name is at, inside or above one of the other names; or two objects' names meet, as those
of `a.cpp` and `./a.cpp` do, or those of `a` and `a.o/b`. `outputs_apart_iff` puts this together.
-/

namespace CrossBuild

open CrossBuild.Path

namespace Path

/-- Two paths are apart when neither is the other or lies inside it. -/
def Apart (a b : String) : Prop :=
  ¬Within a b ∧ ¬Within b a

/-- A path lies strictly inside a directory: inside it, and not the directory itself. -/
def StrictlyWithin (p dir : String) : Prop :=
  Within p dir ∧ ¬Within dir p

/-- A name that goes at least one level down and never up: it is relative, has a component, and
none of its components is `..`. -/
def Descends (n : String) : Prop :=
  n.toList.head? ≠ some '/' ∧ parentMark ∉ components n.toList ∧ components n.toList ≠ []

section Components

/-- A path written from components ends with the last of them. -/
theorem unsplit_append_single : ∀ (cs : List (List Char)) (y : List Char),
    unsplit (cs ++ [y]) = if cs = [] then y else unsplit cs ++ '/' :: y
  | [], _ => rfl
  | [_], _ => rfl
  | c :: d :: ds, y => by
    have hrest := unsplit_append_single (d :: ds) y
    rw [if_neg (List.cons_ne_nil d ds)] at hrest
    show c ++ '/' :: unsplit (d :: ds ++ [y]) = _
    rw [hrest, if_neg (List.cons_ne_nil c _)]
    simp [unsplit]

theorem unsplit_append_last (cs : List (List Char)) (a b : List Char) :
    unsplit (cs ++ [a ++ b]) = unsplit (cs ++ [a]) ++ b := by
  rw [unsplit_append_single, unsplit_append_single]
  split <;> simp

theorem pieces_ne_nil (s : List Char) : pieces s ≠ [] :=
  List.splitOn_ne_nil _ _

/-- Text without a slash appended to a path extends its last piece. -/
theorem pieces_append_noslash {s x last : List Char} {front : List (List Char)}
    (hs : pieces s = front ++ [last]) (hx : '/' ∉ x) : pieces (s ++ x) = front ++ [last ++ x] := by
  have hnoslash : ∀ p ∈ front ++ [last ++ x], '/' ∉ p := by
    intro p hp
    rcases List.mem_append.1 hp with hp | hp
    · exact slash_not_mem_of_mem_pieces (by rw [hs]; exact List.mem_append_left _ hp)
    · rw [List.mem_singleton.1 hp, List.mem_append, not_or]
      exact ⟨slash_not_mem_of_mem_pieces (by rw [hs]; exact List.mem_append_right _ List.mem_cons_self), hx⟩
  have hjoin : s ++ x = unsplit (front ++ [last ++ x]) := by
    rw [unsplit_append_last, ← hs, unsplit_eq_intercalate, pieces, List.intercalate_splitOn]
  rw [hjoin, pieces, unsplit_eq_intercalate]
  exact List.splitOn_intercalate '/' hnoslash (by simp)

/-- A slash-free component of two characters or more that does not end in `.` is named, and is
not `..`. -/
theorem named_of_ending {c : List Char} (hslash : '/' ∉ c) (hlen : 2 ≤ c.length)
    (hlast : c.getLast? ≠ some '.') : Named c ∧ c ≠ parentMark := by
  refine ⟨⟨fun h => by simp [h] at hlen, fun h => by simp [h] at hlen, hslash⟩, fun h => hlast ?_⟩
  rw [h]
  rfl

/-- A named component other than `..` is its own only component. -/
theorem components_single {c : List Char} (hc : Named c) (hpm : c ≠ parentMark) :
    components c = [c] := by
  have hhead : c.head? ≠ some '/' := fun h => hc.2.2 (List.mem_of_mem_head? h)
  have hpieces : pieces c = [c] := List.splitOn_eq_singleton hc.2.2
  have hpush : push false [] c = [c] := by simp [push, hc.1, hc.2.1, hpm]
  simp [components, hpieces, hhead, hpush]

theorem descends_of_named {n : String} (hn : Named n.toList) (hpm : n.toList ≠ parentMark) :
    Descends n := by
  refine ⟨fun h => hn.2.2 (List.mem_of_mem_head? h), ?_, ?_⟩ <;> rw [components_single hn hpm]
  · simpa using Ne.symm hpm
  · exact List.cons_ne_nil _ _

theorem components_of_rel {s : List Char} (hs : s.head? ≠ some '/') :
    components s = ((pieces s).foldl (push false) []).reverse := by
  simp [components, hs]

/-- A relative path that never climbs out still descends once `.o` is appended: the suffix extends
its last piece into a named component. The front pieces leave no `..` on the stack, or `s` would
keep it at the bottom. -/
theorem descends_append_objectSuffix {s : String} (hs : s.toList.head? ≠ some '/')
    (hpm : parentMark ∉ components s.toList) : Descends (s ++ objectSuffix) := by
  have hsuffix : objectSuffix.toList = ['.', 'o'] := rfl
  obtain ⟨front, last, hps⟩ : ∃ front last, pieces s.toList = front ++ [last] := by
    rcases List.eq_nil_or_concat (pieces s.toList) with h | ⟨front, last, h⟩
    · exact absurd h (pieces_ne_nil _)
    · exact ⟨front, last, by simpa using h⟩
  have hlastSlash : '/' ∉ last :=
    slash_not_mem_of_mem_pieces (by rw [hps]; exact List.mem_append_right _ List.mem_cons_self)
  have hlast : Named (last ++ ['.', 'o']) ∧ last ++ ['.', 'o'] ≠ parentMark :=
    named_of_ending (by simpa using hlastSlash) (by simp) (by simp)
  have hrel : (s ++ objectSuffix).toList.head? ≠ some '/' := by
    rw [String.toList_append, hsuffix]
    cases h : s.toList with
    | nil => simp
    | cons c cs => rw [h] at hs; simpa using hs
  have hfront : parentMark ∉ front.foldl (push false) [] := by
    intro hmem
    have hok : StackOk (front.foldl (push false) []) :=
      foldl_push_stackOk _ (fun p hp => slash_not_mem_of_mem_pieces
        (by rw [hps]; exact List.mem_append_left _ hp)) trivial
    obtain ⟨ys, hys⟩ := List.getLast?_eq_some_iff.1 (hok.getLast?_of_mem hmem)
    obtain ⟨zs, hzs⟩ := foldl_push_parent_bottom [last] ys
    apply hpm
    rw [components_of_rel hs, hps, List.foldl_append, hys, hzs]
    simp
  have hcomp : components (s ++ objectSuffix).toList =
      (front.foldl (push false) []).reverse ++ [last ++ ['.', 'o']] := by
    have hpush : push false (front.foldl (push false) []) (last ++ ['.', 'o']) =
        (last ++ ['.', 'o']) :: front.foldl (push false) [] := by
      simp [push, hlast.1.1, hlast.1.2.1, hlast.2]
    rw [components_of_rel hrel, String.toList_append, hsuffix,
      pieces_append_noslash hps (by simp), List.foldl_append, List.foldl_cons, List.foldl_nil, hpush,
      List.reverse_cons]
  refine ⟨hrel, ?_, ?_⟩ <;> rw [hcomp]
  · simp only [List.mem_append, List.mem_reverse, List.mem_singleton, not_or]
    exact ⟨hfront, Ne.symm hlast.2⟩
  · simp

/-- An absolute path joined with a relative one that never climbs out, as written. -/
theorem join_toList {dir p : String} (hdir : isAbs dir = true) (hrel : p.toList.head? ≠ some '/')
    (hpm : parentMark ∉ components p.toList) :
    (join [dir, p]).toList = '/' :: unsplit (components dir.toList ++ components p.toList) := by
  have hhead := isAbs_iff.1 hdir
  have hne : dir ≠ "" := fun h => by simp [h] at hhead
  have hrooted : (dir.toList ++ '/' :: p.toList).head? = some '/' := by
    rw [List.head?_append, hhead]
    rfl
  rw [join_pair hne, clean, String.toList_ofList,
    show (dir ++ "/" ++ p).toList = dir.toList ++ '/' :: p.toList by simp,
    cleanList_of_rooted hrooted, components_append hhead hrel hpm]

theorem join_single_toList {dir n : String} (hdir : isAbs dir = true) (hn : Named n.toList)
    (hpm : n.toList ≠ parentMark) :
    (join [dir, n]).toList = '/' :: unsplit (components dir.toList ++ [n.toList]) := by
  have hd := descends_of_named hn hpm
  rw [join_toList hdir hd.1 hd.2.1, components_single hn hpm]

/-- A name extended by a slash-free ending of two characters or more that does not end in `.` is
named, and is not `..`. -/
theorem named_append_ending {n x : List Char} (hn : '/' ∉ n) (hslash : '/' ∉ x)
    (hlen : 2 ≤ x.length) (hlast : x.getLast? ≠ some '.') : Named (n ++ x) ∧ n ++ x ≠ parentMark := by
  have hne : x ≠ [] := fun h => by simp [h] at hlen
  apply named_of_ending
  · simpa using ⟨hn, hslash⟩
  · rw [List.length_append]
    omega
  · rwa [List.getLast?_append_of_ne_nil _ hne]

/-- Text appended to a path joined with a name is the path joined with the longer name. -/
theorem join_single_append {dir n x : String} (hdir : isAbs dir = true) (hn : Named n.toList)
    (hpm : n.toList ≠ parentMark) (hslash : '/' ∉ x.toList) (hlen : 2 ≤ x.toList.length)
    (hlast : x.toList.getLast? ≠ some '.') : join [dir, n] ++ x = join [dir, n ++ x] := by
  have hx := named_append_ending hn.2.2 hslash hlen hlast
  rw [← String.toList_append] at hx
  rw [← String.toList_inj, String.toList_append, join_single_toList hdir hn hpm,
    join_single_toList hdir hx.1 hx.2, String.toList_append, unsplit_append_last, List.cons_append]

/-- The components of a path joined with a name that descends. -/
theorem components_join_of_descends {dir n : String} (hdir : isAbs dir = true) (hn : Descends n) :
    components (join [dir, n]).toList = components dir.toList ++ components n.toList :=
  components_join_of_rel hdir hn.1 hn.2.1

theorem isAbs_join_of_rel {dir p : String} (hdir : isAbs dir = true)
    (hrel : p.toList.head? ≠ some '/') (hpm : parentMark ∉ components p.toList) :
    isAbs (join [dir, p]) = true := by
  rw [isAbs_iff, join_toList hdir hrel hpm]
  rfl

/-- A path joined with a name that descends lies strictly inside it. -/
theorem strictlyWithin_join {dir n : String} (hdir : isAbs dir = true) (hn : Descends n) :
    StrictlyWithin (join [dir, n]) dir := by
  rw [StrictlyWithin, Within, Within, components_join_of_descends hdir hn]
  refine ⟨List.prefix_append _ _, fun h => hn.2.2 ?_⟩
  have hlen := h.length_le
  rw [List.length_append] at hlen
  exact List.eq_nil_of_length_eq_zero (by omega)

/-- Two paths joined with names that descend meet exactly when the names do. -/
theorem apart_join_iff {dir a b : String} (hdir : isAbs dir = true) (ha : Descends a)
    (hb : Descends b) : Apart (join [dir, a]) (join [dir, b]) ↔ Apart a b := by
  simp only [Apart, Within, components_join_of_descends hdir ha, components_join_of_descends hdir hb,
    List.prefix_append_right_inj]

/-- Paths joined with names that descend meet pairwise exactly when the names do. -/
theorem pairwise_apart_join_iff {dir : String} {names : List String} (hdir : isAbs dir = true)
    (hd : ∀ n ∈ names, Descends n) :
    (names.map fun n => join [dir, n]).Pairwise Apart ↔ names.Pairwise Apart := by
  rw [List.pairwise_map]
  exact List.Pairwise.iff_of_mem fun ha hb => apart_join_iff hdir (hd _ ha) (hd _ hb)

/-- Names of one component meet only when they are equal. -/
theorem apart_single_iff {a b : String} (ha : components a.toList = [a.toList])
    (hb : components b.toList = [b.toList]) : Apart a b ↔ a ≠ b := by
  have hsingle : ∀ x y : String, [x.toList] <+: [y.toList] ↔ x = y := fun x y =>
    ⟨fun h => String.toList_inj.1 (by simpa using h.eq_of_length rfl), fun h => h ▸ List.prefix_refl _⟩
  rw [Apart, Within, Within, ha, hb, hsingle, hsingle]
  exact ⟨fun h => h.2, fun h => ⟨Ne.symm h, h⟩⟩

/-- A `..` after a rooted stack pops its top, which is never `..`. -/
theorem push_rooted_parentMark {st : List (List Char)} (h : parentMark ∉ st) :
    push true st parentMark = st.tail := by
  unfold push
  rw [if_neg (by decide), if_pos rfl]
  cases st with
  | nil => rfl
  | cons top rest =>
    have htop : top ≠ parentMark := fun ht => h (by rw [ht]; exact List.mem_cons_self)
    simp [htop]

/-- The components of an absolute path with a relative one after it: the pieces of the second
folded over the components of the first. -/
theorem components_rooted_append {a b : List Char} (ha : a.head? = some '/') :
    components (a ++ '/' :: b) = ((pieces b).foldl (push true) (components a).reverse).reverse := by
  have hhead : (a ++ '/' :: b).head? = some '/' := by
    rw [List.head?_append, ha]
    rfl
  simp only [components, hhead, ha, decide_true, pieces_append, List.foldl_append,
    List.reverse_reverse]

/-- Joining `.` or `..` does not go below the directory. `.` leaves the stack alone and `..` pops
its top. -/
theorem components_join_dots_starts {dir p : String} (hdir : isAbs dir = true) (hp : p = "." ∨ p = "..") :
    components (join [dir, p]).toList <+: components dir.toList := by
  have hhead := isAbs_iff.1 hdir
  have hne : dir ≠ "" := fun h => by simp [h] at hhead
  have hrooted : (dir.toList ++ '/' :: p.toList).head? = some '/' := by
    rw [List.head?_append, hhead]
    rfl
  rw [join_pair hne, clean, String.toList_ofList,
    show (dir ++ "/" ++ p).toList = dir.toList ++ '/' :: p.toList by simp,
    components_cleanList hrooted, components_rooted_append hhead]
  rcases hp with rfl | rfl
  · have hdot : pieces (String.toList ".") = [['.']] := List.splitOn_eq_singleton (by decide)
    rw [hdot, List.foldl_cons, List.foldl_nil,
      show push true (components dir.toList).reverse ['.'] = (components dir.toList).reverse by
        simp [push]]
    exact ⟨[], by rw [List.reverse_reverse, List.append_nil]⟩
  · have hdots : pieces (String.toList "..") = [parentMark] := List.splitOn_eq_singleton (by decide)
    have hpm : parentMark ∉ (components dir.toList).reverse := by
      rw [List.mem_reverse]
      exact parentMark_not_mem_components_of_rooted hhead
    rw [hdots, List.foldl_cons, List.foldl_nil, push_rooted_parentMark hpm, ← List.dropLast_reverse,
      List.reverse_reverse]
    exact List.dropLast_prefix _

end Components

section Suffixes

theorem endsWith_iff_suffix {s pat : String} : s.endsWith pat = true ↔ pat.toList <:+ s.toList := by
  rw [String.endsWith_eq_endsWith_toSlice, String.Slice.endsWith_string_iff, String.copy_toSlice]

/-- Dropping a suffix that a path ends with leaves what stands before it. -/
theorem dropSuffix_of_toList {s e : String} {a : List Char} (h : s.toList = a ++ e.toList) :
    dropSuffix s e = String.ofList a := by
  have hends : s.endsWith e = true := endsWith_iff_suffix.2 ⟨a, h.symm⟩
  rw [dropSuffix, if_pos hends, ← String.length_toList, ← String.length_toList, h]
  simp

theorem dropSuffix_starts (s e : String) : (dropSuffix s e).toList <+: s.toList := by
  unfold dropSuffix
  split
  · rw [String.toList_ofList]
    exact List.take_prefix _ _
  · exact List.prefix_refl _

/-- The text before the first `.` of a list, with the `.`, starts the list. -/
theorem takeWhile_dot_starts {l : List Char} (h : '.' ∈ l) :
    l.takeWhile (· ≠ '.') ++ ['.'] <+: l := by
  obtain ⟨rest, hrest⟩ : ∃ rest, l.dropWhile (· ≠ '.') = '.' :: rest := by
    cases hd : l.dropWhile (· ≠ '.') with
    | nil =>
      rw [List.dropWhile_eq_nil_iff] at hd
      exact absurd (hd '.' h) (by simp)
    | cons c rest =>
      have hc := List.head_dropWhile_not (fun c => decide (c ≠ '.')) (l := l)
        (by rw [hd]; exact List.cons_ne_nil _ _)
      simp only [hd, List.head_cons, decide_eq_false_iff_not, not_not] at hc
      exact ⟨rest, by rw [hc]⟩
  have hsplit := List.takeWhile_append_dropWhile (p := fun c => decide (c ≠ '.')) (l := l)
  rw [hrest] at hsplit
  exact ⟨rest, by rw [List.append_assoc, List.singleton_append]; exact hsplit⟩

/-- The extension of a path ends it. -/
theorem ext_suffix (s : String) : (ext s).toList <:+ s.toList := by
  unfold ext
  dsimp only
  split
  · rename_i hdot
    rw [String.toList_ofList, ← List.reverse_prefix, List.reverse_cons, List.reverse_reverse]
    exact (takeWhile_dot_starts (by simpa using hdot)).trans (List.takeWhile_prefix _)
  · exact List.nil_suffix

/-- The extension of a path is that of its last component. -/
theorem ext_slash_append {pre c : List Char} (hc : '/' ∉ c) :
    ext (String.ofList (pre ++ '/' :: c)) = ext (String.ofList c) := by
  have hnot : ∀ x ∈ c.reverse, decide (x ≠ '/') = true := fun x hx => by
    simpa using fun h => hc (by rw [← h]; exact List.mem_reverse.1 hx)
  have hlong : (pre ++ '/' :: c).reverse.takeWhile (· ≠ '/') = c.reverse := by
    rw [List.reverse_append, List.reverse_cons, List.append_assoc, List.singleton_append,
      List.takeWhile_append_of_pos hnot]
    simp
  have hshort : c.reverse.takeWhile (· ≠ '/') = c.reverse := List.takeWhile_eq_self_iff.2 hnot
  simp only [ext, String.toList_ofList, hlong, hshort]

theorem ext_join_single {dir n : String} (hdir : isAbs dir = true) (hn : Named n.toList)
    (hpm : n.toList ≠ parentMark) : ext (join [dir, n]) = ext n := by
  have hlist : ∃ pre, (join [dir, n]).toList = pre ++ '/' :: n.toList := by
    rw [join_single_toList hdir hn hpm, unsplit_append_single]
    split
    · exact ⟨[], rfl⟩
    · exact ⟨'/' :: unsplit (components dir.toList), rfl⟩
  obtain ⟨pre, hpre⟩ := hlist
  rw [← String.ofList_toList (s := join [dir, n]), hpre, ext_slash_append hn.2.2, String.ofList_toList]

theorem ext_append_objectSuffix (s : String) : ext (s ++ objectSuffix) = objectSuffix := by
  simp [ext, objectSuffix]

end Suffixes

end Path

section Names

/-- The file name of a stub source's object: the source without its extension, then `.o`. -/
def stubObjectName (src : String) : String :=
  Path.dropSuffix src (Path.ext src) ++ objectSuffix

theorem stubObjectName_toList (src : String) :
    ∃ d, d <+: src.toList ∧ (stubObjectName src).toList = d ++ ['.', 'o'] :=
  ⟨_, dropSuffix_starts _ _, by rw [stubObjectName, String.toList_append]; rfl⟩

/-- A stub source is its own object exactly when it ends in `.o`. -/
theorem stubObjectName_eq_self_iff (src : String) :
    stubObjectName src = src ↔ src.endsWith objectSuffix = true := by
  constructor
  · intro h
    rw [← h, stubObjectName, endsWith_iff_suffix, String.toList_append]
    exact List.suffix_append _ _
  · intro h
    obtain ⟨x, hx⟩ := endsWith_iff_suffix.1 h
    have hsrc : src = String.ofList x ++ objectSuffix := by
      rw [← String.toList_inj, String.toList_append, String.toList_ofList, hx]
    rw [hsrc, stubObjectName, ext_append_objectSuffix,
      dropSuffix_of_toList (a := x) (by rw [String.toList_append, String.toList_ofList])]

/-- The stub object of a stub source under a directory is the directory joined with the name of
the object. -/
theorem stubObject_eq_join {dir src : String} (hdir : isAbs dir = true) (hsrc : Named src.toList)
    (hpm : src.toList ≠ parentMark) :
    dropSuffix (join [dir, src]) (ext (join [dir, src])) ++ objectSuffix =
      join [dir, stubObjectName src] := by
  obtain ⟨d, hd⟩ := ext_suffix src
  have hdslash : '/' ∉ d := fun h => hsrc.2.2 (by rw [← hd]; exact List.mem_append_left _ h)
  have hobj : Named (d ++ ['.', 'o']) ∧ d ++ ['.', 'o'] ≠ parentMark :=
    named_of_ending (by simpa using hdslash) (by simp) (by simp)
  have hname : (stubObjectName src).toList = d ++ ['.', 'o'] := by
    rw [stubObjectName, String.toList_append, dropSuffix_of_toList hd.symm, String.toList_ofList]
    rfl
  have hjoined : (join [dir, src]).toList =
      ('/' :: unsplit (components dir.toList ++ [d])) ++ (ext src).toList := by
    rw [join_single_toList hdir hsrc hpm, ← hd, unsplit_append_last, List.cons_append]
  rw [ext_join_single hdir hsrc hpm, ← String.toList_inj, String.toList_append,
    dropSuffix_of_toList hjoined, String.toList_ofList,
    join_single_toList hdir (hname ▸ hobj.1) (hname ▸ hobj.2), hname, unsplit_append_last,
    List.cons_append]
  rfl

theorem slash_not_mem_of_hasSeparator {s : String} (h : hasSeparator s = false) : '/' ∉ s.toList := by
  simp only [hasSeparator, Bool.or_eq_false_iff] at h
  simpa [String.contains] using h.1

/-- The name and the stub source of a checked manifest: a name that starts with `lib`, and a
non-empty stub source, both without separators. -/
theorem Manifest.names_of_check_eq_none {m : Manifest} (hm : m.check = none) :
    m.name.startsWith "lib" = true ∧ hasSeparator m.name = false ∧
    m.stub.source ≠ "" ∧ hasSeparator m.stub.source = false := by
  obtain ⟨-, -, hlib, hsep, -, -, -, -, -, -, -, hne, hsrc, -, -⟩ :=
    (Manifest.check_eq_none_iff m).1 hm
  exact ⟨hlib, hsep, hne, hsrc⟩

/-- The name of a checked manifest is a named component. -/
theorem Manifest.name_named {m : Manifest} (hm : m.check = none) :
    Named m.name.toList ∧ m.name.toList ≠ parentMark := by
  obtain ⟨hlib, hsep, -, -⟩ := Manifest.names_of_check_eq_none hm
  obtain ⟨t, ht⟩ := String.startsWith_string_iff.1 hlib
  refine ⟨⟨?_, ?_, slash_not_mem_of_hasSeparator hsep⟩, ?_⟩ <;> rw [← ht] <;> simp [parentMark]

/-- The file names under the build directory of the final outputs, the stub source and its
object, and the record, in the order of `ArtifactSet.paths`. -/
def Manifest.fixedNames (m : Manifest) : List String :=
  [m.name ++ ".elf", m.name ++ ".oelf", m.name ++ ".prx", m.name ++ ".a", m.name ++ ".so",
    m.stub.source, stubObjectName m.stub.source, recordFile]

/-- The file names under the build directory of everything a build writes. -/
def Manifest.outputNames (m : Manifest) : List String :=
  m.sources.map (· ++ objectSuffix) ++ m.fixedNames

/-- The seven paths of an artifact set. -/
def ArtifactSet.paths (a : ArtifactSet) : List String :=
  [a.elf, a.oelf, a.prx, a.archive, a.stub, a.stubSource, a.stubObject]

/-- Everything a build writes: the objects of the sources, the artifact set and the record. -/
def Resolver.outputs (r : Resolver) (m : Manifest) : List String :=
  m.sources.map r.objectFile ++ (r.artifacts m.name m.stub.source).paths ++
    [join [r.buildDir, recordFile]]

/-- Apart from the stub source, the fixed names never coincide; the stub source coincides with one
of them exactly when it is named like a final output or the record, or ends in `.o`. The seven names
other than the stub source differ in how they end. -/
theorem Manifest.fixedNames_nodup_iff (m : Manifest) :
    m.fixedNames.Nodup ↔
      m.stub.source ∉ [m.name ++ ".elf", m.name ++ ".oelf", m.name ++ ".prx", m.name ++ ".a",
        m.name ++ ".so", recordFile] ∧ m.stub.source.endsWith objectSuffix = false := by
  obtain ⟨d, -, hd⟩ := stubObjectName_toList m.stub.source
  have hseven : ([m.name ++ ".elf", m.name ++ ".oelf", m.name ++ ".prx", m.name ++ ".a",
      m.name ++ ".so"] ++ [stubObjectName m.stub.source, recordFile]).Nodup := by
    apply List.Nodup.of_map (fun s : String => s.toList.reverse)
    simp [hd, recordFile]
  have hmem : ∀ (l₁ l₂ : List String) (a b : String), a ∉ l₁ ++ b :: l₂ ↔ a ∉ l₁ ++ l₂ ∧ a ≠ b := by
    intro l₁ l₂ a b
    simp only [List.mem_append, List.mem_cons, not_or, ne_eq]
    exact ⟨fun ⟨h₁, hb, h₂⟩ => ⟨⟨h₁, h₂⟩, hb⟩, fun ⟨⟨h₁, h₂⟩, hb⟩ => ⟨h₁, hb, h₂⟩⟩
  have hself : m.stub.source ≠ stubObjectName m.stub.source ↔
      m.stub.source.endsWith objectSuffix = false := by
    rw [ne_eq, eq_comm, stubObjectName_eq_self_iff, Bool.not_eq_true]
  rw [Manifest.fixedNames, show ∀ a b c d e s f g : String, [a, b, c, d, e, s, f, g] =
    [a, b, c, d, e] ++ s :: [f, g] from fun _ _ _ _ _ _ _ _ => rfl, List.nodup_middle,
    List.nodup_cons, hmem, hself]
  exact ⟨fun h => h.1, fun h => ⟨h, hseven⟩⟩

/-- The extensions of the final outputs are free of separators, at least two characters long, and
do not end in a dot, so each extends a named component to a named component. -/
theorem finalExtensions_ending : ∀ x ∈ [".elf", ".oelf", ".prx", ".a", ".so"],
    '/' ∉ x.toList ∧ 2 ≤ x.toList.length ∧ x.toList.getLast? ≠ some '.' := by
  intro x hx
  simp only [List.mem_cons, List.not_mem_nil, or_false] at hx
  rcases hx with rfl | rfl | rfl | rfl | rfl <;> simp

/-- The name of a checked manifest is a named component. The final outputs extend the name by their
extensions. -/
theorem Manifest.fixedNames_named {m : Manifest} (hm : m.check = none)
    (hsrc : Named m.stub.source.toList ∧ m.stub.source.toList ≠ parentMark) :
    ∀ n ∈ m.fixedNames, Named n.toList ∧ n.toList ≠ parentMark := by
  obtain ⟨hname, -⟩ := Manifest.name_named hm
  have hfinal : ∀ x ∈ [".elf", ".oelf", ".prx", ".a", ".so"],
      Named (m.name ++ x).toList ∧ (m.name ++ x).toList ≠ parentMark := fun x hx => by
    obtain ⟨h₁, h₂, h₃⟩ := finalExtensions_ending x hx
    rw [String.toList_append]
    exact named_append_ending hname.2.2 h₁ h₂ h₃
  intro n hn
  simp only [Manifest.fixedNames, List.mem_cons, List.not_mem_nil, or_false] at hn
  rcases hn with rfl | rfl | rfl | rfl | rfl | rfl | rfl | rfl
  · exact hfinal ".elf" (by simp)
  · exact hfinal ".oelf" (by simp)
  · exact hfinal ".prx" (by simp)
  · exact hfinal ".a" (by simp)
  · exact hfinal ".so" (by simp)
  · exact hsrc
  · obtain ⟨d, hd, hobj⟩ := stubObjectName_toList m.stub.source
    rw [hobj]
    exact named_append_ending (fun h => hsrc.1.2.2 (hd.subset h)) (by simp) (by simp) (by simp)
  · exact named_of_ending (by simp [recordFile]) (by simp [recordFile]) (by simp [recordFile])

/-- Every name of a checked manifest whose stub source is neither `.` nor `..` descends. -/
theorem Manifest.outputNames_descend {m : Manifest} (hm : m.check = none)
    (hsrc : Named m.stub.source.toList ∧ m.stub.source.toList ≠ parentMark) :
    ∀ n ∈ m.outputNames, Descends n := by
  intro n hn
  rcases List.mem_append.1 hn with hn | hn
  · obtain ⟨s, hs, rfl⟩ := List.mem_map.1 hn
    have hl := (Manifest.local_of_check_eq_none hm).2 s (List.mem_append_left _ hs)
    exact descends_append_objectSuffix (head?_ne_slash_of_isLocal hl) (parentMark_not_mem_of_isLocal hl)
  · have h := Manifest.fixedNames_named hm hsrc n hn
    exact descends_of_named h.1 h.2

/-- The names meet pairwise in three ways: two fixed names coincide, an object's name meets a
fixed name, or two objects' names meet. -/
theorem Manifest.outputNames_pairwise_apart_iff {m : Manifest}
    (hfixed : ∀ n ∈ m.fixedNames, Named n.toList ∧ n.toList ≠ parentMark) :
    m.outputNames.Pairwise Apart ↔
      (m.sources.Pairwise fun s t => Apart (s ++ objectSuffix) (t ++ objectSuffix)) ∧
      m.fixedNames.Nodup ∧ ∀ s ∈ m.sources, ∀ n ∈ m.fixedNames, Apart (s ++ objectSuffix) n := by
  have hsingle : ∀ n ∈ m.fixedNames, components n.toList = [n.toList] := fun n hn =>
    components_single (hfixed n hn).1 (hfixed n hn).2
  have hnodup : m.fixedNames.Pairwise Apart ↔ m.fixedNames.Nodup :=
    List.Pairwise.iff_of_mem fun ha hb => apart_single_iff (hsingle _ ha) (hsingle _ hb)
  rw [Manifest.outputNames, List.pairwise_append, List.pairwise_map, hnodup]
  simp only [List.forall_mem_map]

end Names

section Outputs

variable {m : Manifest} {root : String}

/-- Under an absolute root, the build directory of a checked manifest is absolute. -/
theorem Resolver.new_buildDir_isAbs (hm : m.check = none) (hroot : isAbs root = true) :
    isAbs (Resolver.new root m.buildDir).buildDir = true := by
  have hdir := (Manifest.local_of_check_eq_none hm).1
  rw [Resolver.new_buildDir_of_isLocal hdir]
  exact isAbs_join_of_rel hroot (head?_ne_slash_of_isLocal hdir) (parentMark_not_mem_of_isLocal hdir)

/-- Each output is the build directory joined with its name, once the name and the stub source
are named components. -/
theorem Resolver.outputs_eq_map_join {r : Resolver} (hdir : isAbs r.buildDir = true)
    (hname : Named m.name.toList ∧ m.name.toList ≠ parentMark)
    (hsrc : Named m.stub.source.toList ∧ m.stub.source.toList ≠ parentMark) :
    r.outputs m = m.outputNames.map fun n => join [r.buildDir, n] := by
  have hfinal : ∀ x ∈ [".elf", ".oelf", ".prx", ".a", ".so"],
      join [r.buildDir, m.name] ++ x = join [r.buildDir, m.name ++ x] := fun x hx => by
    obtain ⟨h₁, h₂, h₃⟩ := finalExtensions_ending x hx
    exact join_single_append hdir hname.1 hname.2 h₁ h₂ h₃
  simp only [Resolver.outputs, Manifest.outputNames, Manifest.fixedNames, ArtifactSet.paths,
    Resolver.artifacts, List.map_append, List.map_map, List.map_cons, List.map_nil,
    Function.comp_def]
  rw [hfinal ".elf" (by simp), hfinal ".oelf" (by simp), hfinal ".prx" (by simp),
    hfinal ".a" (by simp), hfinal ".so" (by simp), stubObject_eq_join hdir hsrc.1 hsrc.2]
  simp [Resolver.objectFile]

/-- The stub source of a checked manifest, when it is neither `.` nor `..`, is a named
component. -/
theorem Manifest.stubSource_named (hm : m.check = none)
    (hdots : ¬(m.stub.source = "." ∨ m.stub.source = "..")) :
    Named m.stub.source.toList ∧ m.stub.source.toList ≠ parentMark := by
  obtain ⟨-, -, hne, hsep⟩ := Manifest.names_of_check_eq_none hm
  refine ⟨⟨fun h => hne (String.toList_inj.1 (by rw [h]; rfl)),
    fun h => hdots (.inl (String.toList_inj.1 (by rw [h]; rfl))),
    slash_not_mem_of_hasSeparator hsep⟩,
    fun h => hdots (.inr (String.toList_inj.1 (by rw [h]; rfl)))⟩

/-- **Where the outputs of a checked build land.** Under an absolute root, every object and the
image, signed image, module, archive, stub library and record lie strictly inside the build
directory. The outputs are pairwise apart, with the whole artifact set strictly inside the
build directory, exactly when the stub source is neither `.`, `..`, the name of a final output
nor the record's and does not end in `.o`, and no object's name meets a fixed name or another
object's name. -/
theorem outputs_apart_iff (hm : m.check = none) (hroot : isAbs root = true) :
    let r := Resolver.new root m.buildDir
    let set := r.artifacts m.name m.stub.source
    (∀ s ∈ m.sources, r.objectPath s = .ok (r.objectFile s) ∧
      StrictlyWithin (r.objectFile s) r.buildDir) ∧
    (∀ p ∈ [set.elf, set.oelf, set.prx, set.archive, set.stub, join [r.buildDir, recordFile]],
      StrictlyWithin p r.buildDir) ∧
    ((r.outputs m).Pairwise Apart ∧ (∀ p ∈ set.paths, StrictlyWithin p r.buildDir) ↔
      m.stub.source ∉ [".", "..", m.name ++ ".elf", m.name ++ ".oelf", m.name ++ ".prx",
        m.name ++ ".a", m.name ++ ".so", recordFile] ∧
      m.stub.source.endsWith objectSuffix = false ∧
      (∀ s ∈ m.sources, ∀ n ∈ m.fixedNames, Apart (s ++ objectSuffix) n) ∧
      m.sources.Pairwise fun s t => Apart (s ++ objectSuffix) (t ++ objectSuffix)) := by
  intro r set
  have hlocal := (Manifest.local_of_check_eq_none hm).2
  have hB : isAbs r.buildDir = true := Resolver.new_buildDir_isAbs hm hroot
  have hname := Manifest.name_named hm
  have hfinal : ∀ x ∈ [".elf", ".oelf", ".prx", ".a", ".so"],
      StrictlyWithin (join [r.buildDir, m.name] ++ x) r.buildDir := by
    intro x hx
    obtain ⟨h₁, h₂, h₃⟩ := finalExtensions_ending x hx
    have hx := named_append_ending hname.1.2.2 h₁ h₂ h₃
    rw [← String.toList_append] at hx
    rw [join_single_append hB hname.1 hname.2 h₁ h₂ h₃]
    exact strictlyWithin_join hB (descends_of_named hx.1 hx.2)
  refine ⟨fun s hs => ⟨?_, ?_⟩, ?_, ?_⟩
  · simp [Resolver.objectPath, hlocal s (List.mem_append_left _ hs)]
  · have hl := hlocal s (List.mem_append_left _ hs)
    exact strictlyWithin_join hB
      (descends_append_objectSuffix (head?_ne_slash_of_isLocal hl) (parentMark_not_mem_of_isLocal hl))
  · intro p hp
    simp only [List.mem_cons, List.not_mem_nil, or_false] at hp
    rcases hp with rfl | rfl | rfl | rfl | rfl | rfl
    · exact hfinal ".elf" (by simp)
    · exact hfinal ".oelf" (by simp)
    · exact hfinal ".prx" (by simp)
    · exact hfinal ".a" (by simp)
    · exact hfinal ".so" (by simp)
    · have hrec := named_of_ending (c := recordFile.toList) (by simp [recordFile])
        (by simp [recordFile]) (by simp [recordFile])
      exact strictlyWithin_join hB (descends_of_named hrec.1 hrec.2)
  · by_cases hdots : m.stub.source = "." ∨ m.stub.source = ".."
    · have hout : ¬StrictlyWithin set.stubSource r.buildDir := fun h => h.2 (components_join_dots_starts hB hdots)
      constructor
      · rintro ⟨-, hin⟩
        exact absurd (hin _ (by simp [ArtifactSet.paths])) hout
      · rintro ⟨hnot, -⟩
        rcases hdots with h | h <;> simp [h] at hnot
    · have hsrc := Manifest.stubSource_named hm hdots
      have hdesc := Manifest.outputNames_descend hm hsrc
      have hmap := Resolver.outputs_eq_map_join hB hname hsrc
      have hin : ∀ p ∈ set.paths, StrictlyWithin p r.buildDir := by
        intro p hp
        have hout : p ∈ r.outputs m := by
          simp only [Resolver.outputs, List.mem_append]
          exact .inl (.inr hp)
        rw [hmap] at hout
        obtain ⟨n, hn, rfl⟩ := List.mem_map.1 hout
        exact strictlyWithin_join hB (hdesc n hn)
      have hnotdots : m.stub.source ∉ [".", "..", m.name ++ ".elf", m.name ++ ".oelf",
          m.name ++ ".prx", m.name ++ ".a", m.name ++ ".so", recordFile] ↔
          m.stub.source ∉ [m.name ++ ".elf", m.name ++ ".oelf", m.name ++ ".prx", m.name ++ ".a",
            m.name ++ ".so", recordFile] := by
        rw [List.mem_cons, List.mem_cons, not_or, not_or]
        exact ⟨fun h => h.2.2, fun h => ⟨fun h' => hdots (.inl h'), fun h' => hdots (.inr h'), h⟩⟩
      rw [hmap, pairwise_apart_join_iff hB hdesc,
        Manifest.outputNames_pairwise_apart_iff (Manifest.fixedNames_named hm hsrc),
        Manifest.fixedNames_nodup_iff, hnotdots]
      constructor
      · rintro ⟨⟨hsources, ⟨hnot, hends⟩, hcross⟩, -⟩
        exact ⟨hnot, hends, hcross, hsources⟩
      · rintro ⟨hnot, hends, hcross, hsources⟩
        exact ⟨⟨hsources, ⟨hnot, hends⟩, hcross⟩, hin⟩

/-- Under `/proj`, the outputs of `dotBuild` are pairwise apart and its artifact set lies strictly
inside the build directory. -/
theorem dotBuild_outputs_apart :
    dotBuild.check = none ∧ isAbs "/proj" = true ∧
    ((Resolver.new "/proj" dotBuild.buildDir).outputs dotBuild).Pairwise Apart ∧
    ∀ p ∈ ((Resolver.new "/proj" dotBuild.buildDir).artifacts dotBuild.name
      dotBuild.stub.source).paths, StrictlyWithin p (Resolver.new "/proj" dotBuild.buildDir).buildDir := by
  have hroot : isAbs "/proj" = true := by simp +decide [isAbs]
  have hobj : stubObjectName "stub.c" = "stub.o" := by
    rw [stubObjectName, show ext "stub.c" = ".c" by decide,
      dropSuffix_of_toList (a := "stub".toList) (by simp)]
    decide
  have hsingle : ∀ x : String, '/' ∉ x.toList → 2 ≤ x.toList.length →
      x.toList.getLast? ≠ some '.' → components x.toList = [x.toList] := fun x h₁ h₂ h₃ =>
    components_single (named_of_ending h₁ h₂ h₃).1 (named_of_ending h₁ h₂ h₃).2
  refine ⟨dotBuild_check, hroot, (outputs_apart_iff dotBuild_check hroot).2.2.2 ⟨?_, ?_, ?_, ?_⟩⟩
  · simp [dotBuild, recordFile]
  · rw [Bool.eq_false_iff]
    intro h
    have hsuffix := endsWith_iff_suffix.1 h
    simp only [dotBuild, objectSuffix] at hsuffix
    exact absurd hsuffix (by decide)
  · intro s hs n hn
    have hs' : s = "a.cpp" := by simpa [dotBuild] using hs
    subst hs'
    simp only [Manifest.fixedNames, dotBuild, hobj, List.mem_cons, List.not_mem_nil, or_false] at hn
    rcases hn with rfl | rfl | rfl | rfl | rfl | rfl | rfl | rfl <;>
      exact (apart_single_iff (hsingle _ (by simp [objectSuffix]) (by simp [objectSuffix])
        (by simp [objectSuffix]))
        (hsingle _ (by simp [recordFile]) (by simp [recordFile]) (by simp [recordFile]))).2
        (by simp [objectSuffix, recordFile])
  · simp [dotBuild]

end Outputs

/-- A checked manifest whose stub source is named like its stub library. -/
def clashingStub : Manifest :=
  { dotBuild with buildDir := "build", stub := { dotBuild.stub with source := "libdemo.so" } }

theorem clashingStub_check : clashingStub.check = none := by
  simp +decide [Manifest.check, clashingStub, dotBuild, hasSeparator, isLocal, isAbs, clean,
    cleanList, components, pieces, checkSources]

/-- The checks let `clashingStub` through, yet its stub library is written over its stub
source. -/
theorem clashingStub_stub_overwrites_source :
    clashingStub.check = none ∧
    ((Resolver.new "/proj" clashingStub.buildDir).artifacts clashingStub.name
      clashingStub.stub.source).stub =
    ((Resolver.new "/proj" clashingStub.buildDir).artifacts clashingStub.name
      clashingStub.stub.source).stubSource := by
  have hB := @Resolver.new_buildDir_isAbs clashingStub "/proj" clashingStub_check
    (by simp +decide [isAbs])
  have hname := Manifest.name_named clashingStub_check
  refine ⟨clashingStub_check, ?_⟩
  exact join_single_append hB hname.1 hname.2 (by simp) (by simp) (by simp)

end CrossBuild
