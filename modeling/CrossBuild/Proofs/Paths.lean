import CrossBuild.Path

/-!
# Cleaned paths and joins

`Path.components` folds the pieces of a path over a stack of components (`Path.push`). The
stacks it builds are well formed (`Path.StackOk`): every entry is a named component (neither
empty nor `.`, and free of slashes), and below a `..` there is only `..`. A rooted path never
holds a `..` at all. From this:

* cleaning an absolute path keeps its components (`components_cleanList`);
* a local path has no `..` component (`parentMark_not_mem_of_isLocal`), so putting it after an
  absolute path only adds its components (`components_append`);
* joining an absolute path and a local one gives the components of the first followed by those
  of the second (`components_join`), and a local path cleans to `.` exactly when it has no
  components (`clean_eq_dot_iff`).

`Path.Within p dir` says, by these lexical rules alone, that `p` is `dir` or lies inside it.
-/

namespace CrossBuild.Path

/-- A component that cleaning keeps: neither empty nor `.`, and free of slashes. -/
def Named (c : List Char) : Prop :=
  c ≠ [] ∧ c ≠ ['.'] ∧ '/' ∉ c

theorem named_parentMark : Named parentMark := by
  simp [Named, parentMark]

/-- The stacks that `push` builds, top first: every entry is named, and below a `..` there is
only `..`. -/
def StackOk : List (List Char) → Prop
  | [] => True
  | c :: rest => Named c ∧ (c = parentMark → ∀ d ∈ rest, d = parentMark) ∧ StackOk rest

theorem StackOk.named : ∀ {st : List (List Char)}, StackOk st → ∀ c ∈ st, Named c
  | [], _, _, hc => by simp at hc
  | _ :: _, h, c, hc => by
    rcases List.mem_cons.1 hc with rfl | hc
    · exact h.1
    · exact h.2.2.named c hc

/-- A `..` in a well formed stack means one at its bottom. -/
theorem StackOk.getLast?_of_mem : ∀ {st : List (List Char)}, StackOk st → parentMark ∈ st →
    st.getLast? = some parentMark
  | [], _, hm => by simp at hm
  | c :: rest, h, hm => by
    by_cases hc : c = parentMark
    · cases rest with
      | nil => simp [hc]
      | cons d ds =>
        rw [List.getLast?_cons_cons]
        exact h.2.2.getLast?_of_mem (by rw [h.2.1 hc d List.mem_cons_self]; exact List.mem_cons_self)
    · cases rest with
      | nil => simp_all
      | cons d ds =>
        rw [List.getLast?_cons_cons]
        exact h.2.2.getLast?_of_mem ((List.mem_cons.1 hm).resolve_left fun h => hc h.symm)

theorem push_stackOk {r : Bool} {st : List (List Char)} {p : List Char} (hp : '/' ∉ p)
    (h : StackOk st) : StackOk (push r st p) := by
  unfold push
  by_cases hskip : p = [] ∨ p = ['.']
  · rw [if_pos hskip]
    exact h
  · rw [if_neg hskip]
    by_cases hpm : p = parentMark
    · rw [if_pos hpm]
      cases st with
      | nil => cases r <;> simp [StackOk, named_parentMark]
      | cons top rest =>
        dsimp only
        by_cases htop : top = parentMark
        · rw [if_pos htop]
          refine ⟨named_parentMark, fun _ d hd => ?_, h⟩
          rcases List.mem_cons.1 hd with rfl | hd
          · exact htop
          · exact h.2.1 htop d hd
        · rw [if_neg htop]
          exact h.2.2
    · rw [if_neg hpm]
      simp only [not_or] at hskip
      exact ⟨⟨hskip.1, hskip.2, hp⟩, fun hc => absurd hc hpm, h⟩

/-- A rooted stack never takes a `..`: at the root it is dropped. -/
theorem push_rooted {st : List (List Char)} {p : List Char} (h : parentMark ∉ st) :
    parentMark ∉ push true st p := by
  unfold push
  by_cases hskip : p = [] ∨ p = ['.']
  · rw [if_pos hskip]
    exact h
  · rw [if_neg hskip]
    by_cases hpm : p = parentMark
    · rw [if_pos hpm]
      cases st with
      | nil => simp
      | cons top rest =>
        have htop : top ≠ parentMark := fun ht => h (by rw [ht]; exact List.mem_cons_self)
        dsimp only
        rw [if_neg htop]
        exact fun hm => h (List.mem_cons_of_mem top hm)
    · rw [if_neg hpm]
      simp only [List.mem_cons, not_or]
      exact ⟨Ne.symm hpm, h⟩

theorem slash_not_mem_of_mem_pieces : ∀ {s p : List Char}, p ∈ pieces s → '/' ∉ p
  | [], p, hp => by simp [pieces] at hp; simp [hp]
  | c :: s, p, hp => by
    rw [pieces, List.splitOn_cons_eq_if_modifyHead] at hp
    split at hp
    · rcases List.mem_cons.1 hp with rfl | hp
      · simp
      · exact slash_not_mem_of_mem_pieces hp
    · rename_i hc
      obtain ⟨q, qs, hqs⟩ := List.exists_cons_of_ne_nil (List.splitOn_ne_nil '/' s)
      rw [hqs, List.modifyHead_cons] at hp
      have hq : q ∈ pieces s := by rw [pieces, hqs]; exact List.mem_cons_self
      rcases List.mem_cons.1 hp with rfl | hp
      · simp only [List.mem_cons, not_or]
        exact ⟨fun h => hc (by rw [← h]; exact beq_self_eq_true _), slash_not_mem_of_mem_pieces hq⟩
      · exact slash_not_mem_of_mem_pieces (p := p) (by rw [pieces, hqs]; exact List.mem_cons_of_mem q hp)

theorem foldl_push_stackOk {r : Bool} :
    ∀ (ps : List (List Char)) {st : List (List Char)}, (∀ p ∈ ps, '/' ∉ p) → StackOk st →
      StackOk (ps.foldl (push r) st)
  | [], _, _, h => h
  | p :: ps, _, hps, h =>
    foldl_push_stackOk ps (fun q hq => hps q (List.mem_cons_of_mem p hq))
      (push_stackOk (hps p List.mem_cons_self) h)

theorem foldl_push_rooted :
    ∀ (ps : List (List Char)) {st : List (List Char)}, parentMark ∉ st →
      parentMark ∉ ps.foldl (push true) st
  | [], _, h => h
  | _ :: ps, _, h => foldl_push_rooted ps (push_rooted h)

theorem stackOk_components (s : List Char) : StackOk (components s).reverse := by
  rw [components, List.reverse_reverse]
  exact foldl_push_stackOk _ (fun _ hp => slash_not_mem_of_mem_pieces hp) trivial

theorem named_of_mem_components {s c : List Char} (hc : c ∈ components s) : Named c :=
  (stackOk_components s).named c (List.mem_reverse.2 hc)

theorem parentMark_not_mem_components_of_rooted {s : List Char} (hs : s.head? = some '/') :
    parentMark ∉ components s := by
  rw [components, List.mem_reverse, hs]
  exact foldl_push_rooted _ (by simp)

/-- Folding named components, none of them `..`, pushes each of them. -/
theorem foldl_push_named {r : Bool} :
    ∀ (cs : List (List Char)) (st : List (List Char)), (∀ c ∈ cs, Named c ∧ c ≠ parentMark) →
      cs.foldl (push r) st = cs.reverse ++ st
  | [], _, _ => rfl
  | c :: cs, st, h => by
    obtain ⟨⟨hne, hdot, -⟩, hpm⟩ := h c List.mem_cons_self
    have hpush : push r st c = c :: st := by
      simp [push, hne, hdot, hpm]
    rw [List.foldl_cons, hpush, foldl_push_named cs (c :: st) fun d hd => h d (List.mem_cons_of_mem c hd)]
    simp

/-- A `..` at the bottom of an unrooted stack stays there. -/
theorem foldl_push_parent_bottom :
    ∀ (ps : List (List Char)) (xs : List (List Char)),
      ∃ ys, ps.foldl (push false) (xs ++ [parentMark]) = ys ++ [parentMark]
  | [], xs => ⟨xs, rfl⟩
  | p :: ps, xs => by
    have hstep : ∃ ys, push false (xs ++ [parentMark]) p = ys ++ [parentMark] := by
      unfold push
      split
      · exact ⟨xs, rfl⟩
      · split
        · cases xs with
          | nil => exact ⟨[parentMark], by simp⟩
          | cons x xs =>
            dsimp only [List.cons_append]
            split
            · exact ⟨parentMark :: x :: xs, by simp⟩
            · exact ⟨xs, rfl⟩
        · exact ⟨p :: xs, rfl⟩
    obtain ⟨ys, hys⟩ := hstep
    rw [List.foldl_cons, hys]
    exact foldl_push_parent_bottom ps ys

/-- Folding pieces that never climb out of the stack `T` gives the same result with any stack `S`
below `T`, rooted or not. `push` looks below `T` only for a `..` on an empty `T`, and that `..`
would stay. -/
theorem foldl_push_append (r : Bool) :
    ∀ (ps T S : List (List Char)), parentMark ∉ ps.foldl (push false) T →
      ps.foldl (push r) (T ++ S) = ps.foldl (push false) T ++ S
  | [], _, _, _ => rfl
  | p :: ps, T, S, h => by
    rw [List.foldl_cons] at h ⊢
    have hclimb : ¬(T = [] ∧ p = parentMark) := by
      rintro ⟨rfl, rfl⟩
      obtain ⟨ys, hys⟩ := foldl_push_parent_bottom ps []
      have hpush : push false [] parentMark = [] ++ [parentMark] := by simp [push, parentMark]
      rw [hpush, hys] at h
      exact h (List.mem_append_right ys List.mem_cons_self)
    have hstep : push r (T ++ S) p = push false T p ++ S := by
      unfold push
      split
      · rfl
      · split
        · cases T with
          | nil => exact absurd ⟨rfl, ‹_›⟩ hclimb
          | cons top rest =>
            dsimp only [List.cons_append]
            split <;> rfl
        · rfl
    rw [hstep]
    exact foldl_push_append r ps (push false T p) S h

theorem pieces_append (a b : List Char) : pieces (a ++ '/' :: b) = pieces a ++ pieces b :=
  List.splitOn_append_cons_self a b

/-- A path after an absolute one only adds its components, when it does not climb out. -/
theorem components_append {a b : List Char} (ha : a.head? = some '/') (hb : b.head? ≠ some '/')
    (hpm : parentMark ∉ components b) : components (a ++ '/' :: b) = components a ++ components b := by
  have hhead : (a ++ '/' :: b).head? = some '/' := by
    rw [List.head?_append, ha]
    rfl
  have hpm' : parentMark ∉ (pieces b).foldl (push false) [] := by
    simpa [components, hb] using hpm
  simp only [components, hhead, ha, hb, decide_true, decide_false, pieces_append, List.foldl_append]
  rw [show (pieces a).foldl (push true) [] = [] ++ (pieces a).foldl (push true) [] from rfl,
    foldl_push_append true (pieces b) [] _ hpm']
  simp

theorem unsplit_eq_intercalate : ∀ cs : List (List Char), unsplit cs = ['/'].intercalate cs
  | [] => rfl
  | [c] => by simp [unsplit]
  | c :: d :: ds => by
    show c ++ '/' :: unsplit (d :: ds) = _
    rw [unsplit_eq_intercalate (d :: ds), List.intercalate_cons_cons, List.append_assoc,
      List.singleton_append]

/-- A leading slash splits off an empty piece. -/
theorem pieces_slash_cons (s : List Char) : pieces ('/' :: s) = [] :: pieces s := by
  rw [pieces, List.splitOn_cons_eq_if_modifyHead, if_pos (by decide)]
  rfl

/-- Components free of slashes, written with slashes between them, split back into themselves;
no components at all write the empty text, which is one empty piece. -/
theorem pieces_unsplit {cs : List (List Char)} (hcs : ∀ c ∈ cs, '/' ∉ c) :
    pieces (unsplit cs) = if cs = [] then [[]] else cs := by
  split
  · rename_i h
    rw [h]
    rfl
  · rename_i h
    rw [pieces, unsplit_eq_intercalate]
    exact List.splitOn_intercalate '/' hcs h

/-- An absolute path written from named components other than `..` has those components. The leading
slash gives an empty first piece, which `push` skips. -/
theorem components_rooted_unsplit {cs : List (List Char)}
    (hnamed : ∀ c ∈ cs, Named c ∧ c ≠ parentMark) : components ('/' :: unsplit cs) = cs := by
  rw [components]
  simp only [List.head?_cons, decide_true]
  rw [pieces_slash_cons, List.foldl_cons, show push true [] [] = [] by simp [push],
    pieces_unsplit fun c hc => (hnamed c hc).1.2.2]
  split
  · rename_i h
    rw [h]
    rfl
  · rw [foldl_push_named _ _ hnamed]
    simp

theorem cleanList_of_rooted {s : List Char} (hs : s.head? = some '/') :
    cleanList s = '/' :: unsplit (components s) := by
  simp [cleanList, hs]

/-- Cleaning an absolute path keeps its components. -/
theorem components_cleanList {s : List Char} (hs : s.head? = some '/') :
    components (cleanList s) = components s := by
  rw [cleanList_of_rooted hs]
  exact components_rooted_unsplit fun c hc =>
    ⟨named_of_mem_components hc, fun h => parentMark_not_mem_components_of_rooted hs (h ▸ hc)⟩

theorem isAbs_iff {s : String} : isAbs s = true ↔ s.toList.head? = some '/' := by
  simp only [isAbs, String.startsWith_string_iff]
  cases s.toList with
  | nil => simp
  | cons c cs => simp [eq_comm]

theorem isAbs_eq_false_of_isLocal {s : String} (h : isLocal s = true) : isAbs s = false := by
  simp only [isLocal, Bool.and_eq_true, bne_iff_ne, ne_eq, Bool.not_eq_true'] at h
  exact h.1.2

theorem head?_ne_slash_of_isLocal {s : String} (h : isLocal s = true) :
    s.toList.head? ≠ some '/' := by
  intro hh
  rw [← isAbs_iff, isAbs_eq_false_of_isLocal h] at hh
  exact Bool.false_ne_true hh

/-- A local path has no `..` component: a `..` would stand first and climb out. -/
theorem parentMark_not_mem_of_isLocal {s : String} (h : isLocal s = true) :
    parentMark ∉ components s.toList := by
  intro hmem
  have hrel := head?_ne_slash_of_isLocal h
  simp only [isLocal, Bool.and_eq_true, bne_iff_ne, ne_eq, Bool.not_eq_true',
    String.startsWith_string_eq_false_iff] at h
  obtain ⟨-, hdots, hpre⟩ := h
  have hlast := (stackOk_components s.toList).getLast?_of_mem (List.mem_reverse.2 hmem)
  rw [List.getLast?_reverse] at hlast
  obtain ⟨rest, hcomp⟩ : ∃ rest, components s.toList = parentMark :: rest := by
    cases hc : components s.toList with
    | nil => simp [hc] at hlast
    | cons c rest => rw [hc] at hlast; simp at hlast; exact ⟨rest, by rw [hlast]⟩
  have hclean : (clean s).toList = cleanList s.toList := by simp [clean]
  cases rest with
  | nil =>
    apply hdots
    apply String.toList_inj.1
    simp [hclean, cleanList, hrel, hcomp, unsplit, parentMark]
  | cons d ds =>
    apply hpre
    rw [hclean]
    simp [cleanList, hrel, hcomp, unsplit, parentMark]

theorem join_pair {a b : String} (ha : a ≠ "") : join [a, b] = clean (a ++ "/" ++ b) := by
  simp [join, ha]

/-- Joining an absolute path and a relative one that does not climb out gives the components of
the first followed by those of the second. -/
theorem components_join_of_rel {root p : String} (hroot : isAbs root = true)
    (hrel : p.toList.head? ≠ some '/') (hpm : parentMark ∉ components p.toList) :
    components (join [root, p]).toList = components root.toList ++ components p.toList := by
  have hhead := isAbs_iff.1 hroot
  have hne : root ≠ "" := fun h => by simp [h] at hhead
  have hlist : (root ++ "/" ++ p).toList = root.toList ++ '/' :: p.toList := by simp
  have hrooted : (root.toList ++ '/' :: p.toList).head? = some '/' := by
    rw [List.head?_append, hhead]
    rfl
  rw [join_pair hne, clean, String.toList_ofList, hlist, components_cleanList hrooted,
    components_append hhead hrel hpm]

/-- **Joining keeps components.** Joining an absolute path and a local one gives the
components of the first followed by those of the second. -/
theorem components_join {root p : String} (hroot : isAbs root = true) (hp : isLocal p = true) :
    components (join [root, p]).toList = components root.toList ++ components p.toList :=
  components_join_of_rel hroot (head?_ne_slash_of_isLocal hp) (parentMark_not_mem_of_isLocal hp)

/-- A local path cleans to `.` exactly when it has no components. -/
theorem clean_eq_dot_iff {s : String} (hs : isLocal s = true) :
    clean s = "." ↔ components s.toList = [] := by
  have hrel := head?_ne_slash_of_isLocal hs
  have hdot : clean s = "." ↔ cleanList s.toList = ['.'] := by
    rw [clean, ← String.toList_inj, String.toList_ofList]
    rfl
  rw [hdot]
  cases hc : components s.toList with
  | nil => simp [cleanList, hrel, hc, unsplit]
  | cons c cs =>
    have hnamed := named_of_mem_components (s := s.toList) (c := c) (by rw [hc]; exact List.mem_cons_self)
    simp only [cleanList, hrel, hc, if_false, reduceCtorEq, iff_false]
    cases cs with
    | nil => simpa [unsplit, hnamed.1] using hnamed.2.1
    | cons d ds =>
      have hbody : unsplit (c :: d :: ds) = c ++ '/' :: unsplit (d :: ds) := rfl
      have hlen : 2 ≤ (unsplit (c :: d :: ds)).length := by
        have := List.length_pos_iff.2 hnamed.1
        simp only [hbody, List.length_append, List.length_cons]
        omega
      intro h
      rw [if_neg (fun h0 => by simp [h0] at hlen)] at h
      have := congrArg List.length h
      simp only [List.length_singleton] at this
      omega

/-- Whether `p` is `dir` or lies inside it, by lexical rules alone: the components of `dir`
start those of `p`. -/
def Within (p dir : String) : Prop :=
  components dir.toList <+: components p.toList

end CrossBuild.Path
