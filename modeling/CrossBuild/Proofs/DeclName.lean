import Mathlib.Data.List.TakeWhile
import Mathlib.Data.List.Basic
import CrossBuild.Header.Decl

/-!
# The declared name of a line

`Header.extractName` cuts a line at its first `_APIENTRY` (`Header.cutAt`) and reads the text
up to the first `(`, trimmed of blanks. This module says what it reads in terms of the line
alone.

A line *lays out* a declaration (`Header.DeclLayout`) when it is a text before, the marker,
blanks, the name, blanks, `(` and anything after, where the text before holds neither the marker
nor a `(`, and the name is not empty, holds no `(` and neither starts nor ends with a blank.
`Header.extractName_iff_layout` says:

* the name read from a line is `n` exactly when the line lays out a declaration of `n`, and a
  line lays out at most one declaration;
* the reading fails with `noMarker` exactly when the line does not hold the marker, with
  `noParen` exactly when no `(` follows the first marker or one stands before it, and with
  `emptyName` exactly when only blanks stand between the first marker and a `(` after it.

The cut falls at the end of the text before the marker because the marker has no border: no
proper end of it starts it again (`nameMarker_borderFree`), so an occurrence that begins inside
the text before the marker cannot run on into the marker (`prefix_of_prefix_append`).
-/

namespace CrossBuild.Header

open CrossBuild.Text

section Cut

variable {pat : List Char}

/-- A pattern has no border when no proper end of it is also a start of it. -/
def BorderFree (pat : List Char) : Prop :=
  ∀ k < pat.length, 0 < k → ¬pat.drop k <+: pat

theorem nameMarker_borderFree : BorderFree nameMarker := by
  unfold BorderFree nameMarker
  decide

/-- An occurrence of a pattern without a border that starts inside a non-empty `pre` lies inside
`pre`. `pre` starts `pat`, so what follows `pre` in `pat` would start `pat` again. -/
theorem prefix_of_prefix_append (hb : BorderFree pat) {pre rest : List Char} (hpre : pre ≠ [])
    (h : pat <+: pre ++ pat ++ rest) : pat <+: pre := by
  rw [List.append_assoc] at h
  by_cases hlen : pat.length ≤ pre.length
  · exact List.prefix_of_prefix_length_le h (List.prefix_append pre _) hlen
  · obtain ⟨tail, htail⟩ : pre <+: pat :=
      List.prefix_of_prefix_length_le (List.prefix_append pre _) h (by omega)
    have hpos : 0 < pre.length := List.length_pos_iff.2 hpre
    have htail_eq : tail = pat.drop pre.length := by
      rw [← htail, List.drop_left]
    have hstart : tail <+: pat ++ rest := by
      have h' : pre ++ tail <+: pre ++ (pat ++ rest) := by rw [htail]; exact h
      exact (List.prefix_append_right_inj pre).1 h'
    have hshort : tail.length ≤ pat.length := by
      rw [htail_eq, List.length_drop]
      omega
    have hborder : tail <+: pat :=
      List.prefix_of_prefix_length_le hstart (List.prefix_append pat rest) hshort
    exact absurd (htail_eq ▸ hborder) (hb pre.length (by omega) hpos)

/-- What a cut gives back: the line is the text before, the pattern and the text after, and the
text before does not hold the pattern. -/
theorem cutAt_eq_some (hpat : pat ≠ []) :
    ∀ {line pre post : List Char}, cutAt pat line = some (pre, post) →
      line = pre ++ pat ++ post ∧ ¬pat <:+: pre
  | [], _, _, h => by simp [cutAt, hpat] at h
  | c :: cs, pre, post, h => by
    unfold cutAt at h
    by_cases hp : pat.isPrefixOf (c :: cs)
    · rw [if_pos hp, Option.some.injEq, Prod.mk.injEq] at h
      obtain ⟨rfl, rfl⟩ := h
      refine ⟨?_, by simpa [List.infix_nil] using hpat⟩
      simpa using (List.prefix_iff_eq_append.1 (List.isPrefixOf_iff_prefix.1 hp)).symm
    · rw [if_neg hp] at h
      obtain ⟨⟨pre', post'⟩, hcut, heq⟩ := Option.map_eq_some_iff.1 h
      rw [Prod.mk.injEq] at heq
      obtain ⟨rfl, rfl⟩ := heq
      obtain ⟨hline, hfirst⟩ := cutAt_eq_some hpat hcut
      refine ⟨by simp [hline], ?_⟩
      rw [List.infix_cons_iff, not_or]
      refine ⟨fun hpre => hp (List.isPrefixOf_iff_prefix.2 ?_), hfirst⟩
      exact hpre.trans ((List.prefix_cons_inj c).2
        (by rw [hline, List.append_assoc]; exact List.prefix_append _ _))

/-- Without the pattern there is no cut. -/
theorem cutAt_eq_none_iff (hpat : pat ≠ []) {line : List Char} :
    cutAt pat line = none ↔ ¬pat <:+: line := by
  constructor
  · intro h
    induction line with
    | nil => simpa [List.infix_nil] using hpat
    | cons c cs ih =>
      unfold cutAt at h
      by_cases hp : pat.isPrefixOf (c :: cs)
      · rw [if_pos hp] at h
        cases h
      · rw [if_neg hp, Option.map_eq_none_iff] at h
        rw [List.infix_cons_iff, not_or]
        exact ⟨fun hpre => hp (List.isPrefixOf_iff_prefix.2 hpre), ih h⟩
  · intro h
    cases hcut : cutAt pat line with
    | none => rfl
    | some cut =>
      obtain ⟨hline, -⟩ := cutAt_eq_some hpat hcut
      exact absurd (hline ▸ List.infix_append cut.1 pat cut.2) h

/-- A pattern without a border is cut at its first occurrence, after a text that does not hold
it. -/
theorem cutAt_append (hpat : pat ≠ []) (hb : BorderFree pat) :
    ∀ {pre : List Char} (post : List Char), ¬pat <:+: pre →
      cutAt pat (pre ++ pat ++ post) = some (pre, post)
  | [], post, _ => by
    obtain ⟨p, ps, rfl⟩ := List.exists_cons_of_ne_nil hpat
    simp [cutAt, List.isPrefixOf_iff_prefix]
  | c :: pre, post, h => by
    rw [List.infix_cons_iff, not_or] at h
    have hnot : pat.isPrefixOf (c :: (pre ++ pat ++ post)) = false := by
      rw [Bool.eq_false_iff, ne_eq, List.isPrefixOf_iff_prefix]
      intro hp
      exact h.1 (prefix_of_prefix_append hb (List.cons_ne_nil c pre) hp)
    rw [List.cons_append, List.cons_append, cutAt, ← List.cons_append, ← List.cons_append,
      if_neg (by rw [List.cons_append, List.cons_append, hnot]; exact Bool.false_ne_true),
      cutAt_append hpat hb post h.2]
    rfl

end Cut

section Trim

/-- Blanks in front of a text are dropped. -/
theorem dropBlank_blanks_append {ws rest : List Char} (hws : ∀ c ∈ ws, isBlank c = true) :
    dropBlank (ws ++ rest) = dropBlank rest :=
  List.dropWhile_append_of_pos hws

/-- A text that does not start with a blank keeps its front. -/
theorem dropBlank_of_head {cs : List Char} (h : ∀ c ∈ cs.head?, isBlank c = false) :
    dropBlank cs = cs := by
  cases cs with
  | nil => rfl
  | cons c rest => exact List.dropWhile_cons_of_neg (by simpa using h c rfl)

/-- Trimming a name between blanks gives the name back, when it neither starts nor ends with a
blank. -/
theorem trimBlankList_between {lead name trail : List Char}
    (hlead : ∀ c ∈ lead, isBlank c = true) (htrail : ∀ c ∈ trail, isBlank c = true)
    (hname : name ≠ []) (hhead : ∀ c ∈ name.head?, isBlank c = false)
    (hlast : ∀ c ∈ name.getLast?, isBlank c = false) :
    trimBlankList (lead ++ name ++ trail) = name := by
  have hfront : dropBlank (lead ++ name ++ trail) = name ++ trail := by
    rw [List.append_assoc, dropBlank_blanks_append hlead]
    obtain ⟨c, rest, rfl⟩ := List.exists_cons_of_ne_nil hname
    exact dropBlank_of_head (by simpa using hhead)
  have hback : dropBlank (name ++ trail).reverse = name.reverse := by
    rw [List.reverse_append, dropBlank_blanks_append (by simpa using htrail)]
    exact dropBlank_of_head (by simpa [List.head?_reverse] using hlast)
  rw [trimBlankList, hfront, hback, List.reverse_reverse]

/-- A text trims to nothing exactly when it is all blanks. -/
theorem trimBlankList_eq_nil_iff {cs : List Char} :
    trimBlankList cs = [] ↔ ∀ c ∈ cs, isBlank c = true := by
  unfold trimBlankList dropBlank
  rw [List.reverse_eq_nil_iff, List.dropWhile_eq_nil_iff,
    ← List.dropWhile_eq_nil_iff (p := isBlank) (l := cs)]
  constructor
  · intro h
    by_contra hne
    have hfirst := List.head_dropWhile_not isBlank hne
    have hblank := h _ (List.mem_reverse.2 (List.head_mem hne))
    rw [hfirst] at hblank
    exact Bool.false_ne_true hblank
  · intro h c hc
    rw [h] at hc
    simp at hc

/-- A text that does not trim to nothing is blanks, its trimmed form and blanks, and the trimmed
form neither starts nor ends with a blank. The trimmed form starts where the blanks in front end and
ends where the blanks behind it start. -/
theorem exists_blanks_of_trim {cs : List Char} (h : trimBlankList cs ≠ []) :
    ∃ lead trail, cs = lead ++ trimBlankList cs ++ trail ∧
      (∀ c ∈ lead, isBlank c = true) ∧ (∀ c ∈ trail, isBlank c = true) ∧
      (∀ c ∈ (trimBlankList cs).head?, isBlank c = false) ∧
      (∀ c ∈ (trimBlankList cs).getLast?, isBlank c = false) := by
  have hcs : cs = cs.takeWhile isBlank ++ dropBlank cs := List.takeWhile_append_dropWhile.symm
  have hsplit : dropBlank cs =
      trimBlankList cs ++ ((dropBlank cs).reverse.takeWhile isBlank).reverse := by
    calc dropBlank cs = (dropBlank cs).reverse.reverse := (List.reverse_reverse _).symm
      _ = ((dropBlank cs).reverse.takeWhile isBlank ++ dropBlank (dropBlank cs).reverse).reverse := by
          unfold dropBlank
          rw [List.takeWhile_append_dropWhile]
      _ = _ := by rw [List.reverse_append]; rfl
  have hback : dropBlank (dropBlank cs).reverse ≠ [] := fun h0 => h (by simp [trimBlankList, h0])
  have hfront : dropBlank cs ≠ [] := fun h0 => hback (by simp [h0]; rfl)
  refine ⟨cs.takeWhile isBlank, ((dropBlank cs).reverse.takeWhile isBlank).reverse, ?_, ?_, ?_,
    ?_, ?_⟩
  · rw [List.append_assoc, ← hsplit]
    exact hcs
  · exact fun c hc => List.mem_takeWhile_imp hc
  · exact fun c hc => List.mem_takeWhile_imp (List.mem_reverse.1 hc)
  · intro c hc
    have hhead : (dropBlank cs).head? = some c := by
      rw [hsplit, List.head?_append, hc]
      rfl
    rw [List.head?_eq_some_head hfront, Option.some.injEq] at hhead
    rw [← hhead]
    exact List.head_dropWhile_not isBlank hfront
  · intro c hc
    rw [trimBlankList, List.getLast?_reverse, List.head?_eq_some_head hback,
      Option.mem_def, Option.some.injEq] at hc
    rw [← hc]
    exact List.head_dropWhile_not isBlank hback

end Trim

/-- A line laid out as the declaration of a name: a text holding neither the marker nor `(`, the
marker, blanks, the name, blanks, `(` and anything after. The name is not empty, holds no `(`,
and neither starts nor ends with a blank. -/
structure DeclLayout where
  front : List Char
  lead : List Char
  name : List Char
  trail : List Char
  back : List Char
  front_unmarked : ¬nameMarker <:+: front
  front_no_paren : '(' ∉ front
  lead_blank : ∀ c ∈ lead, isBlank c = true
  trail_blank : ∀ c ∈ trail, isBlank c = true
  name_ne_nil : name ≠ []
  name_no_paren : '(' ∉ name
  name_head : ∀ c ∈ name.head?, isBlank c = false
  name_last : ∀ c ∈ name.getLast?, isBlank c = false

namespace DeclLayout

/-- The line a layout spells. -/
def line (d : DeclLayout) : List Char :=
  d.front ++ nameMarker ++ d.lead ++ d.name ++ d.trail ++ '(' :: d.back

/-- The text between the marker and `(`. -/
def field (d : DeclLayout) : List Char :=
  d.lead ++ d.name ++ d.trail

end DeclLayout

theorem paren_not_blank : isBlank '(' = false := by decide

theorem paren_not_mem_of_blank {cs : List Char} (h : ∀ c ∈ cs, isBlank c = true) : '(' ∉ cs :=
  fun hc => absurd (h '(' hc) (by rw [paren_not_blank]; exact Bool.false_ne_true)

/-- The text before the first `(`, when it holds none. -/
theorem takeWhile_paren {mid back : List Char} (h : '(' ∉ mid) :
    (mid ++ '(' :: back).takeWhile (· ≠ '(') = mid := by
  rw [List.takeWhile_append_of_pos fun c hc => decide_eq_true (by rintro rfl; exact h hc)]
  simp

theorem paren_not_mem_takeWhile (post : List Char) : '(' ∉ post.takeWhile (· ≠ '(') :=
  fun hm => by simpa using List.mem_takeWhile_imp hm

/-- A text holding `(` is the text before its first `(`, the `(` and the rest. -/
theorem eq_takeWhile_paren_append {post : List Char} (h : '(' ∈ post) :
    post = post.takeWhile (· ≠ '(') ++ '(' :: (post.dropWhile (· ≠ '(')).tail := by
  have hdrop : post.dropWhile (· ≠ '(') ≠ [] := by
    intro h0
    simpa using List.dropWhile_eq_nil_iff.1 h0 '(' h
  obtain ⟨c, rest, hcr⟩ := List.exists_cons_of_ne_nil hdrop
  have hc : c = '(' := by
    have hhead : (post.dropWhile (· ≠ '(')).head hdrop = c := by simp only [hcr, List.head_cons]
    have hfirst := List.head_dropWhile_not (fun c => decide (c ≠ '(')) hdrop
    rw [hhead] at hfirst
    simpa using hfirst
  calc post = post.takeWhile (· ≠ '(') ++ post.dropWhile (· ≠ '(') :=
        List.takeWhile_append_dropWhile.symm
    _ = _ := by rw [hcr, hc]; rfl

theorem DeclLayout.field_no_paren (d : DeclLayout) : '(' ∉ d.field := by
  simp only [DeclLayout.field, List.mem_append, not_or]
  exact ⟨⟨paren_not_mem_of_blank d.lead_blank, d.name_no_paren⟩,
    paren_not_mem_of_blank d.trail_blank⟩

/-- The cut of a laid out line falls right after its front. -/
theorem DeclLayout.cutAt_line (d : DeclLayout) :
    cutAt nameMarker d.line = some (d.front, d.field ++ '(' :: d.back) := by
  have hline : d.line = d.front ++ nameMarker ++ (d.field ++ '(' :: d.back) := by
    simp [DeclLayout.line, DeclLayout.field]
  rw [hline]
  exact cutAt_append (by decide) nameMarker_borderFree _ d.front_unmarked

theorem DeclLayout.trim_field (d : DeclLayout) : trimBlankList d.field = d.name :=
  trimBlankList_between d.lead_blank d.trail_blank d.name_ne_nil d.name_head d.name_last

/-- The blanks in front of a name that does not start with a blank. -/
theorem DeclLayout.lead_eq (d : DeclLayout) : d.field.takeWhile isBlank = d.lead := by
  obtain ⟨c, cs, hname⟩ := List.exists_cons_of_ne_nil d.name_ne_nil
  have hc : isBlank c = false := d.name_head c (by simp [hname])
  rw [DeclLayout.field, List.append_assoc, List.takeWhile_append_of_pos d.lead_blank, hname,
    List.cons_append, List.takeWhile_cons_of_neg (by simp [hc]), List.append_nil]

section Read

variable {line pre post : List Char}

theorem extractNameList_of_no_cut (h : cutAt nameMarker line = none) :
    extractNameList line = .error .noMarker := by
  simp [extractNameList, h]

theorem extractNameList_of_paren (h : cutAt nameMarker line = some (pre, post))
    (hp : '(' ∈ pre ∨ '(' ∉ post) : extractNameList line = .error .noParen := by
  have hc : (pre.contains '(' || !post.contains '(') = true := by simpa using hp
  simp only [extractNameList, h, hc, if_true]

theorem extractNameList_of_field (h : cutAt nameMarker line = some (pre, post))
    (hpre : '(' ∉ pre) (hpost : '(' ∈ post) :
    extractNameList line =
      if trimBlankList (post.takeWhile (· ≠ '(')) = [] then .error .emptyName
      else .ok (trimBlankList (post.takeWhile (· ≠ '('))) := by
  have hc : (pre.contains '(' || !post.contains '(') = false := by simpa using ⟨hpre, hpost⟩
  simp only [extractNameList, h, hc, Bool.false_eq_true, if_false]
  split <;> simp_all

/-- A laid out line reads as its name. -/
theorem extractNameList_line (d : DeclLayout) : extractNameList d.line = .ok d.name := by
  have hpost : '(' ∈ d.field ++ '(' :: d.back := by simp
  rw [extractNameList_of_field d.cutAt_line d.front_no_paren hpost,
    takeWhile_paren d.field_no_paren, d.trim_field, if_neg d.name_ne_nil]

/-- A line that reads as a name lays that name out. The text after the marker is blanks, the name
and blanks, then the first `(`. -/
theorem exists_layout_of_extractNameList {n : List Char} (h : extractNameList line = .ok n) :
    ∃ d : DeclLayout, d.line = line ∧ d.name = n := by
  cases hcut : cutAt nameMarker line with
  | none => rw [extractNameList_of_no_cut hcut] at h; cases h
  | some cut =>
    obtain ⟨pre, post⟩ := cut
    obtain ⟨hline, hfirst⟩ := cutAt_eq_some (by decide) hcut
    by_cases hp : '(' ∈ pre ∨ '(' ∉ post
    · rw [extractNameList_of_paren hcut hp] at h
      cases h
    rw [not_or, not_not] at hp
    rw [extractNameList_of_field hcut hp.1 hp.2] at h
    split at h
    · cases h
    rename_i hne
    cases h
    obtain ⟨lead, trail, hsplit, hlead, htrail, hhead, hlast⟩ := exists_blanks_of_trim hne
    refine ⟨⟨pre, lead, trimBlankList (post.takeWhile (· ≠ '(')), trail,
      (post.dropWhile (· ≠ '(')).tail, hfirst, hp.1, hlead, htrail, hne,
      fun hm => paren_not_mem_takeWhile post ?_, hhead, hlast⟩, ?_, rfl⟩
    · rw [hsplit]
      exact List.mem_append_left _ (List.mem_append_right _ hm)
    · simp only [DeclLayout.line]
      rw [hline]
      conv_rhs => rw [eq_takeWhile_paren_append hp.2, hsplit]
      simp

/-- A line lays out at most one declaration. -/
theorem DeclLayout.line_injective {d d' : DeclLayout} (h : d.line = d'.line) : d = d' := by
  have hcut := d'.cutAt_line
  rw [← h, d.cutAt_line, Option.some.injEq, Prod.mk.injEq] at hcut
  obtain ⟨hfront, hrest⟩ := hcut
  have hfield : d.field = d'.field := by
    rw [← @takeWhile_paren d.field d.back d.field_no_paren, hrest,
      takeWhile_paren d'.field_no_paren]
  have hback : d.back = d'.back := by
    rw [hfield] at hrest
    exact List.cons_injective (List.append_cancel_left hrest)
  have hname : d.name = d'.name := by rw [← d.trim_field, hfield, d'.trim_field]
  have hlead : d.lead = d'.lead := by rw [← d.lead_eq, hfield, d'.lead_eq]
  have htrail : d.trail = d'.trail := by
    have := hfield
    simp only [DeclLayout.field, hlead, hname, List.append_assoc] at this
    exact List.append_cancel_left (List.append_cancel_left this)
  cases d
  cases d'
  simp_all

/-- The reading fails for want of the marker exactly when the line does not hold it. -/
theorem extractNameList_noMarker_iff :
    extractNameList line = .error .noMarker ↔ ¬nameMarker <:+: line := by
  rw [← cutAt_eq_none_iff (by decide)]
  constructor
  · intro h
    cases hcut : cutAt nameMarker line with
    | none => rfl
    | some cut =>
      obtain ⟨pre, post⟩ := cut
      by_cases hp : '(' ∈ pre ∨ '(' ∉ post
      · rw [extractNameList_of_paren hcut hp] at h
        cases h
      · rw [not_or, not_not] at hp
        rw [extractNameList_of_field hcut hp.1 hp.2] at h
        split at h <;> cases h
  · exact extractNameList_of_no_cut

/-- The reading fails for want of `(` exactly when the line holds the marker but no `(` follows
its first occurrence, or a `(` stands before it. -/
theorem extractNameList_noParen_iff :
    extractNameList line = .error .noParen ↔ ∃ pre post, line = pre ++ nameMarker ++ post ∧
      ¬nameMarker <:+: pre ∧ ('(' ∈ pre ∨ '(' ∉ post) := by
  constructor
  · intro h
    cases hcut : cutAt nameMarker line with
    | none => rw [extractNameList_of_no_cut hcut] at h; cases h
    | some cut =>
      obtain ⟨pre, post⟩ := cut
      obtain ⟨hline, hfirst⟩ := cutAt_eq_some (by decide) hcut
      refine ⟨pre, post, hline, hfirst, ?_⟩
      by_contra hp
      rw [not_or, not_not] at hp
      rw [extractNameList_of_field hcut hp.1 hp.2] at h
      split at h <;> cases h
  · rintro ⟨pre, post, rfl, hfirst, hp⟩
    exact extractNameList_of_paren (cutAt_append (by decide) nameMarker_borderFree post hfirst) hp

/-- The reading finds an empty name exactly when only blanks stand between the first marker and
a `(` after it, with no `(` before the marker. -/
theorem extractNameList_emptyName_iff :
    extractNameList line = .error .emptyName ↔ ∃ pre blanks rest,
      line = pre ++ nameMarker ++ blanks ++ '(' :: rest ∧ ¬nameMarker <:+: pre ∧ '(' ∉ pre ∧
      ∀ c ∈ blanks, isBlank c = true := by
  constructor
  · intro h
    cases hcut : cutAt nameMarker line with
    | none => rw [extractNameList_of_no_cut hcut] at h; cases h
    | some cut =>
      obtain ⟨pre, post⟩ := cut
      obtain ⟨hline, hfirst⟩ := cutAt_eq_some (by decide) hcut
      by_cases hp : '(' ∈ pre ∨ '(' ∉ post
      · rw [extractNameList_of_paren hcut hp] at h
        cases h
      rw [not_or, not_not] at hp
      rw [extractNameList_of_field hcut hp.1 hp.2] at h
      split at h
      · rename_i hnil
        refine ⟨pre, post.takeWhile (· ≠ '('), (post.dropWhile (· ≠ '(')).tail, ?_, hfirst, hp.1,
          trimBlankList_eq_nil_iff.1 hnil⟩
        conv_lhs => rw [hline, eq_takeWhile_paren_append hp.2]
        simp
      · cases h
  · rintro ⟨pre, blanks, rest, rfl, hfirst, hpre, hblank⟩
    have hcut : cutAt nameMarker (pre ++ nameMarker ++ blanks ++ '(' :: rest) =
        some (pre, blanks ++ '(' :: rest) := by
      rw [List.append_assoc _ blanks]
      exact cutAt_append (by decide) nameMarker_borderFree _ hfirst
    rw [extractNameList_of_field hcut hpre (by simp), takeWhile_paren (paren_not_mem_of_blank hblank),
      if_pos (trimBlankList_eq_nil_iff.2 hblank)]

end Read

/-- The name read from a text is the name read from its characters. -/
theorem extractName_eq_ok_iff {line n : String} :
    extractName line = .ok n ↔ extractNameList line.toList = .ok n.toList := by
  unfold extractName
  cases extractNameList line.toList with
  | error e => simp [Except.map]
  | ok name =>
    simp only [Except.map, Except.ok.injEq]
    constructor
    · rintro rfl
      simp
    · intro h
      rw [h, String.ofList_toList]

theorem extractName_eq_error_iff {line : String} {e : NameError} :
    extractName line = .error e ↔ extractNameList line.toList = .error e := by
  unfold extractName
  cases extractNameList line.toList <;> simp [Except.map]

/-- **The declared name of a line.** A line yields the name `n` exactly when it lays out a
declaration of `n`; a line lays out at most one declaration, and a laid out line yields its
name. Otherwise the reading fails for want of the marker exactly when the line has none, for
want of `(` exactly when no `(` follows the first marker or one stands before it, and with an
empty name exactly when only blanks stand between the first marker and a `(` after it. -/
theorem extractName_iff_layout (line : String) :
    (∀ n : String, extractName line = .ok n ↔
      ∃ d : DeclLayout, d.line = line.toList ∧ d.name = n.toList) ∧
    (∀ d d' : DeclLayout, d.line = d'.line → d = d') ∧
    (∀ d : DeclLayout, extractName (String.ofList d.line) = .ok (String.ofList d.name)) ∧
    (extractName line = .error .noMarker ↔ ¬nameMarker <:+: line.toList) ∧
    (extractName line = .error .noParen ↔ ∃ pre post, line.toList = pre ++ nameMarker ++ post ∧
      ¬nameMarker <:+: pre ∧ ('(' ∈ pre ∨ '(' ∉ post)) ∧
    (extractName line = .error .emptyName ↔ ∃ pre blanks rest,
      line.toList = pre ++ nameMarker ++ blanks ++ '(' :: rest ∧ ¬nameMarker <:+: pre ∧
      '(' ∉ pre ∧ ∀ c ∈ blanks, isBlank c = true) := by
  refine ⟨fun n => ?_, fun d d' h => DeclLayout.line_injective h, fun d => ?_, ?_, ?_, ?_⟩
  · rw [extractName_eq_ok_iff]
    constructor
    · exact exists_layout_of_extractNameList
    · rintro ⟨d, hline, hname⟩
      rw [← hline, ← hname]
      exact extractNameList_line d
  · rw [extractName_eq_ok_iff, String.toList_ofList, String.toList_ofList]
    exact extractNameList_line d
  · rw [extractName_eq_error_iff]
    exact extractNameList_noMarker_iff
  · rw [extractName_eq_error_iff]
    exact extractNameList_noParen_iff
  · rw [extractName_eq_error_iff]
    exact extractNameList_emptyName_iff

end CrossBuild.Header
