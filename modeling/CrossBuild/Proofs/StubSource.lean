import Mathlib.Data.List.Basic
import CrossBuild.Proofs.HeaderScan
import CrossBuild.Proofs.DeclName

/-!
# The stub source lists its symbols, one line each

`Symbols.render` writes a fixed header, the line `void NAME() { for(;;); }` for each name in
order, and a fixed footer. When no name holds a line feed (`Symbols.SingleLine`), the names can
be read back from the source (`readStub`): drop the header and the footer, cut what is left into
lines, and take each line's text between `void ` and `() { for(;;); }`. So the source defines
one function per name, in order, and two such sets with the same source list the same names.

Every set the scanner builds is such a set. A name is read between the marker and the first `(`
of one line (`exists_layout_of_extractNameList`), and the lines of a header are the pieces
between its line feeds (`Text.pieces`), so no name holds a line feed.

The main statement is `Symbols.render_lists_names`. Without the condition it fails: a name made
of `a() { for(;;); }`, a line feed and `void b` renders as the two names `a` and `b` do.
-/

namespace CrossBuild

namespace Text

section Pieces

variable {α : Type} [DecidableEq α] {sep : α}

/-- No piece holds the separator. -/
theorem not_mem_of_mem_pieces : ∀ {l p : List α}, p ∈ pieces sep l → sep ∉ p
  | [], _, h => by simp at h
  | a :: as, p, h => by
    by_cases ha : a = sep
    · rw [pieces, if_pos ha] at h
      rcases List.mem_cons.1 h with rfl | h
      · exact List.not_mem_nil
      · exact not_mem_of_mem_pieces h
    · rw [pieces_cons_of_ne ha] at h
      rcases List.mem_cons.1 h with rfl | h
      · rw [List.mem_cons, not_or]
        refine ⟨Ne.symm ha, fun hs => ?_⟩
        cases hq : pieces sep as with
        | nil => simp [hq] at hs
        | cons q qs =>
          rw [hq, List.headD_cons] at hs
          exact not_mem_of_mem_pieces (hq ▸ List.mem_cons_self) hs
      · exact not_mem_of_mem_pieces (List.mem_of_mem_tail h)

/-- Lines without the separator, each ended by it, are cut back into those lines. -/
theorem pieces_flatMap_append_sep :
    ∀ {ls : List (List α)}, (∀ l ∈ ls, sep ∉ l) → pieces sep (ls.flatMap (· ++ [sep])) = ls
  | [], _ => rfl
  | l :: ls, h => by
    rw [List.flatMap_cons, List.append_assoc, List.singleton_append,
      pieces_append_sep (h l List.mem_cons_self),
      pieces_flatMap_append_sep fun l' hl' => h l' (List.mem_cons_of_mem l hl')]

end Pieces

end Text

namespace Header

open CrossBuild.Text

namespace Symbols

/-- No name of the set holds a line feed. -/
def SingleLine (s : Symbols) : Prop :=
  ∀ n ∈ s.names.toList, '\n' ∉ n.toList

theorem singleLine_empty : ({} : Symbols).SingleLine := by
  simp [SingleLine]

variable {s : Symbols}

/-- An addition keeps the names there and may add its own, whatever the map says. -/
theorem mem_names_add {x y : String} (h : y ∈ (s.add x).2.names.toList) :
    y ∈ s.names.toList ∨ y = x := by
  unfold add at h
  dsimp only at h
  split at h
  · exact .inl h
  · simpa using h

theorem SingleLine.add (hs : s.SingleLine) {x : String} (hx : '\n' ∉ x.toList) :
    (s.add x).2.SingleLine := fun y hy => by
  rcases mem_names_add hy with hy | rfl
  · exact hs y hy
  · exact hx

theorem SingleLine.addAll (hs : s.SingleLine) {xs : List String}
    (hxs : ∀ x ∈ xs, '\n' ∉ x.toList) : (s.addAll xs).2.SingleLine := by
  induction xs generalizing s with
  | nil => exact hs
  | cons x xs ih =>
    rw [addAll_cons]
    exact ih (hs.add (hxs x List.mem_cons_self)) fun y hy => hxs y (List.mem_cons_of_mem x hy)

end Symbols

/-! ### Every name a scan reads lies on one line -/

theorem not_mem_stripCR {c : Char} {l : List Char} (h : c ∉ l) : c ∉ stripCR l := by
  unfold stripCR
  split
  · exact fun hc => h ((List.dropLast_subset l) hc)
  · exact h

/-- A name read from a line lies inside it, so a line without line feeds gives a name
without one. -/
theorem extractName_single_line {line n : String} (h : extractName line = .ok n)
    (hline : '\n' ∉ line.toList) : '\n' ∉ n.toList := by
  obtain ⟨d, hd, hn⟩ := exists_layout_of_extractNameList (extractName_eq_ok_iff.1 h)
  have hinside : d.name <:+: d.line :=
    ⟨d.front ++ nameMarker ++ d.lead, d.trail ++ '(' :: d.back, by simp [DeclLayout.line]⟩
  rw [← hn]
  exact fun hc => hline (hd ▸ hinside.subset hc)

/-- The names read from pieces without line feeds hold none. -/
theorem readPieces_single_line (file : String) (k : Nat) (raws : List (List Char))
    (hraws : ∀ raw ∈ raws, '\n' ∉ raw) : ∀ n ∈ (readPieces file k raws).1, '\n' ∉ n.toList := by
  fun_induction readPieces file k raws with
  | case1 => simp
  | case2 => simp
  | case3 k raw rest _ line _ name hname _ ih =>
    have hline : '\n' ∉ line.toList := by
      rw [String.toList_ofList]
      exact not_mem_stripCR (hraws raw List.mem_cons_self)
    rintro n (_ | ⟨_, hn⟩)
    · exact extractName_single_line hname hline
    · exact ih (fun r hr => hraws r (List.mem_cons_of_mem raw hr)) n hn
  | case4 => simp
  | case5 k raw rest _ line _ ih => exact ih fun r hr => hraws r (List.mem_cons_of_mem raw hr)

namespace Symbols

variable {syms : Symbols}

/-- A scan adds only names without line feeds, also when it stops early. -/
theorem SingleLine.scan (hs : syms.SingleLine) (rd : Reader) (file text : String) :
    (Header.scan rd file text syms).1.SingleLine := by
  rw [scan_eq_readPieces]
  exact hs.addAll (readPieces_single_line file 0 _ fun _ h => not_mem_of_mem_pieces h)

/-- Each file's scan keeps the set free of line feeds, and the next file starts from its set; a
missing path or a directory stops the reading with a fault. -/
theorem SingleLine.scanFilesInto (hs : syms.SingleLine) {d : Disk} {files : List String}
    {s : Symbols} (h : Header.scanFilesInto d files syms = .ok s) : s.SingleLine := by
  induction files generalizing syms with
  | nil =>
    cases h
    exact hs
  | cons file rest ih =>
    rw [Header.scanFilesInto] at h
    split at h
    · cases h
    · cases h
    · rename_i text _
      have hscan := hs.scan Text.Reader.whole file text
      split at h
      · rename_i syms' hsyms
        rw [hsyms] at hscan
        exact ih hscan h
      · cases h

/-- The symbols read from header files hold no line feed. -/
theorem singleLine_of_scanFiles {d : Disk} {files : List String} {s : Symbols}
    (h : scanFiles d files = .ok s) : s.SingleLine :=
  singleLine_empty.scanFilesInto h

end Symbols

/-! ### Reading the names back -/

/-- What every definition line holds before its name. -/
def lineHead : List Char := "void ".toList

/-- What every definition line holds after its name. -/
def lineTail : List Char := "() \x7b for(;;); \x7d".toList

/-- The name a definition line defines: its text between `void ` and `() { for(;;); }`. -/
def definedName (line : List Char) : Option String := do
  let rest ← line.dropPrefix? lineHead
  let name ← rest.dropSuffix? lineTail
  pure (String.ofList name)

/-- The names a stub source defines, read back: without the fixed header and footer it is cut
into lines, and each line must be a definition line. -/
def readStub (src : String) : Option (List String) := do
  let rest ← src.toList.dropPrefix? Symbols.header.toList
  let body ← rest.dropSuffix? Symbols.footer.toList
  (pieces '\n' body).mapM definedName

theorem dropPrefix?_append_self (p l : List Char) : (p ++ l).dropPrefix? p = some l :=
  List.dropPrefix?_append_of_beq l (beq_self_eq_true p)

theorem dropSuffix?_append_self (l s : List Char) : (l ++ s).dropSuffix? s = some l :=
  List.dropSuffix?_eq_some_iff.2 ⟨s, rfl, beq_self_eq_true s⟩

/-- The line that defines a name. -/
def defLine (n : String) : List Char := lineHead ++ n.toList ++ lineTail

theorem definedName_defLine (n : String) : definedName (defLine n) = some n := by
  simp [definedName, defLine, List.append_assoc, dropPrefix?_append_self,
    dropSuffix?_append_self]

theorem newline_not_mem_defLine {n : String} (h : '\n' ∉ n.toList) : '\n' ∉ defLine n := by
  simp only [defLine, List.mem_append, not_or]
  exact ⟨⟨by decide, h⟩, by decide⟩

theorem definition_toList (n : String) : (Symbols.definition n).toList = defLine n ++ ['\n'] := by
  have htail : ("() \x7b for(;;); \x7d\n" : String).toList = lineTail ++ ['\n'] := rfl
  rw [Symbols.definition, String.toList_append, String.toList_append, htail, defLine, lineHead]
  simp only [List.append_assoc]

/-- The characters of a stub source: the header, each name's line and a line feed, the footer. -/
theorem render_toList (s : Symbols) :
    s.render.toList = Symbols.header.toList ++
      (s.names.toList.map defLine).flatMap (· ++ ['\n']) ++ Symbols.footer.toList := by
  simp [Symbols.render, String.toList_join, definition_toList, List.flatMap_map]

/-- The names of a set whose names lie on one line each read back from its stub source. -/
theorem readStub_render {s : Symbols} (hs : s.SingleLine) : readStub s.render = some s.names.toList := by
  have hlines : ∀ l ∈ s.names.toList.map defLine, '\n' ∉ l := by
    intro l hl
    obtain ⟨n, hn, rfl⟩ := List.mem_map.1 hl
    exact newline_not_mem_defLine (hs n hn)
  simp only [readStub, render_toList, List.append_assoc, dropPrefix?_append_self,
    Option.bind_eq_bind, Option.bind_some]
  rw [dropSuffix?_append_self, Option.bind_some,
    pieces_flatMap_append_sep hlines, List.mapM_map,
    show definedName ∘ defLine = fun n => pure n from funext definedName_defLine, List.mapM_pure,
    List.map_id']
  rfl

/-- Two sets whose names lie on one line each and that render the same list the same names. -/
theorem names_eq_of_render_eq {s t : Symbols} (hs : s.SingleLine) (ht : t.SingleLine)
    (h : s.render = t.render) : s.names = t.names := by
  have hread := readStub_render hs
  rw [h, readStub_render ht, Option.some.injEq] at hread
  exact Array.toList_inj.1 hread.symm

/-- A name that holds a line feed can spell two definition lines. -/
example : ({ names := #["a() \x7b for(;;); \x7d\nvoid b"] } : Symbols).render =
    ({ names := #["a", "b"] } : Symbols).render := rfl

/-- **The stub source lists the symbols.** For a set whose names hold no line feed, dropping
the fixed header and footer of its source, cutting the rest into lines and taking each line's
text between `void ` and `() { for(;;); }` gives its names, in order; so two such sets with the
same source list the same names. Scanning a header into such a set keeps it such a set, also
when the scan stops early, and so is every set read from header files. -/
theorem Symbols.render_lists_names :
    (∀ s : Symbols, s.SingleLine → readStub s.render = some s.names.toList) ∧
    (∀ s t : Symbols, s.SingleLine → t.SingleLine → s.render = t.render → s.names = t.names) ∧
    (∀ (rd : Reader) (file text : String) (syms : Symbols), syms.SingleLine →
      (scan rd file text syms).1.SingleLine) ∧
    (∀ (d : Disk) (files : List String) (s : Symbols), scanFiles d files = .ok s →
      s.SingleLine) :=
  ⟨fun _ hs => readStub_render hs, fun _ _ hs ht h => names_eq_of_render_eq hs ht h,
    fun rd file text _ hs => hs.scan rd file text, fun _ _ _ h => Symbols.singleLine_of_scanFiles h⟩

/-- Two declared names, each read back from the stub source. -/
theorem twoNames_read_back :
    ({ names := #["alEnable", "alcOpenDevice"] } : Symbols).SingleLine ∧
      readStub ({ names := #["alEnable", "alcOpenDevice"] } : Symbols).render =
        some ["alEnable", "alcOpenDevice"] := by
  have hs : ({ names := #["alEnable", "alcOpenDevice"] } : Symbols).SingleLine := by
    simp [Symbols.SingleLine]
  exact ⟨hs, Symbols.render_lists_names.1 _ hs⟩

end Header

end CrossBuild
