import CrossBuild.Text.LineScanner

/-!
# A line scanner hands out the pieces of its input

Cut a stream of bytes after every line feed (`pieces`): whatever the reader hands out at each
read, a line scanner whose buffer starts no larger than its limit hands out these pieces in
order, each without its line feed and one carriage return, up to the first piece of `limit`
bytes or more (counting its line feed, or one more for a last piece without one), where it stops
with `ScanError.tooLong` (`LineScanner.run_new`). So a piece of `limit - 1` bytes and its line
feed still fits, and a last piece of `limit` bytes without a line feed does not.

The proof keeps one invariant, `LineScanner.Sound`: the held bytes fit in the buffer, the buffer
fits in the limit, and once the reader has ended there is still room behind the held bytes.
Under it every turn of the loop hands out the first piece of the bytes not yet handed out
(`LineScanner.pending`), or reads on and keeps them as they are, or stops where the pieces say
it stops (`LineScanner.step_keeps`). The run follows by induction on the weight of the scanner.
-/

namespace CrossBuild.Text

section Pieces

variable {α : Type} [DecidableEq α]

/-- The pieces of a list between separators `sep`. The part after the last separator is a last
piece when it is not empty. -/
def pieces (sep : α) : List α → List (List α)
  | [] => []
  | a :: as =>
    if a = sep then [] :: pieces sep as
    else
      match pieces sep as with
      | [] => [[a]]
      | p :: ps => (a :: p) :: ps

variable {sep : α}

@[simp] theorem pieces_nil : pieces sep [] = [] := rfl

/-- A separator ends the first piece. -/
theorem pieces_append_sep {p : List α} (hp : sep ∉ p) (q : List α) :
    pieces sep (p ++ sep :: q) = p :: pieces sep q := by
  induction p with
  | nil => simp [pieces]
  | cons a p ih =>
    have ha : a ≠ sep := fun h => hp (h ▸ List.mem_cons_self)
    simp [pieces, ha, ih (fun h => hp (List.mem_cons_of_mem a h))]

/-- An element other than the separator opens the first piece. -/
theorem pieces_cons_of_ne {a : α} (ha : a ≠ sep) (q : List α) :
    pieces sep (a :: q) = (a :: (pieces sep q).headD []) :: (pieces sep q).tail := by
  simp only [pieces, ha, if_false]
  split <;> simp_all

/-- A non-empty start without separators opens the first piece. -/
theorem pieces_append_of_not_mem {p : List α} (hp : sep ∉ p) (hne : p ≠ []) (q : List α) :
    pieces sep (p ++ q) = (p ++ (pieces sep q).headD []) :: (pieces sep q).tail := by
  induction p with
  | nil => contradiction
  | cons a p ih =>
    have ha : a ≠ sep := fun h => hp (h ▸ List.mem_cons_self)
    rw [List.cons_append, pieces_cons_of_ne ha]
    cases p with
    | nil => simp
    | cons b p =>
      rw [ih (fun h => hp (List.mem_cons_of_mem a h)) (List.cons_ne_nil b p)]
      simp

/-- A non-empty list without separators is one piece. -/
theorem pieces_of_not_mem {p : List α} (hp : sep ∉ p) (hne : p ≠ []) : pieces sep p = [p] := by
  simpa using pieces_append_of_not_mem hp hne []

end Pieces

theorem idxOf?_eq_some_split {α : Type} [BEq α] [LawfulBEq α] {a : α} :
    ∀ {l : List α} {i : Nat}, l.idxOf? a = some i → ∃ p q, l = p ++ a :: q ∧ a ∉ p ∧ p.length = i
  | [], _, h => by simp at h
  | b :: l, i, h => by
    rw [List.idxOf?_cons] at h
    split at h
    · rename_i hb
      cases h
      exact ⟨[], l, by simp [eq_of_beq hb], by simp, rfl⟩
    · rename_i hb
      obtain ⟨j, hj, rfl⟩ := Option.map_eq_some_iff.1 h
      obtain ⟨p, q, rfl, hp, rfl⟩ := idxOf?_eq_some_split hj
      refine ⟨b :: p, q, rfl, ?_, rfl⟩
      simp only [List.mem_cons, not_or]
      exact ⟨fun hab => hb (by simp [hab]), hp⟩

open LineScanner in
/-- What a scanner whose buffer may grow up to `limit` bytes hands out for the pieces of its
input: each piece shorter than the limit, less one carriage return at its end, up to the first
piece that is not, where it stops with `tooLong`. -/
def linesOf (limit : Nat) : List (List UInt8) → List (List UInt8) × Option ScanError
  | [] => ([], none)
  | p :: ps =>
    if limit ≤ p.length then ([], some .tooLong)
    else
      let r := linesOf limit ps
      (dropCR p :: r.1, r.2)

namespace LineScanner

/-- The bytes a scanner has not handed out: those it holds and those still to come. -/
def pending (s : LineScanner) : List UInt8 := s.held ++ s.rest

/-- The invariant of a scanner: the held bytes fit in the buffer, the buffer fits in the limit,
and once the reader has ended nothing is to come and there is room behind the held bytes. -/
structure Sound (s : LineScanner) : Prop where
  top_le : s.top ≤ s.size
  size_le : s.size ≤ s.limit
  limit_pos : 0 < s.limit
  rest_of_ended : s.ended = true → s.rest = []
  room_of_ended : s.ended = true → s.top < s.size

/-- What a turn may do to a scanner with limit `limit` and the bytes `pending` not yet handed
out: hand out their first piece, shorter than the limit and less one carriage return; read on
and keep them as they are; or stop where `linesOf` stops. -/
def Keeps (limit : Nat) (pending : List UInt8) : Turn → Prop
  | .line l s' => s'.Sound ∧ s'.limit = limit ∧
      ∃ p, p.length < limit ∧ l = dropCR p ∧ pieces 10 pending = p :: pieces 10 s'.pending
  | .more s' => s'.Sound ∧ s'.limit = limit ∧ s'.pending = pending
  | .halt e => linesOf limit (pieces 10 pending) = ([], e)

@[simp] theorem compact_pending (s : LineScanner) : s.compact.pending = s.pending := by
  simp [pending]

@[simp] theorem grow_pending (s : LineScanner) : s.grow.pending = s.pending := rfl

@[simp] theorem grow_limit (s : LineScanner) : s.grow.limit = s.limit := rfl

theorem cutLine_eq_some {held : List UInt8} {ended : Bool} {n : Nat} {l : List UInt8}
    (h : cutLine held ended = some (n, l)) :
    (∃ p q, held = p ++ 10 :: q ∧ (10 : UInt8) ∉ p ∧ n = p.length + 1 ∧ l = dropCR p) ∨
      (ended = true ∧ held ≠ [] ∧ (10 : UInt8) ∉ held ∧ n = held.length ∧ l = dropCR held) := by
  unfold cutLine at h
  split at h
  · rename_i i hi
    obtain ⟨p, q, rfl, hp, rfl⟩ := idxOf?_eq_some_split hi
    cases h
    exact .inl ⟨p, q, rfl, hp, rfl, by simp⟩
  · rename_i hi
    split at h
    · rename_i hne
      cases h
      simp only [Bool.and_eq_true, Bool.not_eq_true', List.isEmpty_eq_false_iff] at hne
      exact .inr ⟨hne.1, hne.2, List.idxOf?_eq_none_iff.1 hi, rfl, rfl⟩
    · cases h

theorem cutLine_eq_none {held : List UInt8} {ended : Bool} (h : cutLine held ended = none) :
    (10 : UInt8) ∉ held ∧ (ended = true → held = []) := by
  unfold cutLine at h
  split at h
  · cases h
  · rename_i hi
    refine ⟨List.idxOf?_eq_none_iff.1 hi, fun hend => ?_⟩
    split at h
    · cases h
    · rename_i hne
      simpa [hend] using hne

theorem compact_top_le (s : LineScanner) : s.compact.top ≤ s.top := by
  unfold LineScanner.compact
  split <;> simp [top]

theorem Sound.compact {s : LineScanner} (hs : s.Sound) : s.compact.Sound := by
  have htop := compact_top_le s
  refine ⟨?_, by simpa using hs.size_le, by simpa using hs.limit_pos,
    by simpa using hs.rest_of_ended, fun h => ?_⟩
  · have := hs.top_le
    simp only [compact_size]
    omega
  · have := hs.room_of_ended (by simpa using h)
    simp only [compact_size]
    omega

/-- A compacted buffer that is full holds its bytes from the front. -/
theorem compact_start_of_full {s : LineScanner} (h : s.compact.top = s.compact.size) :
    s.compact.start = 0 := by
  unfold LineScanner.compact at *
  split
  · rfl
  · rename_i hno
    rw [if_neg hno] at h
    simp only [top] at h hno
    omega

/-- A full buffer below the limit grows, and then has room behind its held bytes. -/
theorem Sound.grow {s : LineScanner} (hs : s.Sound) (hfull : s.top = s.size)
    (hlt : s.size < s.limit) (hstart : s.start = 0) : s.grow.Sound ∧ s.grow.top < s.grow.size := by
  have hpos := hs.limit_pos
  have hgrow : s.size < s.grow.size := by
    simp only [LineScanner.grow, firstSize]
    split <;> omega
  have hle : s.grow.size ≤ s.limit := Nat.min_le_right _ _
  have htop : s.grow.top = s.top := by simp [LineScanner.grow, top, hstart]
  exact ⟨⟨by omega, hle, hpos, hs.rest_of_ended, fun _ => by omega⟩, by omega⟩

theorem read_keeps (rd : Reader) {s : LineScanner} (hs : s.Sound) (hend : s.ended = false)
    (hroom : s.top < s.size) : Keeps s.limit s.pending (read rd s) := by
  unfold read
  split
  · rename_i hrest
    exact ⟨⟨hs.top_le, hs.size_le, hs.limit_pos, fun _ => hrest, fun _ => hroom⟩, rfl,
      by simp [pending]⟩
  · rename_i b bs hrest
    dsimp only
    have hpos := rd.count_pos (s.size - s.top) (b :: bs) (by omega) (List.cons_ne_nil b bs)
    have hle := rd.count_le (s.size - s.top) (b :: bs)
    generalize rd.count (s.size - s.top) (b :: bs) = n at hpos hle
    rw [if_neg (Nat.pos_iff_ne_zero.1 hpos)]
    refine ⟨⟨?_, hs.size_le, hs.limit_pos, by simp [hend], by simp [hend]⟩, rfl, ?_⟩
    · simp only [top, List.length_append, List.length_take] at hle ⊢
      omega
    · simp [pending, hrest]

/-- A full buffer at the limit without a line feed holds the start of a piece that is too
long. -/
theorem tooLong_keeps {s : LineScanner} (hs : s.Sound) (hnl : (10 : UInt8) ∉ s.held)
    (hfull : s.top = s.size) (hstart : s.start = 0) (hlim : s.limit ≤ s.size) :
    linesOf s.limit (pieces 10 s.pending) = ([], some .tooLong) := by
  have hlen : s.limit ≤ s.held.length := by simp only [top, hstart] at hfull; omega
  have hne : s.held ≠ [] := List.ne_nil_of_length_pos (by have := hs.limit_pos; omega)
  rw [pending, pieces_append_of_not_mem hnl hne, linesOf, if_pos (by simp; omega)]

theorem line_keeps {s : LineScanner} {n : Nat} {l : List UInt8} (hs : s.Sound)
    (hcut : cutLine s.held s.ended = some (n, l)) :
    Keeps s.limit s.pending (.line l { s with start := s.start + n, held := s.held.drop n }) := by
  have htaken := cutLine_taken hcut
  refine ⟨⟨?_, hs.size_le, hs.limit_pos, hs.rest_of_ended, fun h => ?_⟩, rfl, ?_⟩
  · have := hs.top_le; simp only [top, List.length_drop] at *; omega
  · have := hs.room_of_ended h; simp only [top, List.length_drop] at *; omega
  · rcases cutLine_eq_some hcut with ⟨p, q, hheld, hp, rfl, rfl⟩ | ⟨hend, hne, hnl, rfl, rfl⟩
    · have hlt : p.length < s.limit := by
        have := hs.top_le; have := hs.size_le
        simp only [top, hheld, List.length_append, List.length_cons] at *; omega
      refine ⟨p, hlt, rfl, ?_⟩
      simp [pending, hheld, pieces_append_sep hp]
    · have hlt : s.held.length < s.limit := by
        have := hs.room_of_ended hend; have := hs.size_le; simp only [top] at *; omega
      refine ⟨s.held, hlt, rfl, ?_⟩
      simp [pending, hs.rest_of_ended hend, pieces_of_not_mem hnl hne]

/-- **Every turn keeps the pieces.** A turn of a sound scanner hands out the first piece of its
pending bytes, or keeps them, or stops where their pieces stop. -/
theorem step_keeps (rd : Reader) {s : LineScanner} (hs : s.Sound) :
    Keeps s.limit s.pending (step rd s) := by
  unfold step
  split
  · rename_i n l hcut
    exact line_keeps hs hcut
  · rename_i hcut
    obtain ⟨hnl, hempty⟩ := cutLine_eq_none hcut
    split
    · rename_i hend
      simp [Keeps, pending, hempty hend, hs.rest_of_ended hend, linesOf]
    · rename_i hend
      have hend : s.ended = false := by simpa using hend
      have hc := hs.compact
      dsimp only
      split
      · rename_i hfull
        have hstart := compact_start_of_full hfull
        split
        · rename_i hlim
          have := tooLong_keeps hc (by simpa using hnl) hfull hstart hlim
          simpa [Keeps] using this
        · rename_i hlim
          obtain ⟨hg, hroom⟩ := hc.grow hfull (by omega) hstart
          have := read_keeps rd hg (by simp [LineScanner.grow, hend]) hroom
          simpa using this
      · rename_i hfull
        have := read_keeps rd hc (by simpa using hend) (by have := hc.top_le; omega)
        simpa using this

/-- **A run hands out the pieces.** A sound scanner hands out what `linesOf` makes of the pieces
of its pending bytes. -/
theorem run_sound (rd : Reader) (s : LineScanner) (hs : s.Sound) :
    s.run rd = linesOf s.limit (pieces 10 s.pending) := by
  have hk := step_keeps rd hs
  rw [run]
  split
  · rename_i l s' hstep
    rw [hstep] at hk
    obtain ⟨hs', hlim, p, hp, rfl, hpieces⟩ := hk
    rw [run_sound rd s' hs', hpieces, hlim, linesOf, if_neg (Nat.not_le.2 hp)]
  · rename_i s' hstep
    rw [hstep] at hk
    obtain ⟨hs', hlim, hpend⟩ := hk
    rw [run_sound rd s' hs', hlim, hpend]
  · rename_i e hstep
    rw [hstep] at hk
    exact hk.symm
termination_by s.weight
decreasing_by
  · exact step_weight_line ‹_›
  · exact step_weight_more ‹_›

/-- **A line scanner hands out the pieces of its input.** Whatever the reader hands out at each
read, a new scanner whose buffer is no larger than its limit hands out the pieces of its input
between line feeds, each less one carriage return, up to the first piece of `limit` bytes or
more, where it stops with `tooLong`. -/
theorem run_new (rd : Reader) {size limit : Nat} (hsize : size ≤ limit) (hlimit : 0 < limit)
    (input : List UInt8) : (new size limit input).run rd = linesOf limit (pieces 10 input) :=
  run_sound rd _ ⟨by simp [new, top], hsize, hlimit, by simp [new], by simp [new]⟩

end LineScanner

end CrossBuild.Text
