/-!
# Reading lines from a stream of bytes

A `LineScanner` cuts a stream of bytes into lines the way a buffered line scanner does. It keeps
the bytes it has read and not yet handed out in a buffer, which starts at a given size and may
grow up to a limit. A line ends at a line feed, which is not part of it, and loses one carriage
return at its end; the bytes after the last line feed are a last line when there are any.

Each turn of its loop (`LineScanner.step`) does one of these:

| the buffer holds | the turn |
|---|---|
| a line feed | hands out the line before it |
| no line feed, and the reader has ended | hands out the rest as a last line, or stops when nothing is left |
| no line feed, and is full at the limit | stops with `ScanError.tooLong` |
| no line feed otherwise | reads more |

Before reading, the held bytes are moved to the front of the buffer when it is full or more than
half of it lies behind them; a buffer that is still full doubles, but never past the limit. The
reader (`Reader`) is asked for as many bytes as fit behind the held ones.
-/

namespace CrossBuild.Text

/-- Why a line scanner stops before the end of its input. -/
inductive ScanError where
  /-- A line does not fit into the largest buffer. -/
  | tooLong
  /-- The reader handed out nothing while it still had bytes to give. -/
  | noProgress
  deriving DecidableEq, Repr

/-- The words of each error. -/
def ScanError.message : ScanError → String
  | .tooLong => "bufio.Scanner: token too long"
  | .noProgress => "multiple Read calls return no data or error"

/-- A source of bytes. Asked to fill `room` free bytes of a buffer while the bytes `rest` are
still to come, it hands out `count room rest` of them: at least one when there is room and
something to come, and never more than there is room for or to come. Once nothing is to come,
it reports the end of its input. -/
structure Reader where
  /-- How many bytes a read hands out. -/
  count : Nat → List UInt8 → Nat
  count_pos : ∀ room rest, 0 < room → rest ≠ [] → 0 < count room rest
  count_le : ∀ room rest, count room rest ≤ min room rest.length

/-- The reader of a file or of a text in memory: every read fills all the room it can. -/
def Reader.whole : Reader where
  count room rest := min room rest.length
  count_pos _ _ hroom hrest := Nat.lt_min.2 ⟨hroom, List.length_pos_iff.2 hrest⟩
  count_le _ _ := Nat.le_refl _

/-- A line scanner between two turns of its loop. -/
structure LineScanner where
  /-- The size of the buffer. -/
  size : Nat
  /-- The size the buffer may not grow past. -/
  limit : Nat
  /-- Where the held bytes start in the buffer. -/
  start : Nat
  /-- The bytes read and not yet handed out. -/
  held : List UInt8
  /-- The bytes still to come from the reader. -/
  rest : List UInt8
  /-- Whether the reader has reported the end of its input. -/
  ended : Bool
  deriving Repr

/-- What one turn of the loop does. -/
inductive Turn where
  /-- Hand out a line and go on. -/
  | line (l : List UInt8) (next : LineScanner)
  /-- Go on with more bytes read, or with the end of the input seen. -/
  | more (next : LineScanner)
  /-- Stop, at the end of the input or with an error. -/
  | halt (err : Option ScanError)

namespace LineScanner

/-- The size an empty buffer grows to. -/
def firstSize : Nat := 4096

/-- A scanner of `input` whose buffer starts at `size` bytes and may grow up to `limit`. -/
def new (size limit : Nat) (input : List UInt8) : LineScanner :=
  { size, limit, start := 0, held := [], rest := input, ended := false }

/-- Where the held bytes end in the buffer. -/
def top (s : LineScanner) : Nat := s.start + s.held.length

/-- A line without one carriage return at its end. -/
def dropCR (l : List UInt8) : List UInt8 :=
  if l.getLast? = some 13 then l.dropLast else l

/-- The line rule. When the held bytes make a line, the number of them it takes and the line: up
to the first line feed, or all of them once the reader has ended. -/
def cutLine (held : List UInt8) (ended : Bool) : Option (Nat × List UInt8) :=
  match held.idxOf? 10 with
  | some i => some (i + 1, dropCR (held.take i))
  | none => if ended && !held.isEmpty then some (held.length, dropCR held) else none

/-- Move the held bytes to the front of the buffer when it is full or more than half of it lies
behind them. -/
def compact (s : LineScanner) : LineScanner :=
  if 0 < s.start ∧ (s.top = s.size ∨ s.size / 2 < s.start) then { s with start := 0 } else s

/-- A buffer twice as large, or `firstSize` for an empty one, but no larger than the limit, with
the held bytes at its front. -/
def grow (s : LineScanner) : LineScanner :=
  { s with size := min (if s.size = 0 then firstSize else s.size * 2) s.limit, start := 0 }

/-- Ask the reader for as many bytes as fit behind the held ones. -/
def read (rd : Reader) (s : LineScanner) : Turn :=
  match s.rest with
  | [] => .more { s with ended := true }
  | b :: bs =>
    let n := rd.count (s.size - s.top) (b :: bs)
    if n = 0 then .halt (some .noProgress)
    else .more { s with held := s.held ++ (b :: bs).take n, rest := (b :: bs).drop n }

/-- One turn of the loop. -/
def step (rd : Reader) (s : LineScanner) : Turn :=
  match cutLine s.held s.ended with
  | some (n, l) => .line l { s with start := s.start + n, held := s.held.drop n }
  | none =>
    if s.ended then .halt none
    else
      let s := s.compact
      if s.top = s.size then
        if s.limit ≤ s.size then .halt (some .tooLong) else read rd s.grow
      else read rd s

/-- What is left to do: a byte still to come counts twice, a held byte once, and the end of the
input once until it is seen. -/
def weight (s : LineScanner) : Nat :=
  2 * s.rest.length + s.held.length + (if s.ended then 0 else 1)

@[simp] theorem compact_held (s : LineScanner) : s.compact.held = s.held := by
  unfold compact; split <;> rfl

@[simp] theorem compact_rest (s : LineScanner) : s.compact.rest = s.rest := by
  unfold compact; split <;> rfl

@[simp] theorem compact_ended (s : LineScanner) : s.compact.ended = s.ended := by
  unfold compact; split <;> rfl

@[simp] theorem compact_limit (s : LineScanner) : s.compact.limit = s.limit := by
  unfold compact; split <;> rfl

@[simp] theorem compact_size (s : LineScanner) : s.compact.size = s.size := by
  unfold compact; split <;> rfl

theorem cutLine_taken {held : List UInt8} {ended : Bool} {n : Nat} {l : List UInt8}
    (h : cutLine held ended = some (n, l)) : 0 < n ∧ n ≤ held.length := by
  unfold cutLine at h
  split at h
  · rename_i i hi
    cases h
    obtain ⟨hlt, -⟩ := List.idxOf?_eq_some_iff.1 hi
    omega
  · split at h
    · rename_i hne
      cases h
      simp only [Bool.and_eq_true, Bool.not_eq_true', List.isEmpty_eq_false_iff] at hne
      exact ⟨List.length_pos_iff.2 hne.2, Nat.le_refl _⟩
    · cases h

theorem read_weight {rd : Reader} {s s' : LineScanner} (hs : s.ended = false)
    (h : read rd s = .more s') : s'.weight < s.weight := by
  unfold read at h
  split at h
  · rename_i hrest
    cases h
    simp [weight, hrest, hs]
  · rename_i b bs hrest
    dsimp only at h
    split at h
    · cases h
    · rename_i hn
      cases h
      have hle := rd.count_le (s.size - s.top) (b :: bs)
      simp only [weight, List.length_append, List.length_take, List.length_drop, hrest, hs]
      omega

theorem step_weight_line {rd : Reader} {s s' : LineScanner} {l : List UInt8}
    (h : step rd s = .line l s') : s'.weight < s.weight := by
  unfold step at h
  split at h
  · rename_i n l' hcut
    cases h
    have := cutLine_taken hcut
    simp only [weight, List.length_drop]
    omega
  · split at h
    · cases h
    · dsimp only at h
      split at h
      · split at h
        · cases h
        · unfold read at h; split at h <;> (try dsimp only at h; try split at h) <;> cases h
      · unfold read at h; split at h <;> (try dsimp only at h; try split at h) <;> cases h

theorem step_weight_more {rd : Reader} {s s' : LineScanner}
    (h : step rd s = .more s') : s'.weight < s.weight := by
  unfold step at h
  split at h
  · cases h
  · split at h
    · cases h
    · rename_i hend
      dsimp only at h
      have hw : ∀ t : LineScanner, t.rest = s.rest → t.held = s.held → t.ended = s.ended →
          t.weight = s.weight := by
        intro t hr hh he
        simp [weight, hr, hh, he]
      split at h
      · split at h
        · cases h
        · rw [← hw (grow s.compact) (by simp [grow]) (by simp [grow]) (by simp [grow])]
          exact read_weight (by simp [grow, hend]) h
      · rw [← hw s.compact (by simp) (by simp) (by simp)]
        exact read_weight (by simp [hend]) h

/-- The lines a scanner hands out until it stops, and the error it stops with, if any. -/
def run (rd : Reader) (s : LineScanner) : List (List UInt8) × Option ScanError :=
  match _h : step rd s with
  | .line l s' =>
    let r := run rd s'
    (l :: r.1, r.2)
  | .more s' => run rd s'
  | .halt e => ([], e)
termination_by s.weight
decreasing_by
  · exact step_weight_line ‹_›
  · exact step_weight_more ‹_›

end LineScanner

end CrossBuild.Text
