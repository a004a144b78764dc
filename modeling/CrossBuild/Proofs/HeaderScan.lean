import CrossBuild.Header.Files
import CrossBuild.Proofs.LineScanner
import CrossBuild.Proofs.SymbolSet

/-!
# Scanning headers reads them line by line

Read line by line, a header text is the list of pieces of its characters between line feeds
(`CrossBuild.Text.pieces`); the `k`-th piece is line `k`, without its line feed and one carriage
return at its end (`Header.stripCR`). A piece of more than 1048576 bytes of UTF-8, counting
its line feed (or one more for a last piece without one), stops the reading with the read fault
of the file; otherwise a declaration line adds its name, or stops the reading with an extract
fault naming the file, the line number and the line (`Header.readPieces`). Headers are read in
order, and a stop ends the reading (`Header.readHeaders`).

`Header.scanning_eq_reading` says the scan is this reading, for every reader: the symbols gathered
are the names the reading finds, added in order, so a fresh set lists the distinct names in the
order they were first met; the fault is the stop of the reading. It holds of header files read
from a disk (`Header.scanFiles`) as well.

The scan reads bytes and the reading reads characters. They meet through UTF-8: a line feed or a
carriage return is one byte, and no other character's encoding holds that byte
(`mem_utf8EncodeChar_of_lt`), so the pieces of the bytes of a text are the bytes of its pieces
(`pieces_bytesOf`).
-/

namespace CrossBuild

open CrossBuild.Text

section Utf8

/-- The bytes of a list of characters in UTF-8. -/
def bytesOf (cs : List Char) : List UInt8 := cs.flatMap String.utf8EncodeChar

@[simp] theorem bytesOf_nil : bytesOf [] = [] := rfl

theorem bytesOf_cons (c : Char) (cs : List Char) :
    bytesOf (c :: cs) = String.utf8EncodeChar c ++ bytesOf cs := rfl

theorem bytesOf_append (cs ds : List Char) : bytesOf (cs ++ ds) = bytesOf cs ++ bytesOf ds := by
  simp [bytesOf]

theorem toUTF8_bytes (t : String) : t.toUTF8.data.toList = bytesOf t.toList := by
  rw [String.toUTF8_eq_toByteArray, ← String.utf8Encode_toList]
  exact List.toList_data_toByteArray

theorem length_bytesOf (cs : List Char) : (bytesOf cs).length = (String.ofList cs).utf8ByteSize := by
  rw [← String.size_toByteArray, String.toByteArray_ofList]
  exact List.size_toByteArray.symm

/-- A byte with its high bit set is 128 or more. -/
theorem le_toNat_or {x m : UInt8} (hm : 128 ≤ m.toNat) : 128 ≤ (x ||| m).toNat := by
  rw [UInt8.toNat_or]
  exact Nat.le_trans hm Nat.right_le_or

/-- Every byte of the encoding of a character beyond ASCII is 128 or more. -/
theorem le_of_mem_utf8EncodeChar {c : Char} (hc : c.utf8Size ≠ 1) {b : UInt8}
    (hb : b ∈ String.utf8EncodeChar c) : 128 ≤ b.toNat := by
  rcases Char.utf8Size_eq c with h | h | h | h
  · exact absurd h hc
  · rw [String.utf8EncodeChar_eq_cons_cons h] at hb
    simp only [List.mem_cons, List.not_mem_nil, or_false] at hb
    rcases hb with rfl | rfl <;> exact le_toNat_or (by decide)
  · rw [String.utf8EncodeChar_eq_cons_cons_cons h] at hb
    simp only [List.mem_cons, List.not_mem_nil, or_false] at hb
    rcases hb with rfl | rfl | rfl <;> exact le_toNat_or (by decide)
  · rw [String.utf8EncodeChar_eq_cons_cons_cons_cons h] at hb
    simp only [List.mem_cons, List.not_mem_nil, or_false] at hb
    rcases hb with rfl | rfl | rfl | rfl <;> exact le_toNat_or (by decide)

theorem lt_of_utf8Size_eq_one {c : Char} (hc : c.utf8Size = 1) : c.toNat < 128 := by
  have := UInt32.le_iff_toNat_le.1 (Char.utf8Size_eq_one_iff.1 hc)
  simp only [UInt32.reduceToNat, Char.toNat_val] at this
  omega

theorem le_of_utf8Size_ne_one {c : Char} (hc : c.utf8Size ≠ 1) : 128 ≤ c.toNat := by
  have : ¬c.val ≤ 127 := fun h => hc (Char.utf8Size_eq_one_iff.2 h)
  rw [UInt32.le_iff_toNat_le] at this
  simp only [UInt32.reduceToNat, Char.toNat_val] at this
  omega

/-- The one byte of an ASCII character is its code. -/
theorem utf8EncodeChar_of_utf8Size_eq_one {c : Char} (hc : c.utf8Size = 1) {b : UInt8} :
    String.utf8EncodeChar c = [b] ↔ c.toNat = b.toNat := by
  have hlt := lt_of_utf8Size_eq_one hc
  rw [String.utf8EncodeChar_eq_singleton hc, List.cons.injEq, and_iff_left rfl,
    ← UInt8.toNat_inj, UInt32.toNat_toUInt8, Char.toNat_val]
  omega

/-- A byte below 128 stands in the encoding of a character only as the character with that
code. -/
theorem mem_utf8EncodeChar_of_lt {c : Char} {b : UInt8} (hb : b.toNat < 128) :
    b ∈ String.utf8EncodeChar c ↔ c.toNat = b.toNat := by
  by_cases hc : c.utf8Size = 1
  · rw [← utf8EncodeChar_of_utf8Size_eq_one hc, String.utf8EncodeChar_eq_singleton hc]
    simp [eq_comm]
  · have := le_of_utf8Size_ne_one hc
    exact ⟨fun h => absurd (le_of_mem_utf8EncodeChar hc h) (by omega), fun h => by omega⟩

/-- The last byte of the encoding of a character is a byte below 128 only for the character with
that code. -/
theorem getLast?_utf8EncodeChar_of_lt {c : Char} {b : UInt8} (hb : b.toNat < 128) :
    (String.utf8EncodeChar c).getLast? = some b ↔ c.toNat = b.toNat := by
  by_cases hc : c.utf8Size = 1
  · rw [← utf8EncodeChar_of_utf8Size_eq_one hc, String.utf8EncodeChar_eq_singleton hc]
    simp [eq_comm]
  · have := le_of_utf8Size_ne_one hc
    refine ⟨fun h => ?_, fun h => by omega⟩
    exact absurd (le_of_mem_utf8EncodeChar hc (List.mem_of_getLast? h)) (by omega)

theorem utf8EncodeChar_newline : String.utf8EncodeChar '\n' = [10] := by decide

theorem utf8EncodeChar_return : String.utf8EncodeChar '\r' = [13] := by decide

/-- **The pieces of the bytes are the bytes of the pieces.** Cutting the UTF-8 bytes of a text
after every line feed gives the bytes of the lines of its characters. -/
theorem pieces_bytesOf (cs : List Char) :
    pieces 10 (bytesOf cs) = (pieces '\n' cs).map bytesOf := by
  induction cs with
  | nil => rfl
  | cons c cs ih =>
    by_cases hc : c = '\n'
    · subst hc
      simp [bytesOf_cons, utf8EncodeChar_newline, pieces, ih]
    · have hnl : (10 : UInt8) ∉ String.utf8EncodeChar c := by
        rw [mem_utf8EncodeChar_of_lt (by decide)]
        exact fun h => hc (Char.toNat_inj.1 h)
      rw [bytesOf_cons, pieces_append_of_not_mem hnl String.utf8EncodeChar_ne_nil, ih,
        pieces_cons_of_ne hc]
      cases pieces '\n' cs <;> simp [bytesOf_cons]

end Utf8

namespace Header

/-- A line without one carriage return at its end. -/
def stripCR (l : List Char) : List Char :=
  if l.getLast? = some '\r' then l.dropLast else l

/-- Dropping a carriage return from the bytes of a line drops it from its characters. -/
theorem dropCR_bytesOf (cs : List Char) :
    LineScanner.dropCR (bytesOf cs) = bytesOf (stripCR cs) := by
  rcases List.eq_nil_or_concat cs with rfl | ⟨init, c, rfl⟩
  · rfl
  · by_cases hc : c = '\r'
    · subst hc
      simp [LineScanner.dropCR, stripCR, bytesOf_append, bytesOf_cons, utf8EncodeChar_return]
    · have hne : String.utf8EncodeChar c ≠ [] := String.utf8EncodeChar_ne_nil
      have hlast : (String.utf8EncodeChar c).getLast hne ≠ 13 := fun h =>
        hc (Char.toNat_inj.1 ((getLast?_utf8EncodeChar_of_lt
          (by decide : (13 : UInt8).toNat < 128)).1 (by rw [List.getLast?_eq_some_getLast hne, h])))
      simp [LineScanner.dropCR, stripCR, bytesOf_append, bytesOf_cons,
        List.getLast?_eq_some_getLast hne, hlast, hc]

/-- The text of the bytes of a line is the line. -/
theorem lineText_bytesOf (cs : List Char) : lineText (bytesOf cs) = String.ofList cs := by
  have hvalid : (bytesOf cs).toByteArray.IsValidUTF8 := .intro cs rfl
  simp only [lineText, String.fromUTF8?, dif_pos hvalid, Option.getD_some]
  rfl

/-- What reading the pieces `raws` of a header finds, numbering lines from `n + 1`: the names of
its declaration lines in order up to the first stop, and the stop. -/
def readPieces (file : String) (n : Nat) : List (List Char) → List String × Option Fault
  | [] => ([], none)
  | raw :: rest =>
    if 1048576 < (String.ofList raw).utf8ByteSize + 1 then
      ([], some (.wrap ("failed to read " ++ file) (some (.plain "bufio.Scanner: token too long"))))
    else
      let line := String.ofList (stripCR raw)
      if isDecl line then
        match extractName line with
        | .ok name =>
          let r := readPieces file (n + 1) rest
          (name :: r.1, r.2)
        | .error e => ([], some (.extract file (n + 1) line e))
      else readPieces file (n + 1) rest

/-- What reading headers in order finds: the names of their declaration lines up to the first
stop, and the stop. The headers after a stop are not read. -/
def readHeaders : List (String × String) → List String × Option Fault
  | [] => ([], none)
  | (file, text) :: rest =>
    match readPieces file 0 (pieces '\n' text.toList) with
    | (names, none) =>
      let r := readHeaders rest
      (names ++ r.1, r.2)
    | stopped => stopped

/-- The outcome of scanning the lines `read.1`, numbered from `n + 1`, and then the stop
`read.2` of the scanner that read them. -/
def scanRead (file : String) (syms : Symbols) (n : Nat)
    (read : List (List UInt8) × Option ScanError) : Symbols × Option Fault :=
  match scanLines file syms n read.1 with
  | (syms', none) => (syms', read.2.map (readFault file))
  | failed => failed

/-- Scanning a first line, then the rest. -/
theorem scanRead_cons (file : String) (syms : Symbols) (n : Nat) (l : List UInt8)
    (ls : List (List UInt8)) (e : Option ScanError) :
    scanRead file syms n (l :: ls, e) =
      if isDecl (lineText l) then
        match extractName (lineText l) with
        | .ok name => scanRead file (syms.add name).2 (n + 1) (ls, e)
        | .error err => (syms, some (.extract file (n + 1) (lineText l) err))
      else scanRead file syms (n + 1) (ls, e) := by
  unfold scanRead
  simp only [scanLines]
  by_cases hdecl : isDecl (lineText l) = true
  · rw [if_pos hdecl, if_pos hdecl]
    cases extractName (lineText l) <;> rfl
  · rw [if_neg hdecl, if_neg hdecl]

/-- Scanning what a line scanner makes of the bytes of some pieces is reading the pieces. -/
theorem scanRead_linesOf (file : String) :
    ∀ (raws : List (List Char)) (syms : Symbols) (n : Nat),
      scanRead file syms n (linesOf lineLimit (raws.map bytesOf)) =
        ((syms.addAll (readPieces file n raws).1).2, (readPieces file n raws).2)
  | [], _, _ => rfl
  | raw :: rest, syms, n => by
    have hlen := length_bytesOf raw
    have hlimit : lineLimit = 1048576 := rfl
    simp only [List.map_cons, linesOf, readPieces]
    by_cases hlong : lineLimit ≤ (bytesOf raw).length
    · rw [if_pos hlong, if_pos (by omega)]
      rfl
    · rw [if_neg hlong, if_neg (by omega), scanRead_cons, dropCR_bytesOf, lineText_bytesOf]
      split
      · split
        · rw [scanRead_linesOf file rest _ (n + 1)]
          rfl
        · rfl
      · exact scanRead_linesOf file rest syms (n + 1)

theorem scan_eq_scanRead (rd : Reader) (file text : String) (syms : Symbols) :
    scan rd file text syms =
      scanRead file syms 0 ((LineScanner.new bufferSize lineLimit text.toUTF8.data.toList).run rd) :=
  rfl

/-- The scan of one header is the reading of its pieces, whatever the reader. -/
theorem scan_eq_readPieces (rd : Reader) (file text : String) (syms : Symbols) :
    scan rd file text syms =
      ((syms.addAll (readPieces file 0 (pieces '\n' text.toList)).1).2,
        (readPieces file 0 (pieces '\n' text.toList)).2) := by
  rw [scan_eq_scanRead, LineScanner.run_new rd (by decide : bufferSize ≤ lineLimit)
    (by decide : 0 < lineLimit), toUTF8_bytes, pieces_bytesOf, scanRead_linesOf]

theorem scanAll_eq_readHeaders (rd : Reader) :
    ∀ (headers : List (String × String)) (syms : Symbols),
      scanAll rd headers syms =
        ((syms.addAll (readHeaders headers).1).2, (readHeaders headers).2)
  | [], _ => rfl
  | (file, text) :: rest, syms => by
    rw [scanAll, scan_eq_readPieces, readHeaders]
    rcases hr : readPieces file 0 (pieces '\n' text.toList) with ⟨names, _ | f⟩
    · simp only
      rw [scanAll_eq_readHeaders rd rest, Symbols.addAll_append]
    · rfl

theorem scanFilesInto_eq_readHeaders (d : Disk) (text : String → String) :
    ∀ (files : List String) (syms : Symbols), (∀ f ∈ files, d.stat f = .ok (.file (text f))) →
      scanFilesInto d files syms =
        match readHeaders (files.map fun f => (f, text f)) with
        | (names, none) => .ok (syms.addAll names).2
        | (_, some f) => .error f
  | [], _, _ => rfl
  | file :: rest, syms, hfiles => by
    have hrest : ∀ f ∈ rest, d.stat f = .ok (.file (text f)) :=
      fun f hf => hfiles f (List.mem_cons_of_mem file hf)
    rw [scanFilesInto, hfiles file List.mem_cons_self, List.map_cons, readHeaders]
    simp only
    rw [scan_eq_readPieces]
    rcases hr : readPieces file 0 (pieces '\n' (text file).toList) with ⟨names, _ | f⟩
    · simp only
      rw [scanFilesInto_eq_readHeaders d text rest _ hrest]
      rcases readHeaders (rest.map fun f => (f, text f)) with ⟨names', _ | f'⟩
      · simp [Symbols.addAll_append]
      · rfl
    · rfl

/-- **Scanning headers is reading them line by line.** For every reader, scanning headers in
order into a symbol set adds the names the reading finds, in order, and ends with its stop;
scanning header files of a disk fails with that stop or gives a fresh set of those names; and a
fresh set lists the distinct names added, in the order they were first met. -/
theorem scanning_eq_reading :
    (∀ (rd : Reader) (headers : List (String × String)) (syms : Symbols),
      scanAll rd headers syms =
        ((syms.addAll (readHeaders headers).1).2, (readHeaders headers).2)) ∧
    (∀ (d : Disk) (files : List String) (text : String → String),
      (∀ f ∈ files, d.stat f = .ok (.file (text f))) →
      scanFiles d files =
        match readHeaders (files.map fun f => (f, text f)) with
        | (names, none) => .ok (({} : Symbols).addAll names).2
        | (_, some f) => .error f) ∧
    (∀ names : List String, (({} : Symbols).addAll names).2.names.toList = names.eraseDups) :=
  ⟨scanAll_eq_readHeaders, fun d files text h => scanFilesInto_eq_readHeaders d text files {} h,
    Symbols.names_addAll_empty⟩

/-- A disk with one header file that declares one function. -/
def oneHeader : Disk :=
  { items := [(["al.h"], .file "AL_API void AL_APIENTRY alEnable(ALenum capability);\n")] }

theorem scanning_eq_reading_one_file :
    (∀ f ∈ ["al.h"],
      oneHeader.stat f = .ok (.file "AL_API void AL_APIENTRY alEnable(ALenum capability);\n")) ∧
    scanFiles oneHeader ["al.h"] =
      match readHeaders (["al.h"].map fun f =>
          (f, "AL_API void AL_APIENTRY alEnable(ALenum capability);\n")) with
      | (names, none) => .ok (({} : Symbols).addAll names).2
      | (_, some f) => .error f :=
  have hfile : ∀ f ∈ ["al.h"],
      oneHeader.stat f = .ok (.file "AL_API void AL_APIENTRY alEnable(ALenum capability);\n") := by
    intro f hf
    rw [List.mem_singleton] at hf
    subst hf
    have hsplit : "al.h".splitOn "/" = ["al.h"] := by
      simp +decide [String.splitOn, String.splitOnAux]
    simp [oneHeader, Disk.stat, Disk.resolve, Disk.walk, Disk.find?, Disk.step, hsplit, bind,
      Except.bind]
  ⟨hfile, scanning_eq_reading.2.1 oneHeader ["al.h"] _ hfile⟩

end Header

end CrossBuild
