import Mathlib.Tactic.Ring
import Mathlib.Data.List.Basic
import CrossBuild.Command
import CrossBuild.Proofs.HeaderScan

/-!
# Reading a displayed command line back

`Command.render` writes a command on one line, each token as it is or, when it is empty or holds
a character a shell treats specially, as a double-quoted literal (`Text.quote`). This module reads
such a line back the way a reader of double-quoted literals does, and shows that it gives back
every token.

The reader of a literal (`Text.unquoteBody`) follows the rules of double-quoted string literals:
a plain character stands for its UTF-8 bytes; `\a \b \f \n \r \t \v`, `\\` and `\"` for their one
byte; `\x` with two hexadecimal digits and `\` with three octal digits (up to `\377`) for one
byte; `\u` with four and `\U` with eight hexadecimal digits for the UTF-8 bytes of a character.
An unescaped line feed, any other escape and a missing closing quote make the reading fail. Its
results are bytes, not characters, since `\x` and octal escapes may spell bytes that are no UTF-8.

A line is read by `Command.readTokens`: tokens are separated by single spaces; a token that starts
with `"` is a literal, which must be followed by a space or the end of the line; any other token
runs to the next space and stands for its own bytes.

`Command.render_reads_back` says that reading the line of any command gives back the bytes of its
binary and of every argument, in order. So two commands never share a line, and no line holds
a line feed. The argument rests on three facts: every escape reads back as the character it
stands for (`unquoteChar_escapeChar`), a token written as it is holds neither a space nor a quote
at its start, and the separators between tokens are single spaces.
-/

namespace CrossBuild

section Utf8

theorem bytesOf_injective {s t : String} (h : bytesOf s.toList = bytesOf t.toList) : s = t := by
  rw [← toUTF8_bytes, ← toUTF8_bytes, String.toUTF8_eq_toByteArray,
    String.toUTF8_eq_toByteArray] at h
  exact String.toByteArray_inj.1 (ByteArray.ext (Array.toList_inj.1 h))

/-- The bytes of an ASCII character: its code. -/
theorem utf8EncodeChar_of_lt {c : Char} (hc : c.toNat < 128) :
    String.utf8EncodeChar c = [c.toNat.toUInt8] := by
  have hsize : c.utf8Size = 1 := Char.utf8Size_eq_one_iff.2
    (UInt32.le_iff_toNat_le.2 (by simp only [Char.toNat_val] at hc ⊢; simpa using Nat.le_of_lt_succ hc))
  rw [String.utf8EncodeChar_eq_singleton hsize]
  rfl

end Utf8

namespace Text

section Literal

/-- The value of a hexadecimal digit, in either case. -/
def hexValue (c : Char) : Option Nat :=
  if '0' ≤ c ∧ c ≤ '9' then some (c.toNat - '0'.toNat)
  else if 'a' ≤ c ∧ c ≤ 'f' then some (c.toNat - 'a'.toNat + 10)
  else if 'A' ≤ c ∧ c ≤ 'F' then some (c.toNat - 'A'.toNat + 10)
  else none

/-- The value of an octal digit. -/
def octValue (c : Char) : Option Nat :=
  if '0' ≤ c ∧ c ≤ '7' then some (c.toNat - '0'.toNat) else none

/-- The number that hexadecimal digits write, most significant first, after the value `acc`. -/
def readHexFrom (acc : Nat) : List Char → Option Nat
  | [] => some acc
  | c :: cs => (hexValue c).bind fun d => readHexFrom (acc * 16 + d) cs

/-- The value of exactly `n` hexadecimal digits at the front of a text, and the text after them. -/
def takeHex (n : Nat) (cs : List Char) : Option (Nat × List Char) :=
  if cs.length < n then none else (readHexFrom 0 (cs.take n)).map fun v => (v, cs.drop n)

/-- The UTF-8 bytes of a code point given by `\u` or `\U`, when it is a character. -/
def runeBytes (v : Nat) : Option (List UInt8) :=
  if v.isValidChar then some (String.utf8EncodeChar (Char.ofNat v)) else none

/-- What the character or escape at the front of the inside of a double-quoted literal stands
for: its bytes, and the text after it. The quote itself, a lone backslash and an unknown escape
stand for nothing. -/
def unquoteChar : List Char → Option (List UInt8 × List Char)
  | '\\' :: e :: rest =>
    match e with
    | 'a' => some ([7], rest)
    | 'b' => some ([8], rest)
    | 'f' => some ([12], rest)
    | 'n' => some ([10], rest)
    | 'r' => some ([13], rest)
    | 't' => some ([9], rest)
    | 'v' => some ([11], rest)
    | '\\' => some ([92], rest)
    | '"' => some ([34], rest)
    | 'x' => (takeHex 2 rest).map fun (v, more) => ([v.toUInt8], more)
    | 'u' => (takeHex 4 rest).bind fun (v, more) => (runeBytes v).map (·, more)
    | 'U' => (takeHex 8 rest).bind fun (v, more) => (runeBytes v).map (·, more)
    | _ =>
      match octValue e, rest with
      | some d, o1 :: o2 :: more =>
        match octValue o1, octValue o2 with
        | some d1, some d2 =>
          if d * 64 + d1 * 8 + d2 ≤ 255 then some ([(d * 64 + d1 * 8 + d2).toUInt8], more)
          else none
        | _, _ => none
      | _, _ => none
  | c :: rest => if c = '\\' ∨ c = '"' then none else some (String.utf8EncodeChar c, rest)
  | [] => none

theorem takeHex_shorter {n : Nat} {cs more : List Char} {v : Nat}
    (h : takeHex n cs = some (v, more)) : more.length ≤ cs.length := by
  unfold takeHex at h
  split at h
  · cases h
  · obtain ⟨w, -, hw⟩ := Option.map_eq_some_iff.1 h
    rw [Prod.mk.injEq] at hw
    rw [← hw.2, List.length_drop]
    omega

/-- A code point read after `\u` or `\U` leaves what follows its digits. -/
theorem rune_shorter {n : Nat} {rest more : List Char} {bytes : List UInt8}
    (h : ((takeHex n rest).bind fun a => (runeBytes a.1).map (·, a.2)) = some (bytes, more)) :
    more.length ≤ rest.length := by
  obtain ⟨⟨v, after⟩, hv, hr⟩ := Option.bind_eq_some_iff.1 h
  obtain ⟨bs, -, heq⟩ := Option.map_eq_some_iff.1 hr
  rw [Prod.mk.injEq] at heq
  rw [← heq.2]
  exact takeHex_shorter hv

/-- Reading a character or an escape takes at least one character. Every escape leaves a part of
what follows its letter; an octal escape takes two more digits. -/
theorem unquoteChar_shorter {cs more : List Char} {bytes : List UInt8}
    (h : unquoteChar cs = some (bytes, more)) : more.length < cs.length := by
  unfold unquoteChar at h
  split at h
  · rename_i e rest
    suffices hrest : more.length ≤ rest.length by
      simp only [List.length_cons]
      omega
    split at h
    case h_1 | h_2 | h_3 | h_4 | h_5 | h_6 | h_7 | h_8 | h_9 =>
      rw [Option.some.injEq, Prod.mk.injEq] at h
      exact h.2 ▸ Nat.le_refl _
    case h_10 =>
      obtain ⟨⟨v, after⟩, hv, heq⟩ := Option.map_eq_some_iff.1 h
      rw [Prod.mk.injEq] at heq
      rw [← heq.2]
      exact takeHex_shorter hv
    case h_11 => exact rune_shorter h
    case h_12 => exact rune_shorter h
    case h_13 =>
      split at h
      · rename_i o1 o2 after
        split at h
        · split at h
          · rw [Option.some.injEq, Prod.mk.injEq] at h
            rw [← h.2]
            simp only [List.length_cons]
            omega
          · cases h
        · cases h
      · cases h
  · split at h
    · cases h
    · rw [Option.some.injEq, Prod.mk.injEq] at h
      rw [← h.2]
      exact Nat.lt_succ_self _
  · cases h

/-- Read the inside of a double-quoted literal up to its closing quote: the bytes it stands for
and the text after the quote. An unescaped line feed, a malformed escape or a missing closing
quote makes the reading fail. -/
def unquoteBody : List Char → Option (List UInt8 × List Char)
  | [] => none
  | '"' :: rest => some ([], rest)
  | '\n' :: _ => none
  | c :: rest =>
    match _h : unquoteChar (c :: rest) with
    | none => none
    | some (bytes, more) =>
      (unquoteBody more).map fun (tail, after) => (bytes ++ tail, after)
termination_by cs => cs.length
decreasing_by exact unquoteChar_shorter _h

theorem unquoteBody_quote (rest : List Char) : unquoteBody ('"' :: rest) = some ([], rest) := by
  rw [unquoteBody]

/-- A character other than the closing quote and a line feed is read as a character or an
escape, and the reading goes on after it. -/
theorem unquoteBody_of_unquoteChar {c : Char} {rest more : List Char} {bytes : List UInt8}
    (hq : c ≠ '"') (hn : c ≠ '\n') (h : unquoteChar (c :: rest) = some (bytes, more)) :
    unquoteBody (c :: rest) = (unquoteBody more).map fun (tail, after) => (bytes ++ tail, after) := by
  rw [unquoteBody.eq_4 c rest hq hn]
  · split
    · rename_i hnone
      rw [h] at hnone
      cases hnone
    · rename_i bytes' more' hsome
      rw [h, Option.some.injEq, Prod.mk.injEq] at hsome
      rw [← hsome.1, ← hsome.2]

/-- A plain character, neither a backslash nor the quote, stands for its bytes. -/
theorem unquoteChar_plain {c : Char} (hb : c ≠ '\\') (hq : c ≠ '"') (more : List Char) :
    unquoteChar (c :: more) = some (String.utf8EncodeChar c, more) := by
  simp [unquoteChar, hb, hq]

end Literal

section Hex

theorem hexValue_hexDigit : ∀ d < 16, hexValue (hexDigit d) = some d := by
  decide

theorem hexDigits_succ (w n : Nat) :
    hexDigits (w + 1) n = hexDigit (n / Nat.pow 16 w % 16) :: hexDigits w n := by
  simp [hexDigits, List.range_succ]

@[simp] theorem length_hexDigits (w n : Nat) : (hexDigits w n).length = w := by
  simp [hexDigits]

/-- Reading the digits of `n` gives `n` back, up to the width. The digit of place `w` joins the
digits below it. -/
theorem readHexFrom_hexDigits (n : Nat) :
    ∀ (w acc : Nat), readHexFrom acc (hexDigits w n) =
      some (acc * Nat.pow 16 w + n % Nat.pow 16 w)
  | 0, acc => by simp [hexDigits, readHexFrom, Nat.pow, Nat.mod_one]
  | w + 1, acc => by
    have hdigit : n / Nat.pow 16 w % 16 < 16 := Nat.mod_lt _ (by decide)
    rw [hexDigits_succ, readHexFrom, hexValue_hexDigit _ hdigit, Option.bind_some,
      readHexFrom_hexDigits n w]
    have hmod : n % (Nat.pow 16 w * 16) = n % Nat.pow 16 w + Nat.pow 16 w * (n / Nat.pow 16 w % 16) :=
      Nat.mod_mul
    show some _ = some (acc * (Nat.pow 16 w * 16) + n % (Nat.pow 16 w * 16))
    rw [hmod]
    congr 1
    ring

theorem takeHex_hexDigits {w n : Nat} (hn : n < Nat.pow 16 w) (more : List Char) :
    takeHex w (hexDigits w n ++ more) = some (n, more) := by
  have hdigits : readHexFrom 0 (hexDigits w n) = some n := by
    rw [readHexFrom_hexDigits, Nat.zero_mul, Nat.zero_add, Nat.mod_eq_of_lt hn]
  simp [takeHex, hdigits]

end Hex

section Escape

theorem toNat_lt_of_char (c : Char) : c.toNat < 0x110000 := by
  have hvalid : c.toNat.isValidChar := c.valid
  unfold Nat.isValidChar at hvalid
  omega

/-- A character given by its code after `\u` or `\U` stands for its own bytes. -/
theorem runeBytes_toNat (c : Char) : runeBytes c.toNat = some (String.utf8EncodeChar c) := by
  have hvalid : c.toNat.isValidChar := c.valid
  rw [runeBytes, if_pos hvalid, Char.ofNat_toNat]

/-- **Every escape reads back.** What quoting writes for a character is read back as the bytes of
that character, whatever follows it. The ASCII controls and DEL are written `\x` and two digits, the
rest of the first plane `\u` and four, and what lies beyond it `\U` and eight. -/
theorem unquoteChar_escapeChar (c : Char) (more : List Char) :
    unquoteChar (escapeChar '"' c ++ more) = some (String.utf8EncodeChar c, more) := by
  unfold escapeChar
  by_cases hq : c = '"' ∨ c = '\\'
  · rw [if_pos hq]
    rcases hq with rfl | rfl <;> rfl
  rw [if_neg hq]
  rw [not_or] at hq
  by_cases hp : isPrintable c
  · rw [if_pos hp]
    exact unquoteChar_plain hq.2 hq.1 more
  rw [if_neg hp]
  split
  case h_1 | h_2 | h_3 | h_4 | h_5 | h_6 | h_7 => rfl
  case h_8 =>
    split
    · rename_i hlow
      have hlt : c.toNat < 128 := by omega
      simp only [List.cons_append, unquoteChar]
      rw [takeHex_hexDigits (by show c.toNat < 256; omega), Option.map_some,
        utf8EncodeChar_of_lt hlt]
    · split
      · rename_i hplane
        simp only [List.cons_append, unquoteChar]
        rw [takeHex_hexDigits (by show c.toNat < 65536; omega), Option.bind_some, runeBytes_toNat,
          Option.map_some]
      · simp only [List.cons_append, unquoteChar]
        rw [takeHex_hexDigits (by show c.toNat < 4294967296; have := toNat_lt_of_char c; omega),
          Option.bind_some, runeBytes_toNat, Option.map_some]

theorem hexDigits_no_newline (w n : Nat) : '\n' ∉ hexDigits w n := by
  have hdigit : ∀ d < 16, hexDigit d ≠ '\n' := by decide
  simp only [hexDigits, List.mem_map, List.mem_reverse, not_exists, not_and]
  exact fun i _ => hdigit _ (Nat.mod_lt _ (by decide))

/-- What quoting writes for a character is the character itself, printable and no quote, or a
backslash and characters other than a line feed. -/
theorem escapeChar_forms (c : Char) :
    (escapeChar '"' c = [c] ∧ isPrintable c = true ∧ c ≠ '"') ∨
      ∃ e, escapeChar '"' c = '\\' :: e ∧ '\n' ∉ e := by
  unfold escapeChar
  by_cases hq : c = '"' ∨ c = '\\'
  · rw [if_pos hq]
    refine .inr ⟨[c], rfl, ?_⟩
    rcases hq with rfl | rfl <;> decide
  rw [if_neg hq]
  by_cases hp : isPrintable c
  · rw [if_pos hp]
    exact .inl ⟨rfl, hp, fun h => hq (.inl h)⟩
  rw [if_neg hp]
  right
  split
  case h_1 | h_2 | h_3 | h_4 | h_5 | h_6 | h_7 => exact ⟨_, rfl, by decide⟩
  case h_8 =>
    split
    · exact ⟨_, rfl, by simpa using hexDigits_no_newline 2 c.toNat⟩
    · split
      · exact ⟨_, rfl, by simpa using hexDigits_no_newline 4 c.toNat⟩
      · exact ⟨_, rfl, by simpa using hexDigits_no_newline 8 c.toNat⟩

theorem newline_not_printable : isPrintable '\n' = false := by decide

theorem escapeChar_no_newline (c : Char) : '\n' ∉ escapeChar '"' c := by
  rcases escapeChar_forms c with ⟨heq, hp, -⟩ | ⟨e, heq, he⟩
  · rw [heq, List.mem_singleton]
    rintro rfl
    rw [newline_not_printable] at hp
    exact Bool.false_ne_true hp
  · rw [heq, List.mem_cons, not_or]
    exact ⟨by decide, he⟩

/-- The first character quoting writes for a character is neither the quote nor a line feed. -/
theorem escapeChar_head (c : Char) :
    ∃ d ds, escapeChar '"' c = d :: ds ∧ d ≠ '"' ∧ d ≠ '\n' := by
  rcases escapeChar_forms c with ⟨heq, -, hq⟩ | ⟨e, heq, -⟩
  · exact ⟨c, [], heq, hq, fun h => escapeChar_no_newline c (by rw [heq, h]; exact List.mem_singleton_self _)⟩
  · exact ⟨'\\', e, heq, by decide, by decide⟩

/-- **A quoted text reads back.** Reading the inside of a quoted text up to its closing quote
gives the bytes of the text and what follows the quote. -/
theorem unquoteBody_escape (more : List Char) :
    ∀ cs : List Char, unquoteBody (escape '"' cs ++ '"' :: more) = some (bytesOf cs, more)
  | [] => unquoteBody_quote more
  | c :: cs => by
    obtain ⟨d, ds, hd, hq, hn⟩ := escapeChar_head c
    have hchar := unquoteChar_escapeChar c (escape '"' cs ++ '"' :: more)
    have hsplit : escape '"' (c :: cs) ++ '"' :: more =
        escapeChar '"' c ++ (escape '"' cs ++ '"' :: more) := by
      simp [escape]
    rw [hd, List.cons_append] at hchar
    rw [hsplit, hd, List.cons_append, unquoteBody_of_unquoteChar hq hn hchar,
      unquoteBody_escape more cs, Option.map_some, bytesOf_cons]

theorem escape_no_newline (cs : List Char) : '\n' ∉ escape '"' cs := by
  simp only [escape, List.mem_flatMap, not_exists, not_and]
  exact fun c _ => escapeChar_no_newline c

end Escape

end Text

namespace Command

open CrossBuild.Text

/-- The inside of a literal is read to a point after its first character. -/
theorem unquoteBody_shorter {cs after : List Char} {bytes : List UInt8}
    (h : unquoteBody cs = some (bytes, after)) : after.length < cs.length := by
  fun_induction unquoteBody cs generalizing bytes after with
  | case1 => cases h
  | case2 rest =>
    rw [Option.some.injEq, Prod.mk.injEq] at h
    rw [← h.2]
    exact Nat.lt_succ_self _
  | case3 => cases h
  | case4 => cases h
  | case5 c rest _ _ bytes' more hchar ih =>
    obtain ⟨⟨tail, after'⟩, hbody, heq⟩ := Option.map_eq_some_iff.1 h
    rw [Prod.mk.injEq] at heq
    rw [← heq.2]
    exact Nat.lt_trans (ih hbody) (unquoteChar_shorter hchar)

/-- Read one token at the front of a displayed line: the bytes it stands for and the text after
it. A token that starts with `"` is a double-quoted literal read up to its closing quote; any
other runs to the next space and stands for its own bytes. -/
def readToken : List Char → Option (List UInt8 × List Char)
  | '"' :: rest => unquoteBody rest
  | cs => some (bytesOf (cs.takeWhile (· ≠ ' ')), cs.dropWhile (· ≠ ' '))

theorem readToken_shorter {cs after : List Char} {bytes : List UInt8}
    (h : readToken cs = some (bytes, after)) : after.length ≤ cs.length := by
  unfold readToken at h
  split at h
  · exact Nat.le_of_lt (Nat.lt_trans (unquoteBody_shorter h) (Nat.lt_succ_self _))
  · rw [Option.some.injEq, Prod.mk.injEq] at h
    rw [← h.2]
    exact (List.dropWhile_suffix _).length_le

/-- Read a displayed line back into the bytes of its tokens. Tokens are separated by single
spaces; a literal must be followed by a space or the end of the line. -/
def readTokens (cs : List Char) : Option (List (List UInt8)) :=
  match _h : readToken cs with
  | none => none
  | some (bytes, []) => some [bytes]
  | some (bytes, ' ' :: more) => (readTokens more).map (bytes :: ·)
  | some (_, _ :: _) => none
termination_by cs.length
decreasing_by
  have := readToken_shorter _h
  simp only [List.length_cons] at this
  omega

/-- A token needs no quotes when it is not empty and holds no special character, so it starts
with no quote and holds no space. -/
theorem token_plain {t : String} (h : needsQuotes t = false) :
    t.toList ≠ [] ∧ ∀ c ∈ t.toList, c ∉ shellSpecial := by
  simp only [needsQuotes, Bool.or_eq_false_iff, List.any_eq_false] at h
  refine ⟨fun hnil => ?_, fun c hc hs => h.2 c hc (by simpa using hs)⟩
  have hempty := h.1
  rw [String.toList_eq_nil_iff.1 hnil] at hempty
  exact absurd hempty (by decide)

/-- **A token reads back.** Whatever follows it, the end of the line or a space, a token as it
stands on a displayed line reads back as the bytes of the text it stands for. A quoted token is read
up to its closing quote; one written as it is holds no space and does not start with a quote. -/
theorem readToken_token (t : String) {rest : List Char}
    (hrest : rest = [] ∨ ∃ more, rest = ' ' :: more) :
    readToken ((token t).toList ++ rest) = some (bytesOf t.toList, rest) := by
  unfold token
  split
  · have hquote : (quote t).toList ++ rest = '"' :: (escape '"' t.toList ++ '"' :: rest) := by
      simp [quote]
    rw [hquote, readToken, unquoteBody_escape]
  · rename_i hplain
    obtain ⟨hne, hspecial⟩ := token_plain (Bool.eq_false_iff.2 hplain)
    obtain ⟨c, cs, hcs⟩ := List.exists_cons_of_ne_nil hne
    have hc : c ≠ '"' := fun h => hspecial c (by rw [hcs]; exact List.mem_cons_self) (by
      rw [h]; decide)
    have hnospace : ∀ x ∈ t.toList, decide (x ≠ ' ') = true := fun x hx =>
      decide_eq_true fun h => hspecial x hx (by rw [h]; decide)
    have hrest_take : rest.takeWhile (· ≠ ' ') = [] := by
      rcases hrest with rfl | ⟨more, rfl⟩ <;> rfl
    have hrest_drop : rest.dropWhile (· ≠ ' ') = rest := by
      rcases hrest with rfl | ⟨more, rfl⟩ <;> rfl
    rw [hcs, List.cons_append, readToken.eq_2 _ (by simp [hc]), ← List.cons_append, ← hcs,
      List.takeWhile_append_of_pos hnospace, List.dropWhile_append_of_pos hnospace,
      hrest_take, hrest_drop, List.append_nil]

theorem readTokens_token (t : String) :
    readTokens (token t).toList = some [bytesOf t.toList] := by
  have htok : readToken (token t).toList = some (bytesOf t.toList, []) := by
    simpa using readToken_token t (.inl rfl)
  rw [readTokens]
  split
  · rename_i hnone
    rw [htok] at hnone
    cases hnone
  · rename_i bytes hsome
    rw [htok, Option.some.injEq, Prod.mk.injEq] at hsome
    rw [hsome.1]
  · rename_i hsome
    rw [htok, Option.some.injEq, Prod.mk.injEq] at hsome
    cases hsome.2
  · rename_i hsome
    rw [htok, Option.some.injEq, Prod.mk.injEq] at hsome
    cases hsome.2

theorem readTokens_token_space (t : String) (more : List Char) :
    readTokens ((token t).toList ++ ' ' :: more) =
      (readTokens more).map (bytesOf t.toList :: ·) := by
  have htok := readToken_token t (.inr ⟨more, rfl⟩)
  rw [readTokens]
  split
  · rename_i hnone
    rw [htok] at hnone
    cases hnone
  · rename_i hsome
    rw [htok, Option.some.injEq, Prod.mk.injEq] at hsome
    cases hsome.2
  · rename_i bytes more' hsome
    rw [htok, Option.some.injEq, Prod.mk.injEq] at hsome
    obtain ⟨rfl, hmore⟩ := hsome
    rw [(List.cons.inj hmore).2]
  · rename_i c rest hc hsome
    rw [htok, Option.some.injEq, Prod.mk.injEq] at hsome
    exact absurd (List.cons.inj hsome.2).1.symm hc

/-- Tokens put together with single spaces read back token by token. -/
theorem readTokens_intercalate (t : String) :
    ∀ ts : List String, readTokens (" ".intercalate ((t :: ts).map token)).toList =
      some ((t :: ts).map fun u => bytesOf u.toList)
  | [] => by
    rw [List.map_singleton, String.intercalate_singleton, readTokens_token]
    rfl
  | u :: us => by
    have hspace : (" " : String).toList = [' '] := rfl
    rw [List.map_cons, List.map_cons, String.intercalate_cons_cons, String.toList_append,
      String.toList_append, ← List.map_cons, List.append_assoc, hspace, List.singleton_append,
      readTokens_token_space, readTokens_intercalate u us]
    rfl

theorem no_newline_of_token (t : String) : '\n' ∉ (token t).toList := by
  unfold token
  split
  · intro h
    rw [quote, String.toList_ofList, List.mem_append, List.mem_cons, List.mem_singleton] at h
    rcases h with (h | h) | h
    · exact absurd h (by decide)
    · exact escape_no_newline _ h
    · exact absurd h (by decide)
  · rename_i hplain
    exact fun h => (token_plain (Bool.eq_false_iff.2 hplain)).2 '\n' h (by decide)

theorem no_newline_of_intercalate (t : String) :
    ∀ ts : List String, '\n' ∉ (" ".intercalate ((t :: ts).map token)).toList
  | [] => by
    rw [List.map_singleton, String.intercalate_singleton]
    exact no_newline_of_token t
  | u :: us => by
    rw [List.map_cons, List.map_cons, String.intercalate_cons_cons, String.toList_append,
      String.toList_append, ← List.map_cons]
    simp only [List.mem_append, not_or]
    exact ⟨⟨no_newline_of_token t, by decide⟩, no_newline_of_intercalate u us⟩

/-- A line feed is the one character whose UTF-8 bytes hold the byte 10. -/
theorem newline_byte_not_mem {cs : List Char} (h : '\n' ∉ cs) : (10 : UInt8) ∉ bytesOf cs := by
  simp only [bytesOf, List.mem_flatMap, not_exists, not_and]
  intro c hc hb
  rw [mem_utf8EncodeChar_of_lt (by decide)] at hb
  exact h ((Char.toNat_inj.1 (hb.trans rfl : c.toNat = '\n'.toNat)) ▸ hc)

/-- **A displayed command reads back.** Reading the line of a command gives back the bytes of its
binary and of each argument, in order, whatever they hold (empty texts included). So no two
commands are displayed alike, and no displayed line holds a line feed. -/
theorem render_reads_back :
    (∀ c : Command,
      readTokens c.render.toList = some ((c.bin :: c.args).map fun t => bytesOf t.toList)) ∧
    Function.Injective Command.render ∧
    ∀ c : Command, (10 : UInt8) ∉ bytesOf c.render.toList := by
  have hread : ∀ c : Command,
      readTokens c.render.toList = some ((c.bin :: c.args).map fun t => bytesOf t.toList) :=
    fun c => readTokens_intercalate c.bin c.args
  refine ⟨hread, fun c c' h => ?_, fun c => newline_byte_not_mem
    (no_newline_of_intercalate c.bin c.args)⟩
  have htokens := hread c
  rw [h, hread c', Option.some.injEq] at htokens
  have hinj : Function.Injective fun t : String => bytesOf t.toList := fun _ _ => bytesOf_injective
  have heq := (List.map_injective_iff.2 hinj) htokens
  rw [List.cons.injEq] at heq
  cases c
  cases c'
  simp only at heq
  rw [heq.1, heq.2]

end Command

end CrossBuild
