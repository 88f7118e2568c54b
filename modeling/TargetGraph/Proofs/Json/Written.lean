import TargetGraph.Json.Document
import TargetGraph.Json.Text
import TargetGraph.Proofs.ByteOrder
import TargetGraph.Proofs.Json.Completeness

set_option relaxedAutoImplicit false
set_option autoImplicit false

/-!
# Texts are read back from the JSON that writes them

Each character of a text is written as itself, as a backslash and a letter, or as a backslash, a `u`
and four digits. All three stand for its bytes.

## Main definitions

* `TargetGraph.Json.writtenBytes` — the bytes of a character inside a JSON text.
* `TargetGraph.Json.WrittenAs` — the three ways to write a character.

## Main results

* `TargetGraph.Json.writtenAs_writtenBytes`, `TargetGraph.Json.unescapeFrom?_written` — how a
  character is written, and that it stands for its bytes.
* `TargetGraph.Json.readText?_written` — a text is read back.
-/

namespace TargetGraph.Json

open Text

variable {c : Char} {rest done : List UInt8}

/-! ### Characters -/

/-- The bytes of a character inside a JSON text. -/
def writtenBytes (c : Char) : List UInt8 :=
  (writtenChar c).flatMap String.utf8EncodeChar

/-- The byte stands for itself inside a JSON text. -/
def IsPlain (b : UInt8) : Prop :=
  0x20 ≤ b ∧ b ≠ 0x22 ∧ b ≠ 0x5c

/-- The three ways to write a character. -/
inductive WrittenAs (c : Char) : List UInt8 → Prop where
  /-- By its bytes, which stand for themselves. -/
  | itself (hplain : ∀ b ∈ String.utf8EncodeChar c, IsPlain b) :
    WrittenAs c (String.utf8EncodeChar c)
  /-- By a backslash and a letter that stands for its only byte. -/
  | letter {l b : UInt8} (hu : l ≠ 0x75) (hletter : escapedByte? l = some b)
    (hbyte : String.utf8EncodeChar c = [b]) : WrittenAs c [0x5c, l]
  /-- By its number. -/
  | unit {h l : UInt8} (hunit : hexUnit? 0x30 0x30 h l = some c.toNat) (hsmall : c.toNat < 0x20) :
    WrittenAs c [0x5c, 0x75, 0x30, 0x30, h, l]

/-- Hexadecimal digits are one byte, and have their value. -/
theorem hexDigit_spec : ∀ n < 16, String.utf8EncodeChar (hexDigit n) =
    [UInt8.ofNat (hexDigit n).toNat] ∧ hexValue? (UInt8.ofNat (hexDigit n).toNat) = some n := by
  decide

/-- A byte that is no control character, no quote and no backslash stands for itself. -/
theorem isPlain_ofNat {n : Nat} (hsmall : n < 256) (hlarge : 0x20 ≤ n) (hquote : n ≠ 0x22)
    (hbackslash : n ≠ 0x5c) : IsPlain (UInt8.ofNat n) := by
  refine ⟨?_, ?_, ?_⟩
  · rw [UInt8.le_iff_toNat_le, UInt8.toNat_ofNat_of_lt' hsmall]
    exact hlarge
  · rw [Ne, ← UInt8.toNat_inj, UInt8.toNat_ofNat_of_lt' hsmall]
    exact hquote
  · rw [Ne, ← UInt8.toNat_inj, UInt8.toNat_ofNat_of_lt' hsmall]
    exact hbackslash

/-- The bytes of a character stand for themselves unless it is a control character, a quote or a
backslash.

**Proof sketch.** A character of one byte is that byte, and the hypotheses exclude the three. All
bytes of a longer character are at least `0x80`. -/
theorem isPlain_of_mem (hlarge : 0x20 ≤ c.toNat) (hquote : c ≠ '"') (hbackslash : c ≠ '\\') :
    ∀ b ∈ String.utf8EncodeChar c, IsPlain b := by
  have hmax : c.toNat < 0x110000 := by
    have hvalid := c.valid
    simp only [UInt32.isValidChar, Nat.isValidChar] at hvalid
    show c.val.toNat < _
    omega
  have hq : c.toNat ≠ 0x22 := fun h => hquote (Char.toNat_inj.mp h)
  have hb : c.toNat ≠ 0x5c := fun h => hbackslash (Char.toNat_inj.mp h)
  unfold String.utf8EncodeChar
  rw [Char.toNat] at *
  generalize c.val.toNat = n at *
  simp only
  -- one byte that the hypotheses are about, or bytes that are all greater
  repeat' split
  all_goals
    simp (disch := omega) only [List.forall_mem_cons, isPlain_ofNat, true_and, List.not_mem_nil,
      false_implies, implies_true]

/-- A control character is written by its number: two zeros and two hexadecimal digits
(`hexDigit_spec`), which have its value. -/
theorem writtenAs_unit (h : c.toNat < 0x20) :
    WrittenAs c (['\\', 'u', '0', '0', hexDigit (c.toNat / 16), hexDigit (c.toNat % 16)].flatMap
      String.utf8EncodeChar) := by
  obtain ⟨hhigh, hhigh'⟩ := hexDigit_spec (c.toNat / 16) (by omega)
  obtain ⟨hlow, hlow'⟩ := hexDigit_spec (c.toNat % 16) (by omega)
  have hzero : hexValue? 0x30 = some 0 := by decide
  simp only [List.flatMap_cons, List.flatMap_nil, hhigh, hlow]
  refine .unit ?_ h
  simp only [hexUnit?, hzero, hhigh', hlow']
  congr 1
  omega

/-- **A character is written in one of the three ways.**

**Proof sketch.** Seven characters have a letter of their own, the other control characters are
written by their number (`writtenAs_unit`), and the bytes of all others stand for themselves
(`isPlain_of_mem`). -/
theorem writtenAs_writtenBytes (c : Char) : WrittenAs c (writtenBytes c) := by
  have hchar : ∀ {n : Nat}, c.toNat = n → c = Char.ofNat n := fun h => by
    rw [← h, Char.ofNat_toNat]
  unfold writtenBytes writtenChar
  split_ifs with hquote hbackslash hback hfeed hline hreturn htab hsmall
  · subst hquote
    exact .letter (b := 0x22) (by decide) rfl rfl
  · subst hbackslash
    exact .letter (b := 0x5c) (by decide) rfl rfl
  · obtain rfl := hchar hback
    exact .letter (b := 0x08) (by decide) rfl rfl
  · obtain rfl := hchar hfeed
    exact .letter (b := 0x0c) (by decide) rfl rfl
  · subst hline
    exact .letter (b := 0x0a) (by decide) rfl rfl
  · subst hreturn
    exact .letter (b := 0x0d) (by decide) rfl rfl
  · subst htab
    exact .letter (b := 0x09) (by decide) rfl rfl
  · exact writtenAs_unit hsmall
  · rw [List.flatMap_singleton]
    exact .itself (isPlain_of_mem (Nat.not_lt.mp hsmall) hquote hbackslash)

/-! ### Texts -/

/-- Plain bytes may stand between two quotes.

**Proof sketch.** By induction on the bytes, for any text before them: each of them is a piece of a
text. -/
theorem TextBody.append_plain {s t : List UInt8} (hs : TextBody s) (ht : ∀ b ∈ t, IsPlain b) :
    TextBody (s ++ t) := by
  induction t generalizing s with
  | nil => rwa [List.append_nil]
  | cons b rest ih =>
    rw [List.forall_mem_cons] at ht
    obtain ⟨hcontrol, hquote, hbackslash⟩ := ht.1
    rw [List.append_cons]
    exact ih (hs.append (.plain hcontrol hquote hbackslash)) ht.2

/-- The digits of a number are hexadecimal digits. -/
theorem hexUnit?_digits {a b h l : UInt8} {n : Nat} (hunit : hexUnit? a b h l = some n) :
    ∀ d ∈ [a, b, h, l], (hexValue? d).isSome := by
  unfold hexUnit? at hunit
  split at hunit
  · next ha hb hh hl => simp [ha, hb, hh, hl]
  · cases hunit

/-- What a character is written as may stand between two quotes. -/
theorem TextBody.append_written {s t : List UInt8} (hs : TextBody s) (ht : WrittenAs c t) :
    TextBody (s ++ t) := by
  cases ht with
  | itself hplain => exact hs.append_plain hplain
  | letter _ hletter _ => exact hs.append (.letter (by rw [hletter]; rfl))
  | unit hunit _ => exact hs.append (.unit rfl (hexUnit?_digits hunit))

/-- A plain byte stands for itself. -/
theorem unescapeFrom?_plain {b : UInt8} (h : b ≠ 0x5c) :
    unescapeFrom? done (b :: rest) = unescapeFrom? (b :: done) rest := by
  rw [unescapeFrom?, if_neg h] <;> simp [h]

/-- Plain bytes stand for themselves, by induction on them. -/
theorem unescapeFrom?_append_plain {t : List UInt8} (h : ∀ b ∈ t, IsPlain b) :
    unescapeFrom? done (t ++ rest) = unescapeFrom? (t.reverse ++ done) rest := by
  induction t generalizing done with
  | nil => rfl
  | cons b t ih =>
    rw [List.forall_mem_cons] at h
    rw [List.cons_append, unescapeFrom?_plain h.1.2.2, ih h.2, List.reverse_cons, List.append_assoc]
    rfl

/-- **What a character is written as stands for its bytes.**

**Proof sketch.** One case for each way to write it. The number of a control character is not that
of half a pair, so it is read by itself, and the character of that number is the one that was
written. -/
theorem unescapeFrom?_written {t : List UInt8} (ht : WrittenAs c t) :
    unescapeFrom? done (t ++ rest) =
      unescapeFrom? ((String.utf8EncodeChar c).reverse ++ done) rest := by
  cases ht with
  | itself hplain => exact unescapeFrom?_append_plain hplain
  | @letter l b hu hletter hbyte =>
    rw [hbyte]
    show unescapeFrom? done (0x5c :: l :: rest) = _
    rw [unescapeFrom?, hletter]
    · rfl
    · simp [hu]
  | @unit h l hunit hsmall =>
    show unescapeFrom? done (0x5c :: 0x75 :: 0x30 :: 0x30 :: h :: l :: rest) = _
    rw [unescapeFrom?, hunit]
    have hbytes : codePointBytes c.toNat = String.utf8EncodeChar c := by
      rw [codePointBytes, Char.ofNat_toNat, utf8_eq_flatMap]
      simp
    simp only
    rw [if_pos (.inl (by omega)), hbytes]

/-- What characters are written as may stand between two quotes. -/
theorem TextBody.append_flatMap {s : List UInt8} (hs : TextBody s) (cs : List Char) :
    TextBody (s ++ cs.flatMap writtenBytes) := by
  induction cs generalizing s with
  | nil => rwa [List.flatMap_nil, List.append_nil]
  | cons c cs ih =>
    rw [List.flatMap_cons, ← List.append_assoc]
    exact ih (hs.append_written (writtenAs_writtenBytes c))

/-- What characters are written as stands for their bytes.

**Proof sketch.** By induction on the characters, with `unescapeFrom?_written` for the first of
them. -/
theorem unescapeFrom?_flatMap (cs : List Char) :
    unescapeFrom? done (cs.flatMap writtenBytes) =
      some (done.reverse ++ cs.flatMap String.utf8EncodeChar) := by
  induction cs generalizing done with
  | nil =>
    rw [List.flatMap_nil, List.flatMap_nil, List.append_nil]
    rfl
  | cons c cs ih =>
    rw [List.flatMap_cons, List.flatMap_cons, unescapeFrom?_written (writtenAs_writtenBytes c), ih,
      List.reverse_append, List.reverse_reverse, List.append_assoc]

/-- A text is written between two quotes. -/
theorem utf8_written (text : String) :
    utf8 (written text) = 0x22 :: (text.toList.flatMap writtenBytes ++ [0x22]) := by
  have hquote : String.utf8EncodeChar '"' = [0x22] := rfl
  rw [utf8_eq_flatMap, written, String.toList_ofList, List.flatMap_cons, List.flatMap_append,
    List.flatMap_assoc, List.flatMap_singleton, hquote]
  rfl

/-- There are no spaces around quotes. -/
theorem trimSpaces_quotes (t : List UInt8) :
    trimSpaces (0x22 :: (t ++ [0x22])) = 0x22 :: (t ++ [0x22]) := by
  have hquote : isSpace 0x22 = false := rfl
  have hreverse : (0x22 :: (t ++ [0x22])).reverse = 0x22 :: (t.reverse ++ [0x22]) := by
    simp
  rw [trimSpaces, List.dropWhile_cons_of_neg (by rw [hquote]; nofun), hreverse,
    List.dropWhile_cons_of_neg (by rw [hquote]; nofun), ← hreverse, List.reverse_reverse]

/-- **A text is read back from the JSON that writes it.**

**Proof sketch.** The bytes between the quotes are those of characters, each written in one of three
ways (`writtenAs_writtenBytes`). So the scanner takes them in up to the last quote (`feed_text`),
and they stand for the bytes of the text (`unescapeFrom?_flatMap`), which are those of one text
only. -/
theorem readText?_written (text : String) : readText? (utf8 (written text)) = some text := by
  have hbody : TextBody (text.toList.flatMap writtenBytes) :=
    TextBody.nil.append_flatMap text.toList
  rw [utf8_written, readText?, trimSpaces_quotes]
  simp only [feed_text hbody, Scanner.close, Raw.text?, decodeText?, unescapeFrom?_flatMap]
  rw [List.reverse_nil, List.nil_append, ← utf8_eq_flatMap, ofUtf8?_utf8]

end TargetGraph.Json
