import TargetGraph.Proofs.Contents.Reading
import TargetGraph.Proofs.Text.Cut

set_option relaxedAutoImplicit false
set_option autoImplicit false

/-!
# What writes a location

A text writes a location when it is a relative path on one line, a row and a column, with colons
between them. There is one way to cut it like that, as the row and the column hold no colons. Why a
text writes none is told apart by the path alone: the row and the column behind an absolute path may
be digits of any script and any value.

## Main definitions

* `TargetGraph.Location.Cut` — a text is cut into a path on one line and two strings of digits.
* `TargetGraph.Location.WritesPosition` — digits write a row or a column.
* `TargetGraph.Location.Writes`, `TargetGraph.Location.WritesAbsolute` — a text writes a location,
  or would if its path were not absolute.

## Main results

* `TargetGraph.Location.pattern?_eq_some_iff`, `TargetGraph.Location.Cut.unique` — the one way to
  cut a text.
* `TargetGraph.Location.position?_eq_some_iff` — which digits write a row or a column, and which.
* `TargetGraph.Location.writes_text` — a location that was read is written by what it prints.
* `TargetGraph.Location.read_by_grammar` — what is read of any text.
-/

namespace TargetGraph

/-! ### Digits -/

namespace Text

variable {c : Char} {digits : List Char} {n d : Nat}

/-- ASCII digits have their value. -/
theorem asciiDigit?_eq_some_iff :
    asciiDigit? c = some d ↔ c.isDigit = true ∧ c.toNat - '0'.toNat = d := by
  have hdigit : c.isDigit = true ↔ '0' ≤ c ∧ c ≤ '9' := by
    rw [Char.isDigit, Bool.and_eq_true, decide_eq_true_iff, decide_eq_true_iff]
    rfl
  rw [asciiDigit?, Option.ite_none_right_eq_some, hdigit, Option.some.injEq]

/-- ASCII digits are read one by one.

**Proof sketch.** By induction on the digits: the first is read (`asciiDigit?_eq_some_iff`) and then
the rest, and both have to be digits. -/
theorem mapM_asciiDigit?_eq_some_iff {values : List Nat} :
    digits.mapM asciiDigit? = some values ↔
      (∀ c ∈ digits, c.isDigit = true) ∧ digits.map (fun c => c.toNat - '0'.toNat) = values := by
  induction digits generalizing values with
  | nil => simp
  | cons c rest ih =>
    rw [List.mapM_cons, List.forall_mem_cons, List.map_cons]
    simp only [Option.bind_eq_bind, Option.bind_eq_some_iff, ih, asciiDigit?_eq_some_iff,
      Option.pure_def, Option.some.injEq]
    constructor
    · rintro ⟨_, ⟨hc, rfl⟩, _, ⟨hrest, rfl⟩, rfl⟩
      exact ⟨⟨hc, hrest⟩, rfl⟩
    · rintro ⟨⟨hc, hrest⟩, rfl⟩
      exact ⟨_, ⟨hc, rfl⟩, _, ⟨hrest, rfl⟩, rfl⟩

/-- A string of ASCII digits writes its value in base ten; nothing else writes a number.

**Proof sketch.** The values of the digits (`mapM_asciiDigit?_eq_some_iff`) are added up as
`Nat.ofDigitChars` does it. -/
theorem decimalValue?_eq_some_iff :
    decimalValue? digits = some n ↔
      digits ≠ [] ∧ (∀ c ∈ digits, c.isDigit = true) ∧ Nat.ofDigitChars 10 digits 0 = n := by
  rw [decimalValue?, Option.ite_none_left_eq_some, List.isEmpty_iff, Option.map_eq_some_iff]
  refine and_congr_right fun _ => ?_
  simp only [mapM_asciiDigit?_eq_some_iff, Nat.ofDigitChars]
  constructor
  · rintro ⟨_, ⟨hdigits, rfl⟩, rfl⟩
    exact ⟨hdigits, (List.foldl_map ..).symm⟩
  · rintro ⟨hdigits, rfl⟩
    exact ⟨_, ⟨hdigits, rfl⟩, List.foldl_map ..⟩

/-- ASCII digits are decimal digits. -/
theorem isDecimalDigit_of_isDigit (h : c.isDigit = true) : isDecimalDigit c = true := by
  rw [Char.isDigit, Bool.and_eq_true, decide_eq_true_iff, decide_eq_true_iff] at h
  have hleast : 0x30 ≤ c.toNat := h.1
  have hgreatest : c.toNat ≤ 0x39 := h.2
  simp [isDecimalDigit, inRanges, digitRanges, hleast, hgreatest]

/-- A colon is no digit. -/
theorem isDecimalDigit_colon : isDecimalDigit ':' = false := by
  decide

end Text

namespace Location

open Text

variable {raw : String} {location : Location} {cs file row column : List Char} {n : Nat}

/-! ### The form of a location -/

/-- A text is cut into a path on one line, and two strings of decimal digits of any script. -/
structure Cut (cs file row column : List Char) : Prop where
  /-- Colons stand between the three. -/
  shape : cs = file ++ ':' :: (row ++ ':' :: column)
  /-- The path is on one line. -/
  line : '\n' ∉ file
  /-- There is a row. -/
  row : row ≠ [] ∧ ∀ c ∈ row, isDecimalDigit c = true
  /-- There is a column. -/
  column : column ≠ [] ∧ ∀ c ∈ column, isDecimalDigit c = true

/-- Digits are some decimal digits. -/
theorem isDigits_iff : isDigits cs = true ↔ cs ≠ [] ∧ ∀ c ∈ cs, isDecimalDigit c = true := by
  simp [isDigits]

/-- There is no colon among digits. -/
theorem colon_not_mem (h : ∀ c ∈ cs, isDecimalDigit c = true) : ':' ∉ cs := fun hmem =>
  absurd (h ':' hmem) (by rw [isDecimalDigit_colon]; exact Bool.false_ne_true)

/-- **The pattern finds the cut of a text**, if there is one.

**Proof sketch.** The search looks for the last colon, and then for the last one before it. What it
finds is a cut once the digits and the path have passed their checks. The other way, there is no
colon among digits (`colon_not_mem`), so `cutAtLast_eq_some_iff` finds the two colons of a cut
again. -/
theorem pattern?_eq_some_iff : pattern? cs = some (file, row, column) ↔ Cut cs file row column := by
  unfold pattern?
  constructor
  · intro h
    split at h
    · cases h
    · next before last hlast =>
      split at h
      · cases h
      · next first middle hmiddle =>
        obtain ⟨hcheck, hparts⟩ := Option.ite_none_right_eq_some.mp h
        cases hparts
        rw [Bool.and_eq_true, Bool.and_eq_true, isDigits_iff, isDigits_iff] at hcheck
        obtain ⟨hcs, _⟩ := cutAtLast_eq_some_iff.mp hlast
        obtain ⟨hbefore, _⟩ := cutAtLast_eq_some_iff.mp hmiddle
        refine ⟨?_, by simpa using hcheck.2, hcheck.1.1, hcheck.1.2⟩
        rw [hcs, hbefore, List.append_assoc, List.cons_append]
  · rintro ⟨hshape, hline, hrow, hcolumn⟩
    have hlast : cutAtLast ':' cs = some (file ++ ':' :: row, column) :=
      cutAtLast_eq_some_iff.mpr ⟨by simp [hshape], colon_not_mem hcolumn.2⟩
    have hmiddle : cutAtLast ':' (file ++ ':' :: row) = some (file, row) :=
      cutAtLast_eq_some_iff.mpr ⟨rfl, colon_not_mem hrow.2⟩
    simp only [hlast, hmiddle]
    rw [if_pos]
    rw [Bool.and_eq_true, Bool.and_eq_true, isDigits_iff, isDigits_iff]
    exact ⟨⟨hrow, hcolumn⟩, by simpa using hline⟩

/-- A text is cut in one way: the one that the search finds. -/
theorem Cut.unique {file' row' column' : List Char} (h : Cut cs file row column)
    (h' : Cut cs file' row' column') : file = file' ∧ row = row' ∧ column = column' := by
  have hsame := (pattern?_eq_some_iff.mpr h).symm.trans (pattern?_eq_some_iff.mpr h')
  cases hsame
  exact ⟨rfl, rfl, rfl⟩

/-! ### Rows and columns -/

/-- ASCII digits write a row or a column: a number of 32 bits that is not zero. -/
structure WritesPosition (digits : List Char) (n : Nat) : Prop where
  /-- There is a digit. -/
  ne_nil : digits ≠ []
  /-- All are ASCII digits. -/
  ascii : ∀ c ∈ digits, c.isDigit = true
  /-- The number is their value in base ten. -/
  value : Nat.ofDigitChars 10 digits 0 = n
  /-- It is not zero. -/
  pos : 1 ≤ n
  /-- It has 32 bits. -/
  le : n ≤ 4294967295

/-- A row or a column is read where digits write one: the value is that of
`decimalValue?_eq_some_iff`, and then the bounds are checked. -/
theorem position?_eq_some_iff : position? cs = some n ↔ WritesPosition cs n := by
  unfold position?
  constructor
  · intro h
    split at h
    · cases h
    · next value hvalue =>
      obtain ⟨hbounds, hn⟩ := Option.ite_none_right_eq_some.mp h
      cases hn
      obtain ⟨hne, hdigits, hvalue⟩ := decimalValue?_eq_some_iff.mp hvalue
      exact ⟨hne, hdigits, hvalue, hbounds.1, hbounds.2⟩
  · rintro ⟨hne, hdigits, hvalue, hpos, hle⟩
    rw [decimalValue?_eq_some_iff.mpr ⟨hne, hdigits, hvalue⟩]
    exact if_pos ⟨hpos, hle⟩

/-- Digits that write a row or a column are decimal digits. -/
theorem WritesPosition.digits (h : WritesPosition cs n) :
    cs ≠ [] ∧ ∀ c ∈ cs, isDecimalDigit c = true :=
  ⟨h.ne_nil, fun c hc => isDecimalDigit_of_isDigit (h.ascii c hc)⟩

/-- The printed form of a number of the right size writes it.

**Proof sketch.** What is printed are the decimal digits of the number. There is at least one, all
of them are ASCII digits, and the number that they write is the one that was printed. -/
theorem writesPosition_toString (hpos : 1 ≤ n) (hle : n ≤ 4294967295) :
    WritesPosition (toString n).toList n where
  ne_nil := by
    rw [Nat.toString_eq_repr, Nat.toList_repr]
    exact Nat.toDigits_ne_nil
  ascii c hc := by
    rw [Nat.toString_eq_repr, Nat.toList_repr] at hc
    exact Nat.isDigit_of_mem_toDigits (by decide) (by decide) hc
  value := by
    rw [Nat.toString_eq_repr, Nat.toList_repr]
    exact Nat.ofDigitChars_ten_toDigits
  pos := hpos
  le := hle

/-! ### Texts -/

/-- A text writes a location: a relative path on one line, and ASCII digits for the row and the
column. -/
def Writes (raw : String) (location : Location) : Prop :=
  ∃ row column,
    raw = location.file.text ++ ":" ++ String.ofList row ++ ":" ++ String.ofList column ∧
    location.file.text ≠ "" ∧ '\n' ∉ location.file.text.toList ∧
    location.file.text.toList.head? ≠ some '/' ∧
    WritesPosition row location.row ∧ WritesPosition column location.column

/-- A text would write a location if its path, on one line, were not absolute: digits of any script
and of any value stand for the row and the column. -/
def WritesAbsolute (raw : String) : Prop :=
  ∃ file row column, Cut raw.toList file row column ∧ file.head? = some '/'

/-- A text that writes a location is cut into its path and its digits. -/
theorem Writes.exists_cut (h : Writes raw location) :
    ∃ row column, Cut raw.toList location.file.text.toList row column ∧
      location.file.text.toList ≠ [] ∧ location.file.text.toList.head? ≠ some '/' ∧
      WritesPosition row location.row ∧ WritesPosition column location.column := by
  obtain ⟨row, column, rfl, hne, hline, hrelative, hrow, hcolumn⟩ := h
  refine ⟨row, column, ⟨by simp, hline, hrow.digits, hcolumn.digits⟩, ?_, hrelative, hrow, hcolumn⟩
  rwa [Ne, String.toList_eq_nil_iff]

/-- A text that is cut into a relative path and digits for a row and a column writes a location. -/
theorem writes_of_cut {n m : Nat} (h : Cut raw.toList file row column) (hne : file ≠ [])
    (hrelative : file.head? ≠ some '/') (hrow : WritesPosition row n)
    (hcolumn : WritesPosition column m) : Writes raw ⟨⟨String.ofList file⟩, n, m⟩ := by
  refine ⟨row, column, ?_, ?_, ?_, ?_, hrow, hcolumn⟩
  · rw [← String.toList_inj, h.shape]
    simp
  · simpa using hne
  · simpa using h.line
  · simpa using hrelative

/-- **A location is read where the text writes one.**

**Proof sketch.** Reading goes through the checks one after another: the cut
(`pattern?_eq_some_iff`), a path that is neither empty nor absolute, and the values of row and
column (`position?_eq_some_iff`). Passing them all is what `Writes` says (`writes_of_cut`,
`Writes.exists_cut`). -/
theorem parse_eq_ok_iff : parse raw = .ok location ↔ Writes raw location := by
  constructor
  · intro h
    unfold parse at h
    split at h
    · cases h
    · next file row column hcut =>
      rw [pattern?_eq_some_iff] at hcut
      split at h
      · cases h
      · next hne =>
        split at h
        · cases h
        · next hrelative =>
          split at h
          · next n m hrow hcolumn =>
            cases h
            exact writes_of_cut hcut (by simpa using hne) hrelative (position?_eq_some_iff.mp hrow)
              (position?_eq_some_iff.mp hcolumn)
          · cases h
  · intro h
    obtain ⟨row, column, hcut, hne, hrelative, hrow, hcolumn⟩ := h.exists_cut
    rw [parse, pattern?_eq_some_iff.mpr hcut]
    simp [hne, hrelative, position?_eq_some_iff.mpr hrow, position?_eq_some_iff.mpr hcolumn]

/-- A path is found to be absolute where a text would write a location but for that.

**Proof sketch.** Whether the path is absolute is looked at as soon as the text is cut, and before
the values of the digits are. An absolute path is not empty, so the check before that one does not
apply. -/
theorem parse_eq_absolute_iff : parse raw = .error .absolute ↔ WritesAbsolute raw := by
  constructor
  · intro h
    unfold parse at h
    split at h
    · cases h
    · next file row column hcut =>
      split at h
      · cases h
      · split at h
        · next habsolute => exact ⟨file, row, column, pattern?_eq_some_iff.mp hcut, habsolute⟩
        · split at h <;> cases h
  · rintro ⟨file, row, column, hcut, habsolute⟩
    have hne : file ≠ [] := by
      rintro rfl
      cases habsolute
    rw [parse, pattern?_eq_some_iff.mpr hcut]
    simp [hne, habsolute]

/-- A text is reported for an absolute path where it would write a location but for that. -/
theorem read_eq_absolute_iff :
    read raw = .error (.absoluteLocation raw) ↔ WritesAbsolute raw := by
  rw [← parse_eq_absolute_iff, read]
  cases parse raw with
  | ok location => simp
  | error fault => cases fault <;> simp

/-- A text that writes no location, and would write none if its path might be absolute, is
reported as malformed: what is reported is told apart by the outcome of `parse`, and there are
three of them. -/
theorem read_eq_malformed_iff :
    read raw = .error (.malformedLocation raw) ↔
      (¬∃ location, Writes raw location) ∧ ¬WritesAbsolute raw := by
  rw [← parse_eq_absolute_iff, read]
  simp only [← parse_eq_ok_iff]
  cases parse raw with
  | ok location => simp
  | error fault => cases fault <;> simp

/-- **A location that was read is written by what it prints**: the same path, and the printed row
and column (`writesPosition_toString`). -/
theorem writes_text (h : Writes raw location) : Writes location.text location := by
  obtain ⟨_, _, _, hne, hline, hrelative, hrow, hcolumn⟩ := h
  refine ⟨_, _, ?_, hne, hline, hrelative, writesPosition_toString hrow.pos hrow.le,
    writesPosition_toString hcolumn.pos hcolumn.le⟩
  rw [String.ofList_toList, String.ofList_toList]
  rfl

/-- **What is read of any text.** A location is read where the text writes one. The path is found to
be absolute where only that is in the way, whatever digits follow it. All other texts are malformed.
A text is cut into path, row and column in one way only. A location that was read is read again,
with the same text for its path, from what it prints.

**Proof sketch.** The two last colons are the only places to cut at, as digits are no colons
(`pattern?_eq_some_iff`). The path is looked at before the values of the digits are
(`parse_eq_ok_iff`, `parse_eq_absolute_iff`). The printed digits of a number have its value
(`writesPosition_toString`). -/
theorem read_by_grammar (raw : String) :
    (∀ location, read raw = .ok location ↔ Writes raw location) ∧
    (read raw = .error (.absoluteLocation raw) ↔ WritesAbsolute raw) ∧
    (read raw = .error (.malformedLocation raw) ↔
      (¬∃ location, Writes raw location) ∧ ¬WritesAbsolute raw) ∧
    (∀ file row column file' row' column', Cut raw.toList file row column →
      Cut raw.toList file' row' column' → file = file' ∧ row = row' ∧ column = column') ∧
    ∀ location, read raw = .ok location → read location.text = .ok location := by
  have hok : ∀ location, read raw = .ok location ↔ Writes raw location := fun location =>
    read_eq_ok_iff.trans parse_eq_ok_iff
  refine ⟨hok, read_eq_absolute_iff, read_eq_malformed_iff, fun _ _ _ _ _ _ h h' => h.unique h',
    fun location h => ?_⟩
  rw [read_eq_ok_iff, parse_eq_ok_iff]
  exact writes_text ((hok location).mp h)

/-- A path with a colon in it, a row with leading zeros, and the greatest column. -/
theorem read_colonInPath :
    read "a:1/B.java:007:4294967295" = .ok ⟨⟨"a:1/B.java"⟩, 7, 4294967295⟩ ∧
      read "a:1/B.java:7:4294967295" = .ok ⟨⟨"a:1/B.java"⟩, 7, 4294967295⟩ := by
  obtain ⟨hok, _, _, _, hagain⟩ := read_by_grammar "a:1/B.java:007:4294967295"
  have hread : read "a:1/B.java:007:4294967295" = .ok ⟨⟨"a:1/B.java"⟩, 7, 4294967295⟩ :=
    (hok _).mpr ⟨"007".toList, "4294967295".toList, by decide, by decide, by decide, by decide,
      ⟨by decide, List.all_eq_true.mp (by decide), by decide, by decide, by decide⟩,
      ⟨by decide, List.all_eq_true.mp (by decide), by decide, by decide, by decide⟩⟩
  exact ⟨hread, hagain _ hread⟩

end Location

end TargetGraph
