import Mathlib.Data.List.Infix
import TargetGraph.Tool.Call

set_option relaxedAutoImplicit false
set_option autoImplicit false

/-!
# Command lines in logs

A call is logged as one line, and a line that is too long for the log is cut. The bound is in bytes,
while characters have between one and four of them, so the cut is searched for backwards from the
bound, until no character is cut in two.

## Main definitions

* `TargetGraph.LongestWithin` — a text is as much of the beginning of another as has room.

## Main results

* `TargetGraph.cutBefore?_eq_some` — the search ends at the last place where the text may be cut.
* `TargetGraph.LongestWithin.limit_le` — a cut leaves at most three bytes of the room unused.
* `TargetGraph.ToolCall.commandLine_bounded` — what is logged of a call.
-/

namespace TargetGraph

open String

variable {text kept : String} {limit offset : Nat}

/-! ### The search for a cut -/

/-- Whenever the search ends at a place, that is the last one up to the offset where no character is
cut in two.

**Proof sketch.** By induction on the offset. The search stops at the first place that it comes to,
from the right, and passes over an offset only if a character would be cut in two there. -/
theorem cutBefore?_eq_some {cut : text.Pos} (h : cutBefore? text offset = some cut) :
    cut.offset.byteIdx ≤ offset ∧
      ∀ place : Nat, place ≤ offset → (⟨place⟩ : Pos.Raw).IsValid text →
        place ≤ cut.offset.byteIdx := by
  induction offset with
  | zero =>
    rw [cutBefore?] at h
    split at h
    · cases h
      exact ⟨Nat.le_refl 0, fun place hplace _ => hplace⟩
    · cases h
  | succ before ih =>
    rw [cutBefore?] at h
    split at h
    · cases h
      exact ⟨Nat.le_refl (before + 1), fun place hplace _ => hplace⟩
    · next hinvalid =>
      obtain ⟨hle, hlast⟩ := ih h
      refine ⟨by omega, fun place hplace hvalid => ?_⟩
      -- the search went on because no character ends or begins at this offset
      have hne : place ≠ before + 1 := by
        rintro rfl
        exact hinvalid hvalid
      exact hlast place (by omega) hvalid

/-! ### As much as there is room for -/

/-- A text is the longest beginning of another that has at most so many bytes. -/
structure LongestWithin (limit : Nat) (text kept : String) : Prop where
  /-- It is a beginning of the other text, of whole characters. -/
  begins : kept.toList <+: text.toList
  /-- There is room for it. -/
  size_le : kept.utf8ByteSize ≤ limit
  /-- It goes as far as any other beginning for which there is room. -/
  longest : ∀ other : String, other.toList <+: text.toList → other.utf8ByteSize ≤ limit →
    other.toList <+: kept.toList

/-- The beginnings of a text are what it can be cut into. -/
theorem toList_isPrefix_iff {other : String} :
    other.toList <+: text.toList ↔ ∃ rest, text = other ++ rest := by
  constructor
  · rintro ⟨rest, hrest⟩
    refine ⟨ofList rest, ?_⟩
    rw [← toList_inj, toList_append, toList_ofList, hrest]
  · rintro ⟨rest, rfl⟩
    rw [toList_append]
    exact List.prefix_append _ _

/-- No beginning of a text has more bytes than the text. -/
theorem utf8ByteSize_le_of_isPrefix {other : String} (h : other.toList <+: text.toList) :
    other.utf8ByteSize ≤ text.utf8ByteSize := by
  obtain ⟨rest, rfl⟩ := toList_isPrefix_iff.mp h
  rw [utf8ByteSize_append]
  omega

/-- A beginning of a text that has as many bytes as the text is all of it. -/
theorem eq_of_isPrefix_of_size_le {other : String} (h : other.toList <+: text.toList)
    (hsize : text.utf8ByteSize ≤ other.utf8ByteSize) : other = text := by
  obtain ⟨rest, rfl⟩ := toList_isPrefix_iff.mp h
  rw [utf8ByteSize_append] at hsize
  have hrest : rest = "" := utf8ByteSize_eq_zero_iff.mp (by omega)
  rw [hrest, append_empty]

/-- The size of a beginning of a text is an offset where no character is cut in two. -/
theorem isValid_of_isPrefix {other : String} (h : other.toList <+: text.toList) :
    (⟨other.utf8ByteSize⟩ : Pos.Raw).IsValid text := by
  obtain ⟨rest, hrest⟩ := toList_isPrefix_iff.mp h
  exact Pos.Raw.isValid_iff_exists_append.mpr ⟨other, rest, hrest, rfl⟩

/-- What stands before a place in a text is a beginning of it, and has as many bytes as the place is
far in. -/
theorem sliceTo_isPrefix (cut : text.Pos) :
    (text.sliceTo cut).copy.toList <+: text.toList ∧
      (text.sliceTo cut).copy.utf8ByteSize = cut.offset.byteIdx := by
  have hsplits := cut.splits
  refine ⟨toList_isPrefix_iff.mpr ⟨_, hsplits.eq_append⟩, ?_⟩
  rw [hsplits.offset_eq_rawEndPos, byteIdx_rawEndPos]

/-- **What stands before the place where the search ends is as much as there is room for.**

**Proof sketch.** The size of any other beginning is an offset where no character is cut in two
(`isValid_of_isPrefix`), so if it has room it is not behind the place (`cutBefore?_eq_some`). Of two
beginnings of one text, the one with no more bytes begins the other. -/
theorem longestWithin_of_cutBefore? {cut : text.Pos} (h : cutBefore? text limit = some cut) :
    LongestWithin limit text (text.sliceTo cut).copy := by
  obtain ⟨hle, hlast⟩ := cutBefore?_eq_some h
  obtain ⟨hbegins, hsize⟩ := sliceTo_isPrefix cut
  refine ⟨hbegins, by omega, fun other hother hroom => ?_⟩
  have hplace : other.utf8ByteSize ≤ cut.offset.byteIdx :=
    hlast _ hroom (isValid_of_isPrefix hother)
  -- of two beginnings of one text, one begins the other
  rcases List.prefix_or_prefix_of_prefix hother hbegins with hbefore | hbehind
  · exact hbefore
  · rw [eq_of_isPrefix_of_size_le hbehind (by omega)]

/-- **A cut leaves at most three bytes of the room unused**, since the next character, which has at
most four, did not fit.

**Proof sketch.** There is a next character, because the whole text has no room. With it the
beginning would be longer, so there is no room for it. -/
theorem LongestWithin.limit_le (h : LongestWithin limit text kept)
    (hlong : limit < text.utf8ByteSize) : limit ≤ kept.utf8ByteSize + 3 := by
  obtain ⟨rest, hrest⟩ := h.begins
  cases rest with
  | nil =>
    rw [List.append_nil, toList_inj] at hrest
    have hsize := h.size_le
    rw [hrest] at hsize
    omega
  | cons c rest =>
    have hsize : (kept ++ singleton c).utf8ByteSize = kept.utf8ByteSize + c.utf8Size := by
      rw [utf8ByteSize_append, utf8ByteSize_singleton]
    have hbegins : (kept ++ singleton c).toList <+: text.toList := by
      refine ⟨rest, ?_⟩
      rw [← hrest, toList_append, toList_singleton, List.append_assoc, List.singleton_append]
    have hfour := c.utf8Size_le_four
    by_contra hunused
    have hmore := utf8ByteSize_le_of_isPrefix (h.longest _ hbegins (by omega))
    have hpos := c.utf8Size_pos
    omega

/-! ### What is logged -/

/-- A text that is shortened is cut where the search ends. -/
theorem shorten_of_lt (h : limit < text.utf8ByteSize) :
    ∃ cut, cutBefore? text limit = some cut ∧
      shorten limit text = (text.sliceTo cut).copy ++ "..." := by
  refine ⟨_, (Option.some_get (isSome_cutBefore? text limit)).symm, ?_⟩
  rw [shorten, if_neg (by omega)]

namespace ToolCall

/-- **What is logged of a call.** The whole line is the program and its arguments with single spaces
between them, each of them in single quotes if there is white space in it. If it has at most a
thousand bytes, it is logged as it is. Otherwise the search for a cut ends, at most three bytes
before the bound and so long before the beginning of the line; as much of the line is logged as
there is room for, and three dots. What is logged has at most 1003 bytes, and at least a thousand if
it was cut.

**Proof sketch.** The search passes over an offset only where a character would be cut in two, and
the size of a beginning of whole characters is no such offset; so no beginning with room is longer
than the one that is kept (`longestWithin_of_cutBefore?`). The character behind it did not fit
(`LongestWithin.limit_le`). -/
theorem commandLine_bounded (call : ToolCall) :
    let quoted := fun argument : String =>
      if argument.toList.any Text.isBlank then "'" ++ argument ++ "'" else argument
    let full := " ".intercalate ((call.program :: call.arguments).map quoted)
    (full.utf8ByteSize ≤ 1000 ∧ call.commandLine = full ∨
      1000 < full.utf8ByteSize ∧ ∃ cut kept, cutBefore? full 1000 = some cut ∧
        997 ≤ cut.offset.byteIdx ∧ kept.utf8ByteSize = cut.offset.byteIdx ∧
        LongestWithin 1000 full kept ∧ call.commandLine = kept ++ "..." ∧
        1000 ≤ call.commandLine.utf8ByteSize) ∧
    call.commandLine.utf8ByteSize ≤ 1003 := by
  intro quoted full
  have hfull : call.commandLine = shorten 1000 full := rfl
  rw [hfull]
  rcases Nat.lt_or_ge 1000 full.utf8ByteSize with hlong | hshort
  · obtain ⟨cut, hcut, hshorten⟩ := shorten_of_lt hlong
    have hlongest := longestWithin_of_cutBefore? hcut
    have hsize := (sliceTo_isPrefix cut).2
    have hroom := hlongest.size_le
    have hunused := hlongest.limit_le hlong
    have hdots : (shorten 1000 full).utf8ByteSize = (full.sliceTo cut).copy.utf8ByteSize + 3 := by
      rw [hshorten, utf8ByteSize_append]
      rfl
    exact ⟨.inr ⟨hlong, cut, _, hcut, by omega, hsize, hlongest, hshorten, by omega⟩, by omega⟩
  · have hwhole : shorten 1000 full = full := if_pos hshort
    rw [hwhole]
    exact ⟨.inl ⟨hshort, rfl⟩, by omega⟩

/-- Where the thousandth byte is the first of two that write one character, nothing of that
character is logged. -/
theorem commandLine_straddling :
    let front := ofList (List.replicate 999 'x')
    let call : ToolCall := { program := front ++ "é" }
    1000 < (front ++ "é").utf8ByteSize ∧ call.commandLine = front ++ "..." := by
  intro front call
  have hfront : front.utf8ByteSize = 999 := by decide +kernel
  have hwhole : (front ++ "é").utf8ByteSize = 1001 := by
    rw [utf8ByteSize_append, hfront]
    rfl
  have hblank : ¬(front ++ "é").toList.any Text.isBlank = true := by
    simp only [List.any_eq_true, front, toList_append, toList_ofList, List.mem_append,
      List.mem_replicate]
    rintro ⟨c, ⟨-, rfl⟩ | hc, hblank⟩
    · exact absurd hblank (by decide)
    · obtain rfl : c = 'é' := by simpa using hc
      exact absurd hblank (by decide)
  refine ⟨by omega, ?_⟩
  have hbounded := (commandLine_bounded call).1
  simp only [call, List.map_cons, List.map_nil, if_neg hblank, intercalate_singleton] at hbounded
  rcases hbounded with ⟨hshort, -⟩ | ⟨-, cut, kept, -, -, -, hkept, hline, -⟩
  · omega
  · rw [hline]
    -- the front fits, the whole does not, and there is nothing in between
    have hbegins : front.toList <+: kept.toList := by
      refine hkept.longest front ?_ (by omega)
      rw [toList_append]
      exact List.prefix_append _ _
    obtain ⟨rest, hrest⟩ := hbegins
    have hend : rest <+: ['é'] := by
      have hall := hkept.begins
      rw [← hrest, toList_append] at hall
      exact (List.prefix_append_right_inj _).mp hall
    rcases List.prefix_cons_iff.mp hend with rfl | ⟨more, rfl, hmore⟩
    · rw [List.append_nil, toList_inj] at hrest
      rw [hrest]
    · obtain rfl := List.prefix_nil.mp hmore
      have hsize := hkept.size_le
      have heq : kept = front ++ "é" := by
        rw [← toList_inj, ← hrest, toList_append]
        rfl
      rw [heq, hwhole] at hsize
      omega

end ToolCall

end TargetGraph
