import Mathlib.Data.List.Forall2
import Mathlib.Data.List.TakeWhile
import TargetGraph.Tool.Run

set_option relaxedAutoImplicit false
set_option autoImplicit false

/-!
# The end of a tool's error output

A tool that fails is reported with the end of what it wrote to its error output. The bytes are cut
into lines at the newlines (`AreLines`), and a report *carries the end* of the lines when it has an
entry for each of the last twenty, in order, which says what the line says wherever the line is a
text in UTF-8 (`CarriesEnd`).

The reading goes over the lines from the first to the last and stops at the first that is no text.
A report therefore holds the last of the lines *before* that one: it carries the end of an error
output that is text throughout, and loses it as soon as one of the first twenty lines is no text.

## Main definitions

* `TargetGraph.AreLines` — what lines some bytes are cut into.
* `TargetGraph.IsText` — bytes that write a text.
* `TargetGraph.CarriesEnd` — what a report ought to hold.

## Main results

* `TargetGraph.ToolCall.capture_failed` — what a failure reports, for every error output.
-/

namespace TargetGraph

variable {bytes line rest : List UInt8} {lines front lost : List (List UInt8)}

/-! ### Lines -/

/-- A line without a carriage return at its end. -/
def dropReturn (line : List UInt8) : List UInt8 :=
  if line.getLast? = some 0x0d then line.dropLast else line

/-- What lines some bytes are cut into. A line ends at a newline, which a carriage return may
precede; what follows the last newline is a line as it stands, unless there is nothing. So a
carriage return belongs to the end of a line only in front of a newline. -/
inductive AreLines : List UInt8 → List (List UInt8) → Prop where
  /-- No bytes have no lines. -/
  | nothing : AreLines [] []
  /-- The last line need not end. It then keeps a carriage return at its end: the bytes that
  `printf 'a\r'` writes are one line, the letter and the carriage return. -/
  | unended {line : List UInt8} : line ≠ [] → 0x0a ∉ line → AreLines line [line]
  /-- A line that ends, before the lines of the other bytes. -/
  | ended {line rest : List UInt8} {lines : List (List UInt8)} :
      0x0a ∉ line → AreLines rest lines →
        AreLines (line ++ 0x0a :: rest) (dropReturn line :: lines)

/-- Bytes without a newline are one line, unless there are none.

**Proof sketch.** By induction on the bytes. The last of them is a line of its own, and any other is
put in front of the line that the rest is. -/
theorem rawLines_unended (hne : line ≠ []) (h : 0x0a ∉ line) : rawLines line = [line] := by
  induction line with
  | nil => exact absurd rfl hne
  | cons b line ih =>
    obtain ⟨hb, hline⟩ : 0x0a ≠ b ∧ 0x0a ∉ line := by simpa [not_or] using h
    rcases eq_or_ne line [] with rfl | hmore
    · simp [rawLines, hb.symm]
    · have ih := ih hmore hline
      rw [rawLines] at ih ⊢
      rw [List.foldr_cons, ih, if_neg hb.symm]

/-- The first newline ends the first line.

**Proof sketch.** By induction on what stands before it. The newline alone is a line; any byte
before it is put in front of that line, and the lines behind it stay as they are. -/
theorem rawLines_append (h : 0x0a ∉ line) :
    rawLines (line ++ 0x0a :: rest) = (line ++ [0x0a]) :: rawLines rest := by
  induction line with
  | nil => simp [rawLines]
  | cons b line ih =>
    obtain ⟨hb, hline⟩ : 0x0a ≠ b ∧ 0x0a ∉ line := by simpa [not_or] using h
    have ih := ih hline
    rw [rawLines] at ih
    rw [rawLines, List.cons_append, List.foldr_cons, ih, if_neg hb.symm]
    rfl

/-- A line without a newline is left as it is, with a carriage return if it ends in one. -/
theorem stripLineEnd_unended (h : 0x0a ∉ line) : stripLineEnd line = line := by
  have hrev : 0x0a ∉ line.reverse := by simpa using h
  unfold stripLineEnd
  split
  · rename_i heq
    exact absurd (heq ▸ List.mem_cons_self) hrev
  · rename_i heq
    exact absurd (heq ▸ List.mem_cons_self) hrev
  · rfl

/-- Of a line that ends, the newline is dropped, and one carriage return before it. -/
theorem stripLineEnd_ended (line : List UInt8) :
    stripLineEnd (line ++ [0x0a]) = dropReturn line := by
  rcases List.eq_nil_or_concat' line with rfl | ⟨front, last, rfl⟩
  · rfl
  · by_cases hlast : last = 0x0d
    · subst hlast
      simp [stripLineEnd, dropReturn]
    · have hshape : (front ++ [last] ++ [0x0a]).reverse = 0x0a :: last :: front.reverse := by simp
      rw [stripLineEnd, hshape]
      simp [dropReturn, hlast]

/-- Bytes are cut into just one list of lines: the one that is read. -/
theorem AreLines.eq_read (h : AreLines bytes lines) :
    lines = (rawLines bytes).map stripLineEnd := by
  induction h with
  | nothing => rfl
  | unended hne hline => rw [rawLines_unended hne hline, List.map_singleton,
      stripLineEnd_unended hline]
  | ended hline _ ih => rw [rawLines_append hline, List.map_cons, stripLineEnd_ended, ih]

/-- All bytes can be cut into lines.

**Proof sketch.** By induction on how many bytes there are: behind the first newline there are
fewer. -/
theorem exists_areLines (bytes : List UInt8) : ∃ lines, AreLines bytes lines := by
  induction hlength : bytes.length using Nat.strong_induction_on generalizing bytes with
  | _ length ih =>
    by_cases hnewline : 0x0a ∈ bytes
    · obtain ⟨line, rest, rfl, hline⟩ := List.eq_append_cons_of_mem hnewline
      have hshorter : rest.length < length := by
        rw [← hlength, List.length_append, List.length_cons]
        omega
      obtain ⟨lines, hlines⟩ := ih rest.length hshorter rest rfl
      exact ⟨_, .ended hline hlines⟩
    · rcases eq_or_ne bytes [] with rfl | hne
      · exact ⟨_, .nothing⟩
      · exact ⟨_, .unended hne hnewline⟩

/-! ### Texts -/

/-- Some bytes write a text in UTF-8. -/
def IsText (line : List UInt8) : Prop :=
  ∃ text : String, Text.utf8 text = line

/-- Bytes that write a text are read as that text, other bytes as none. -/
theorem isSome_ofUtf8?_iff : (Text.ofUtf8? line).isSome ↔ IsText line := by
  rw [Option.isSome_iff_exists]
  constructor
  · rintro ⟨text, htext⟩
    exact ⟨text, Text.utf8_of_ofUtf8? htext⟩
  · rintro ⟨text, rfl⟩
    exact ⟨text, Text.ofUtf8?_utf8 text⟩

instance : DecidablePred IsText := fun _ => decidable_of_iff _ isSome_ofUtf8?_iff

/-- Lines are texts up to a first one that is none. -/
theorem exists_front (lines : List (List UInt8)) :
    ∃ front lost, lines = front ++ lost ∧ (∀ line ∈ front, IsText line) ∧
      (∀ line ∈ lost.head?, ¬IsText line) := by
  refine ⟨lines.takeWhile (IsText ·), lines.dropWhile (IsText ·),
    List.takeWhile_append_dropWhile.symm, fun line hline => ?_, fun line hline => ?_⟩
  · simpa using List.mem_takeWhile_imp hline
  · have hnot := List.head?_dropWhile_not (fun line => decide (IsText line)) lines
    rw [Option.mem_def.mp hline] at hnot
    simpa using hnot

/-- The texts at the start of some lines are the lines before the first that is no text.

**Proof sketch.** By induction on the lines before it. A line that is a text comes back from its
bytes (`Text.ofUtf8?_utf8`); at the first that is none, or behind the last line, the texts end. -/
theorem map_utf8_leadingTexts (hfront : ∀ line ∈ front, IsText line)
    (hlost : ∀ line ∈ lost.head?, ¬IsText line) :
    (leadingTexts ((front ++ lost).map Text.ofUtf8?)).map Text.utf8 = front := by
  induction front with
  | nil =>
    cases lost with
    | nil => rfl
    | cons broken others =>
      have hnone : Text.ofUtf8? broken = none := by
        rw [← Option.not_isSome_iff_eq_none, isSome_ofUtf8?_iff]
        exact hlost broken rfl
      rw [List.nil_append, List.map_cons, hnone]
      rfl
  | cons line front ih =>
    obtain ⟨text, rfl⟩ := hfront line List.mem_cons_self
    rw [List.cons_append, List.map_cons, Text.ofUtf8?_utf8, leadingTexts, List.map_cons,
      ih fun line hline => hfront line (List.mem_cons_of_mem _ hline)]

/-! ### What a failure reports -/

/-- The last lines of an error output, as many as a report has room for. -/
def lastLines (lines : List (List UInt8)) : List (List UInt8) :=
  lines.drop (lines.length - errorTailLength)

/-- A report carries the end of some lines: it has an entry for each of the last ones, in order,
and the entry of a line that is a text says that text. -/
def CarriesEnd (lines : List (List UInt8)) (report : List String) : Prop :=
  List.Forall₂ (fun line entry => IsText line → Text.utf8 entry = line) (lastLines lines) report

/-- There are as many last lines as there is room for, or as there are lines. -/
theorem length_lastLines (lines : List (List UInt8)) :
    (lastLines lines).length = min errorTailLength lines.length := by
  rw [lastLines, List.length_drop]
  omega

/-- A report that carries the end has twenty entries, or as many as there are lines. -/
theorem CarriesEnd.length_eq {report : List String} (h : CarriesEnd lines report) :
    report.length = min errorTailLength lines.length := by
  rw [← List.Forall₂.length_eq h, length_lastLines]

/-- A report that writes the last lines byte for byte carries the end. -/
theorem carriesEnd_of_map_utf8 {report : List String}
    (h : report.map Text.utf8 = lastLines lines) : CarriesEnd lines report := by
  rw [CarriesEnd, ← h, List.forall₂_map_left_iff]
  exact List.forall₂_same.mpr fun _ _ _ => rfl

/-- The end of an error output is read from the lines before the first that is no text.

**Proof sketch.** The lines that are read are those of `AreLines` (`AreLines.eq_read`), and the
reading stops at the first that is no text (`map_utf8_leadingTexts`). Of what it has read by then
the last twenty are kept. -/
theorem map_utf8_errorTail (hlines : AreLines bytes (front ++ lost))
    (hfront : ∀ line ∈ front, IsText line) (hlost : ∀ line ∈ lost.head?, ¬IsText line) :
    (errorTail bytes).map Text.utf8 = lastLines front := by
  have hread : readableLines bytes = leadingTexts ((front ++ lost).map Text.ofUtf8?) := by
    rw [hlines.eq_read, List.map_map]
    rfl
  have htexts : (readableLines bytes).map Text.utf8 = front := by
    rw [hread, map_utf8_leadingTexts hfront hlost]
  have hlength : (readableLines bytes).length = front.length := by
    rw [← htexts, List.length_map]
  rw [errorTail, List.map_drop, htexts, hlength, lastLines]

/-- **What a failure reports.** A run that is not cancelled and ends by a signal, or with another
code than zero and three, is a failure with that code. Its report writes, byte for byte, the last
twenty of the lines `front` before the first line that is no text, or all of them if they are fewer;
from that line on everything is `lost`.

If nothing is lost the report carries the end of the error output. If something is, it carries the
end only by accident, when the last of the lines in front happen to say the same; it never does if
there are fewer than twenty lines in front.

**Proof sketch.** The error output is cut into lines (`exists_areLines`), and these are texts up to
a first one that is none (`exists_front`). The report is what `map_utf8_errorTail` says. If lines
are lost and fewer than twenty are in front, it has fewer entries than a report that carries the end
(`CarriesEnd.length_eq`). -/
theorem ToolCall.capture_failed (call : ToolCall) (cancellation : Cancellation)
    (code : Option Int) (output errors : List UInt8) (duration : Nat)
    (hcancel : cancellation.interrupts duration = false)
    (hzero : code ≠ some 0) (hthree : code ≠ some 3) :
    ∃ front lost report,
      AreLines errors (front ++ lost) ∧
      (∀ line ∈ front, IsText line) ∧ (∀ line ∈ lost.head?, ¬IsText line) ∧
      call.capture cancellation (.ended code output errors duration) =
        .error (.toolFailed code report) ∧
      report.map Text.utf8 = lastLines front ∧
      (lost = [] → CarriesEnd (front ++ lost) report) ∧
      (lost ≠ [] → front.length < errorTailLength → ¬CarriesEnd (front ++ lost) report) := by
  obtain ⟨lines, hlines⟩ := exists_areLines errors
  obtain ⟨front, lost, rfl, hfront, hlost⟩ := exists_front lines
  have htail := map_utf8_errorTail hlines hfront hlost
  have hnotAlready : cancellation ≠ .already := by
    rintro rfl
    cases hcancel
  refine ⟨front, lost, errorTail errors, hlines, hfront, hlost, ?_, htail, ?_, ?_⟩
  · simp [capture, judge, hnotAlready, hcancel, hzero, hthree]
  · intro hnil
    rw [hnil, List.append_nil]
    exact carriesEnd_of_map_utf8 htail
  · -- with a line lost, the report has fewer entries than the end that it should carry
    intro hne hfew hcarries
    have hlength : (errorTail errors).length = min errorTailLength front.length := by
      rw [← length_lastLines, ← htail, List.length_map]
    have hmore : 0 < lost.length := List.length_pos_iff.mpr hne
    have hboth := hcarries.length_eq
    rw [hlength, List.length_append] at hboth
    omega

/-- Of two lines, the first ended by a carriage return and a newline and the second not ended, both
texts are reported, without the bytes that ended the first. -/
theorem ToolCall.capture_failed_two_lines :
    Cancellation.never.interrupts 0 = false ∧ (some 4 : Option Int) ≠ some 0 ∧
    (some 4 : Option Int) ≠ some 3 ∧
    ToolCall.capture { program := "sh" } .never (.ended (some 4) [] [0x61, 0x0d, 0x0a, 0x62] 0) =
      .error (.toolFailed (some 4) ["a", "b"]) ∧
    AreLines [0x61, 0x0d, 0x0a, 0x62] [[0x61], [0x62]] ∧
    CarriesEnd [[0x61], [0x62]] ["a", "b"] := by
  have hreport : ToolCall.capture { program := "sh" } .never
      (.ended (some 4) [] [0x61, 0x0d, 0x0a, 0x62] 0) =
        .error (.toolFailed (some 4) ["a", "b"]) := rfl
  obtain ⟨front, lost, report, hlines, -, hlost, hcapture, -, hcarries, -⟩ :=
    ToolCall.capture_failed { program := "sh" } .never (some 4) [] [0x61, 0x0d, 0x0a, 0x62] 0 rfl
      (by decide) (by decide)
  have hread : front ++ lost = [[0x61], [0x62]] := hlines.eq_read
  have htexts : ∀ line ∈ front ++ lost, IsText line := by
    rw [hread]
    decide
  -- both lines are texts, so none is lost
  have hnil : lost = [] := by
    cases lost with
    | nil => rfl
    | cons line others => exact absurd (htexts line (by simp)) (hlost line rfl)
  have hends := hcarries hnil
  rw [hreport] at hcapture
  cases hcapture
  rw [hread] at hlines hends
  exact ⟨rfl, by decide, by decide, hreport, hlines, hends⟩

/-- The byte `ff` on a line of its own loses the line after it: the report is empty, though the
error output ends with a line that is a text. -/
theorem ToolCall.capture_loses_later_line :
    AreLines [0xff, 0x0a, 0x61, 0x0a] [[0xff], [0x61]] ∧ IsText [0x61] ∧
    ToolCall.capture { program := "sh" } .never (.ended (some 4) [] [0xff, 0x0a, 0x61, 0x0a] 0) =
      .error (.toolFailed (some 4) []) ∧
    ¬CarriesEnd [[0xff], [0x61]] [] := by
  have hsecond : AreLines [0x61, 0x0a] [[0x61]] :=
    .ended (show 0x0a ∉ [0x61] by decide) .nothing
  have hboth : AreLines [0xff, 0x0a, 0x61, 0x0a] [[0xff], [0x61]] :=
    .ended (show 0x0a ∉ [0xff] by decide) hsecond
  refine ⟨hboth, ⟨"a", rfl⟩, rfl, fun hcarries => ?_⟩
  have hlength := hcarries.length_eq
  simp [errorTailLength] at hlength

end TargetGraph
