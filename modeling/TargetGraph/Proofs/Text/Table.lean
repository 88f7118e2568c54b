import Mathlib.Algebra.GroupWithZero.Nat
import Mathlib.Data.List.Forall2
import Mathlib.Data.List.MinMax
import TargetGraph.Text.Table

set_option relaxedAutoImplicit false
set_option autoImplicit false

/-!
# The layout of text tables

Where everything stands in a drawn table, whatever its rows are like: in every line the borders of
the columns have the same offsets, and between two of them there is a stroke or one cell.

## Main definitions

* `TargetGraph.Table.columnWidth` — the number of characters of the longest text in a column.
* `TargetGraph.Table.borderAt` — the offset of the border before a column.
* `TargetGraph.Table.Ruled` — what stands where in a line.
* `TargetGraph.Table.layout` — what the lines of a table show, from the first to the last.

## Main results

* `TargetGraph.Table.widths_eq` — the widths that are looked up are those of the columns.
* `TargetGraph.Table.ruled_ruledLine` — cells that are as wide as their columns make a ruled line.
* `TargetGraph.Table.render_layout` — every table is drawn as its layout says.

## Design

A line is drawn from the left to the right: a border, and then each cell with the border behind it.
For the offsets it is better read the other way: each cell with the border *before* it, and then one
more border (`cons_flatMap_append`). The cells up to a column then make up a text that is as long as
the offset of the border that follows (`length_stretch`).
-/

namespace TargetGraph.Table

variable {headers : List String} {rows : List (List String)} {width : Nat → Nat} {mark : Char}
  {content : Nat → List Char} {columns column : Nat}

/-! ### Widths -/

/-- The number of characters of the longest text in a column: of its header, and of the cells of all
rows that are long enough to have one. -/
def columnWidth (headers : List String) (rows : List (List String)) (column : Nat) : Nat :=
  ((headers :: rows).filterMap fun row => (row[column]?).map String.length).foldr max 0

/-- No text is longer than its column is wide.

**Proof sketch.** The text of a row that is long enough is among those of which the width is the
greatest length. A row that is too short shows an empty text. -/
theorem length_cell_le {row : List String} (h : row ∈ headers :: rows) :
    (cell row column).length ≤ columnWidth headers rows column := by
  unfold cell
  cases htext : row[column]? with
  | none => exact Nat.zero_le _
  | some text =>
    have hmem : text.length ∈
        (headers :: rows).filterMap fun row => (row[column]?).map String.length :=
      List.mem_filterMap.mpr ⟨row, h, by rw [htext]; rfl⟩
    exact List.le_max_of_le' 0 hmem (Nat.le_refl _)

/-- The running maximum over the rows takes in the cells that there are; those of rows that are too
short are empty and make no column wider.

**Proof sketch.** By induction on the rows, for any start. A row with a cell brings its length in on
both sides, and one without brings in zero on the left and nothing on the right. -/
theorem foldl_max_eq (rows : List (List String)) (column start : Nat) :
    rows.foldl (fun width row => max width (cell row column).length) start =
      max start ((rows.filterMap fun row => (row[column]?).map String.length).foldr max 0) := by
  induction rows generalizing start with
  | nil => simp
  | cons row rows ih =>
    rw [List.foldl_cons, ih, List.filterMap_cons, cell]
    cases row[column]? with
    | none => simp
    | some text => simp [max_assoc]

/-- **The widths that are looked up are those of the columns**, column by column
(`foldl_max_eq`). -/
theorem widths_eq (headers : List String) (rows : List (List String)) :
    widths headers rows = (List.range headers.length).map (columnWidth headers rows) := by
  apply List.ext_getElem
  · simp [widths]
  · intro column hleft hright
    have hcolumn : column < headers.length := by simpa [widths] using hleft
    simp only [widths, List.getElem_map, List.getElem_zipIdx, List.getElem_range, Nat.zero_add,
      foldl_max_eq, columnWidth, List.filterMap_cons, List.getElem?_eq_getElem hcolumn,
      Option.map_some, List.foldr_cons]

/-! ### Offsets -/

/-- The offset of the border before a column; for the number of columns, of the border behind the
last one. Each column takes up its width, two blanks and a border. -/
def borderAt (width : Nat → Nat) (column : Nat) : Nat :=
  ((List.range column).map fun c => width c + 3).sum

/-- The next border is behind the cell of a column, which has two blanks around its text. -/
theorem borderAt_succ (width : Nat → Nat) (column : Nat) :
    borderAt width (column + 1) = borderAt width column + 1 + (width column + 2) := by
  rw [borderAt, borderAt, List.range_succ, List.map_append, List.sum_append, List.map_singleton,
    List.sum_singleton]
  omega

/-- A line of a table: a border of the given kind before each column and behind the last one, and
the content of the columns between them. -/
structure Ruled (width : Nat → Nat) (columns : Nat) (mark : Char) (content : Nat → List Char)
    (drawn : List Char) : Prop where
  /-- One border, and what the columns take up. -/
  length_eq : drawn.length = 1 + ((List.range columns).map fun column => width column + 3).sum
  /-- Where the borders are. -/
  border : ∀ column ≤ columns, drawn[borderAt width column]? = some mark
  /-- What stands between a border and the next one. -/
  between : ∀ column < columns,
    drawn.extract (borderAt width column + 1) (borderAt width (column + 1)) = content column

/-- The columns before a column, each with the border before it. -/
def stretch (mark : Char) (content : Nat → List Char) (column : Nat) : List Char :=
  (List.range column).flatMap fun c => mark :: content c

/-- A line with the given borders and contents. -/
def ruledLine (mark : Char) (content : Nat → List Char) (columns : Nat) : List Char :=
  stretch mark content columns ++ [mark]

/-- Borders can be read as standing before the columns or behind them. -/
theorem cons_flatMap_append (mark : Char) (content : Nat → List Char) (cs : List Nat) :
    (mark :: cs.flatMap fun c => content c ++ [mark]) =
      (cs.flatMap fun c => mark :: content c) ++ [mark] := by
  induction cs with
  | nil => rfl
  | cons c cs ih =>
    rw [List.flatMap_cons, List.flatMap_cons, List.append_assoc, List.append_assoc, ← ih]
    rfl

/-- One more column. -/
theorem stretch_succ (mark : Char) (content : Nat → List Char) (column : Nat) :
    stretch mark content (column + 1) = stretch mark content column ++ mark :: content column := by
  rw [stretch, List.range_succ, List.flatMap_append, List.flatMap_singleton]
  rfl

/-- The columns before a column are as long as the offset of its border. -/
theorem length_stretch (h : ∀ c < column, (content c).length = width c + 2) :
    (stretch mark content column).length = borderAt width column := by
  rw [stretch, List.length_flatMap, borderAt]
  congr 1
  refine List.map_congr_left fun c hc => ?_
  rw [List.length_cons, h c (List.mem_range.mp hc)]

/-- A line can be cut before the border of any column.

**Proof sketch.** By induction on the columns behind it. One more column puts its content and one
border more behind the line, and so behind what was cut off. -/
theorem exists_ruledLine_eq (mark : Char) (content : Nat → List Char) (h : column ≤ columns) :
    ∃ rest, ruledLine mark content columns = stretch mark content column ++ mark :: rest := by
  induction columns, h using Nat.le_induction with
  | base => exact ⟨[], rfl⟩
  | succ columns hle ih =>
    obtain ⟨rest, hrest⟩ := ih
    refine ⟨rest ++ content columns ++ [mark], ?_⟩
    have hcut : ruledLine mark content (columns + 1) =
        ruledLine mark content columns ++ content columns ++ [mark] := by
      simp [ruledLine, stretch_succ]
    simp [hcut, hrest]

/-- **Contents that are as wide as their columns make a ruled line.**

**Proof sketch.** The columns before a border are as long as its offset (`length_stretch`), so the
border stands there when the line is cut before it (`exists_ruledLine_eq`). The content of a column
is what is left when the line is cut before its border and before the next one, and it is as long as
the two offsets are apart (`borderAt_succ`). -/
theorem ruled_ruledLine (h : ∀ c < columns, (content c).length = width c + 2) :
    Ruled width columns mark content (ruledLine mark content columns) := by
  have hlength : ∀ column ≤ columns,
      (stretch mark content column).length = borderAt width column := fun column hcolumn =>
    length_stretch fun c hc => h c (by omega)
  refine ⟨?_, fun column hcolumn => ?_, fun column hcolumn => ?_⟩
  · rw [ruledLine, List.length_append, hlength columns (Nat.le_refl _), Nat.add_comm]
    rfl
  · obtain ⟨rest, hrest⟩ := exists_ruledLine_eq mark content hcolumn
    rw [hrest, ← hlength column hcolumn, List.getElem?_append_right (Nat.le_refl _), Nat.sub_self]
    rfl
  · obtain ⟨rest, hrest⟩ := exists_ruledLine_eq mark content (Nat.succ_le_of_lt hcolumn)
    have hcut : ruledLine mark content columns =
        (stretch mark content column ++ [mark]) ++ (content column ++ mark :: rest) := by
      rw [hrest, stretch_succ]
      simp
    have hbefore : (stretch mark content column ++ [mark]).length = borderAt width column + 1 := by
      rw [List.length_append, hlength column (by omega)]
      rfl
    rw [List.extract_eq_take_drop, hcut, borderAt_succ, Nat.add_sub_cancel_left,
      List.drop_left' hbefore, List.take_left' (h column hcolumn)]

/-! ### Lines -/

/-- A stroke as wide as its column. -/
def stroke (width : Nat → Nat) (column : Nat) : List Char :=
  List.replicate (width column + 2) '-'

/-- The cell of a row in its column: a blank, the text, and blanks to fill the column and one
more. -/
def shown (width : Nat → Nat) (row : List String) (column : Nat) : List Char :=
  let text := (cell row column).toList
  ' ' :: text ++ List.replicate (width column - text.length) ' ' ++ [' ']

/-- What the lines of a table show, from the first to the last: the kind of the borders, and what
stands in each column. -/
def layout (width : Nat → Nat) (headers : List String) (rows : List (List String)) :
    List (Char × (Nat → List Char)) :=
  [('+', stroke width), ('|', shown width headers), ('+', stroke width)] ++
    rows.map (fun row => ('|', shown width row)) ++ [('+', stroke width)]

/-- Every line of a table shows strokes, or it shows the headers or a row. -/
theorem forall_mem_layout {P : Char × (Nat → List Char) → Prop} (hstroke : P ('+', stroke width))
    (hshown : ∀ row ∈ headers :: rows, P ('|', shown width row)) :
    ∀ entry ∈ layout width headers rows, P entry := by
  intro entry hentry
  obtain ⟨htitle, hbody⟩ := List.forall_mem_cons.mp hshown
  simp only [layout, List.mem_append, List.mem_cons, List.mem_map, List.not_mem_nil,
    or_false] at hentry
  rcases hentry with ((rfl | rfl | rfl) | ⟨row, hrow, rfl⟩) | rfl
  · exact hstroke
  · exact htitle
  · exact hstroke
  · exact hbody row hrow
  · exact hstroke

/-- A stroke fills its column. -/
theorem length_stroke (width : Nat → Nat) (column : Nat) :
    (stroke width column).length = width column + 2 :=
  List.length_replicate

/-- A cell fills its column, if the column is wide enough. -/
theorem length_shown {row : List String} (h : (cell row column).length ≤ width column) :
    (shown width row column).length = width column + 2 := by
  rw [← String.length_toList] at h
  simp only [shown, List.length_append, List.length_cons, List.length_replicate, List.length_nil]
  omega

/-- The line between two parts is drawn as a ruled line of strokes. -/
theorem rule_eq (width : Nat → Nat) (columns : Nat) :
    rule ((List.range columns).map width) =
      String.ofList (ruledLine '+' (stroke width) columns) := by
  rw [← String.toList_inj, String.toList_ofList, ruledLine, stretch, ← cons_flatMap_append]
  simp [rule, fill, stroke, String.toList_join, List.flatMap_map]

/-- Where every step of a run has a known result, the run has these. -/
theorem mapM_eq_some_map {α β : Type} {f : α → Option β} {g : α → β} {xs : List α}
    (h : ∀ x ∈ xs, f x = some (g x)) : xs.mapM f = some (xs.map g) := by
  induction xs with
  | nil => rfl
  | cons x xs ih =>
    obtain ⟨hx, hxs⟩ := List.forall_mem_cons.mp h
    rw [List.mapM_cons, hx, ih hxs]
    rfl

/-- The cells of a row, each with its column. -/
theorem zipIdx_cells (columns : Nat) (row : List String) :
    (cells columns row).zipIdx =
      (List.range columns).map fun column => (cell row column, column) := by
  apply List.ext_getElem
  · simp [cells]
  · intro column hleft hright
    simp [cells]

/-- A cell finds the width of its column, and is drawn with the border behind it. -/
theorem framed?_cell (width : Nat → Nat) (row : List String) (h : column < columns) :
    framed? ((List.range columns).map width) (cell row column) column =
      some (String.ofList (shown width row column ++ ['|'])) := by
  have hwidth : ((List.range columns).map width)[column]? = some (width column) := by
    rw [List.getElem?_map, List.getElem?_range h]
    rfl
  rw [framed?_eq_some hwidth]
  apply congrArg some
  rw [← String.toList_inj]
  simp [shown, fill, String.length_toList]

/-- The line of a row is drawn as a ruled line of its cells.

**Proof sketch.** Each cell finds the width of its column, and is drawn with the border behind it
(`framed?_cell`). Put together behind the first border, this is a ruled line
(`cons_flatMap_append`). -/
theorem line?_cells (width : Nat → Nat) (columns : Nat) (row : List String) :
    line? ((List.range columns).map width) (cells columns row) =
      some (String.ofList (ruledLine '|' (shown width row) columns)) := by
  have hparts : ((cells columns row).zipIdx.mapM fun placed =>
      framed? ((List.range columns).map width) placed.1 placed.2) =
        some ((List.range columns).map fun column =>
          String.ofList (shown width row column ++ ['|'])) := by
    rw [zipIdx_cells, List.mapM_map]
    exact mapM_eq_some_map fun column hcolumn =>
      framed?_cell width row (List.mem_range.mp hcolumn)
  rw [line?, hparts]
  apply congrArg some
  rw [← String.toList_inj, String.toList_ofList, ruledLine, stretch, ← cons_flatMap_append]
  simp [String.toList_join, List.flatMap_map]

/-- Headers are a row with a cell in each column. -/
theorem cells_self (headers : List String) : cells headers.length headers = headers := by
  apply List.ext_getElem
  · simp [cells]
  · intro column hleft hright
    simp [cells, cell, List.getElem?_eq_getElem hright]

/-- **The lines of a table are ruled lines**, one for each entry of its layout.

**Proof sketch.** The widths are those of the columns (`widths_eq`). The headers and the rows are
drawn by `line?_cells`, the headers as the row that they are (`cells_self`), and the lines between
by `rule_eq`. -/
theorem lines?_eq (headers : List String) (rows : List (List String)) :
    lines? headers rows = some ((layout (columnWidth headers rows) headers rows).map
      fun entry => String.ofList (ruledLine entry.1 entry.2 headers.length)) := by
  have hwidths := widths_eq headers rows
  generalize columnWidth headers rows = width at hwidths ⊢
  have htitle := line?_cells width headers.length headers
  rw [cells_self] at htitle
  have hbody : (rows.mapM fun row =>
      line? ((List.range headers.length).map width) (cells headers.length row)) =
        some (rows.map fun row =>
          String.ofList (ruledLine '|' (shown width row) headers.length)) :=
    mapM_eq_some_map fun row _ => line?_cells width headers.length row
  rw [lines?]
  simp only [hwidths, htitle, hbody, rule_eq]
  simp [layout]

/-! ### Newlines -/

/-- A ruled line has no newline, if its border is none and there is none in its columns.

**Proof sketch.** A character of the line is a border, or it stands in one of the columns. -/
theorem newline_not_mem_ruledLine (hmark : mark ≠ '\n')
    (hcontent : ∀ c < columns, '\n' ∉ content c) : '\n' ∉ ruledLine mark content columns := by
  intro hmem
  rw [ruledLine, stretch, List.mem_append, List.mem_flatMap, List.mem_singleton] at hmem
  rcases hmem with ⟨c, hc, hline⟩ | heq
  · rcases List.mem_cons.mp hline with heq | hmem
    · exact hmark heq.symm
    · exact hcontent c (List.mem_range.mp hc) hmem
  · exact hmark heq.symm

/-- There is no newline in what a table shows of a row, if there is none in the row. -/
theorem newline_not_mem_shown {row : List String} (h : ∀ text ∈ row, '\n' ∉ text.toList) :
    '\n' ∉ shown width row column := by
  have htext : '\n' ∉ (cell row column).toList := by
    unfold cell
    cases hcell : row[column]? with
    | none => exact List.not_mem_nil
    | some text => exact h text (List.mem_of_getElem? hcell)
  simp [shown, htext]

/-- No line of a table has a newline, if there is none in its texts. -/
theorem newline_not_mem_layout (h : ∀ row ∈ headers :: rows, ∀ text ∈ row, '\n' ∉ text.toList) :
    ∀ entry ∈ layout width headers rows, '\n' ∉ ruledLine entry.1 entry.2 columns := by
  have hplus : '+' ≠ '\n' := by decide
  have hbar : '|' ≠ '\n' := by decide
  apply forall_mem_layout
  · exact newline_not_mem_ruledLine hplus fun c _ => by simp [stroke]
  · intro row hrow
    exact newline_not_mem_ruledLine hbar fun c _ => newline_not_mem_shown (h row hrow)

/-! ### The drawn table -/

/-- Every entry of the layout of a table makes a ruled line. -/
theorem ruled_of_mem_layout (headers : List String) (rows : List (List String)) (columns : Nat) :
    let width := columnWidth headers rows
    ∀ entry ∈ layout width headers rows,
      Ruled width columns entry.1 entry.2 (ruledLine entry.1 entry.2 columns) := by
  intro width
  apply forall_mem_layout
  · exact ruled_ruledLine fun c _ => length_stroke width c
  · intro row hrow
    exact ruled_ruledLine fun c _ => length_shown (length_cell_le hrow)

/-- Cells without a header have no say in the widths of the columns. -/
theorem widths_map_take (headers : List String) (rows : List (List String)) :
    widths headers (rows.map (List.take headers.length)) = widths headers rows := by
  refine List.map_congr_left fun placed hplaced => ?_
  have hcolumn : placed.2 < headers.length := List.snd_lt_of_mem_zipIdx hplaced
  simp only [List.foldl_map, cell, List.getElem?_take_of_lt hcolumn]

/-- Cells without a header are not drawn. -/
theorem lines?_map_take (headers : List String) (rows : List (List String)) :
    lines? headers (rows.map (List.take headers.length)) = lines? headers rows := by
  have hcells : ∀ row : List String,
      cells headers.length (row.take headers.length) = cells headers.length row := by
    intro row
    refine List.map_congr_left fun column hcolumn => ?_
    rw [cell, cell, List.getElem?_take_of_lt (List.mem_range.mp hcolumn)]
  simp only [lines?, widths_map_take, List.mapM_map, Function.comp_def, hcells]

/-- A table is its lines with newlines between them. -/
theorem render_of_lines {lines : List String} (h : lines? headers rows = some lines) :
    render headers rows = "\n".intercalate lines := by
  simp only [render, h, Option.get_some]

/-- **The layout of every table** whose texts have no newline, however long its rows are. Every cell
that is drawn finds the width of its column. The text has four lines more than there are rows: a
stroke, the headers, a stroke, the rows, and a stroke. All lines are equally long, they have the
borders of a column at the same offset, and between the borders there is a stroke or a blank, the
text of the cell, the blanks that it is shorter than its column, and a blank. A column is as wide as
its longest text, and cells without a header neither appear nor make a column wider.

**Proof sketch.** The cells of a row that are drawn and the widths that are looked up both go over
the same columns (`widths_eq`, `line?_cells`), so that a line is a stretch of columns and one more
border. Contents are as wide as their columns (`length_shown`, `length_stroke`), which puts the
borders where they are (`ruled_ruledLine`). As no line has a newline, cutting the text at its
newlines yields the lines again. -/
theorem render_layout (headers : List String) (rows : List (List String))
    (h : ∀ row ∈ headers :: rows, ∀ text ∈ row, '\n' ∉ text.toList) :
    let width := columnWidth headers rows
    let cut := rows.map (List.take headers.length)
    ∃ lines, lines? headers rows = some lines ∧
      ((render headers rows).split '\n').toList.map (·.copy) = lines ∧
      lines.length = rows.length + 4 ∧
      List.Forall₂ (fun entry line => Ruled width headers.length entry.1 entry.2 line.toList)
        (layout width headers rows) lines ∧
      render headers cut = render headers rows ∧
      ∀ column < headers.length, columnWidth headers cut column = width column := by
  intro width cut
  have hlines := lines?_eq headers rows
  refine ⟨_, hlines, ?_, ?_, ?_, ?_, ?_⟩
  · -- cutting what was joined yields the lines, as none of them has a newline
    have hnewline : ∀ line ∈ (layout width headers rows).map fun entry =>
        String.ofList (ruledLine entry.1 entry.2 headers.length), '\n' ∉ line.toList := by
      intro line hline
      obtain ⟨entry, hentry, rfl⟩ := List.mem_map.mp hline
      rw [String.toList_ofList]
      exact newline_not_mem_layout h entry hentry
    have hsplit := String.toList_split_intercalate hnewline
    rw [if_neg (by simp [layout])] at hsplit
    rw [render_of_lines hlines]
    exact hsplit
  · simp [layout]
  · rw [List.forall₂_map_right_iff, List.forall₂_same]
    intro entry hentry
    rw [String.toList_ofList]
    exact ruled_of_mem_layout headers rows headers.length entry hentry
  · rw [render_of_lines hlines, render_of_lines ((lines?_map_take headers rows).trans hlines)]
  · have hwidths := widths_map_take headers rows
    rw [widths_eq, widths_eq, List.map_inj_left] at hwidths
    exact fun column hcolumn => hwidths column (List.mem_range.mpr hcolumn)

/-- A row may be longer than the headers, or have no cells at all. -/
theorem render_ragged :
    let headers := ["#", "Näme"]
    let rows := [["1", "a", "beyond"], []]
    (∀ row ∈ headers :: rows, ∀ text ∈ row, '\n' ∉ text.toList) ∧
      ((render headers rows).split '\n').toList.length = 6 ∧
      render headers [["1", "a"], []] = render headers rows := by
  intro headers rows
  have hnewline : ∀ row ∈ headers :: rows, ∀ text ∈ row, '\n' ∉ text.toList := by decide
  obtain ⟨lines, -, hsplit, hlength, -, hcut, -⟩ := render_layout headers rows hnewline
  refine ⟨hnewline, ?_, hcut⟩
  rw [← List.length_map, hsplit, hlength]
  rfl

end TargetGraph.Table
