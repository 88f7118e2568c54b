set_option relaxedAutoImplicit false
set_option autoImplicit false

/-!
# Text tables

A table is drawn with a border of `+`, `-` and `|`. Each column is as wide as its widest cell, in
characters; a row that is too short is filled up with empty cells and one that is too long is cut.

## Main definitions

* `TargetGraph.Table.widths` — the widths of the columns.
* `TargetGraph.Table.framed?`, `TargetGraph.Table.line?` — a cell, which looks up the width of its
  column, and the line of a row.
* `TargetGraph.Table.lines?`, `TargetGraph.Table.render` — the drawn table.

## Main results

* `TargetGraph.Table.isSome_lines?` — no cell is without a column, so every table can be drawn.
-/

namespace TargetGraph.Table

/-- The cell of a row in a column, empty where the row is too short. -/
def cell (row : List String) (column : Nat) : String :=
  (row[column]?).getD ""

/-- The cells of a row in so many columns. -/
def cells (columns : Nat) (row : List String) : List String :=
  (List.range columns).map (cell row)

/-- The width of each column: that of its header or of its widest cell. -/
def widths (headers : List String) (rows : List (List String)) : List Nat :=
  headers.zipIdx.map fun (header, column) =>
    rows.foldl (fun width row => max width (cell row column).length) header.length

/-- A text of `count` equal characters. -/
def fill (c : Char) (count : Nat) : String :=
  String.ofList (List.replicate count c)

/-- The line between two parts of the table. -/
def rule (widths : List Nat) : String :=
  "+" ++ String.join (widths.map fun width => fill '-' (width + 2) ++ "+")

/-- The text of a cell filled up to the width of its column, and the border behind it; `none` if
there is no such column. -/
def framed? (widths : List Nat) (text : String) (column : Nat) : Option String := do
  let width ← widths[column]?
  return " " ++ text ++ fill ' ' (width - text.length) ++ " |"

/-- The line of some cells, `none` if there is one without a column. -/
def line? (widths : List Nat) (cells : List String) : Option String := do
  let parts ← cells.zipIdx.mapM fun placed => framed? widths placed.1 placed.2
  return "|" ++ String.join parts

/-- The lines of a table, `none` if there is a cell without a column. -/
def lines? (headers : List String) (rows : List (List String)) : Option (List String) := do
  let widths := widths headers rows
  let title ← line? widths headers
  let body ← rows.mapM fun row => line? widths (cells headers.length row)
  return [rule widths, title, rule widths] ++ body ++ [rule widths]

/-! ### No cell is without a column -/

/-- Where every step of a run has a result, the run has one. -/
theorem isSome_mapM {α β : Type} {f : α → Option β} :
    ∀ {xs : List α}, (∀ x ∈ xs, (f x).isSome) → (xs.mapM f).isSome
  | [], _ => rfl
  | x :: xs, h => by
    obtain ⟨y, hy⟩ := Option.isSome_iff_exists.mp (h x List.mem_cons_self)
    obtain ⟨ys, hys⟩ := Option.isSome_iff_exists.mp
      (isSome_mapM fun x' hx' => h x' (List.mem_cons_of_mem x hx'))
    rw [List.mapM_cons, hy, hys]
    rfl

/-- A cell is drawn in its column. -/
theorem framed?_eq_some {widths : List Nat} {column width : Nat} (h : widths[column]? = some width)
    (text : String) :
    framed? widths text column = some (" " ++ text ++ fill ' ' (width - text.length) ++ " |") := by
  rw [framed?, h]
  rfl

/-- No more cells than widths can be drawn. -/
theorem isSome_line? {widths : List Nat} {cells : List String}
    (h : cells.length ≤ widths.length) : (line? widths cells).isSome := by
  have hframed : ∀ placed ∈ cells.zipIdx, (framed? widths placed.1 placed.2).isSome := by
    intro placed hplaced
    have hcolumn : placed.2 < cells.length := List.snd_lt_of_mem_zipIdx hplaced
    rw [framed?_eq_some (List.getElem?_eq_getElem (Nat.lt_of_lt_of_le hcolumn h))]
    rfl
  obtain ⟨parts, hparts⟩ := Option.isSome_iff_exists.mp (isSome_mapM hframed)
  rw [line?, hparts]
  rfl

/-- There is a width for each header. -/
theorem length_widths (headers : List String) (rows : List (List String)) :
    (widths headers rows).length = headers.length := by
  rw [widths, List.length_map, List.length_zipIdx]

/-- There is a cell for each column. -/
theorem length_cells (columns : Nat) (row : List String) :
    (cells columns row).length = columns := by
  rw [cells, List.length_map, List.length_range]

/-- **Every table can be drawn.** -/
theorem isSome_lines? (headers : List String) (rows : List (List String)) :
    (lines? headers rows).isSome := by
  have hwidths := length_widths headers rows
  obtain ⟨title, htitle⟩ := Option.isSome_iff_exists.mp
    (isSome_line? (Nat.le_of_eq hwidths.symm))
  have hrow : ∀ row ∈ rows, (line? (widths headers rows) (cells headers.length row)).isSome := by
    intro row _
    apply isSome_line?
    exact Nat.le_of_eq ((length_cells headers.length row).trans hwidths.symm)
  obtain ⟨body, hbody⟩ := Option.isSome_iff_exists.mp (isSome_mapM hrow)
  rw [lines?]
  simp only [htitle, hbody]
  rfl

/-! ### The drawn table -/

/-- A table as one text, its lines with newlines between them. -/
def render (headers : List String) (rows : List (List String)) : String :=
  "\n".intercalate ((lines? headers rows).get (isSome_lines? headers rows))

end TargetGraph.Table
