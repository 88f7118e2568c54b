import TargetGraph.SourcePath
import TargetGraph.Text.Digit

set_option relaxedAutoImplicit false
set_option autoImplicit false

/-!
# Locations

A location is a place in a source file, written `file:row:column` with the file relative to the
workspace. Colons inside the file's path belong to the path.

## Main definitions

* `TargetGraph.Location` — a file, a row and a column.
* `TargetGraph.Location.parse` — the location a text writes, or why it writes none.
* `TargetGraph.Location.text` — the written form.
-/

namespace TargetGraph

open Text

/-- A place in a source file. -/
structure Location where
  /-- The file, relative to the workspace root. -/
  file : SourcePath
  /-- The row, counted from one. -/
  row : Nat
  /-- The column, counted from one. -/
  column : Nat
  deriving Repr

/-- Why a text is no location. -/
inductive LocationFault where
  /-- The text does not have the form of a location. -/
  | malformed
  /-- The file's path is absolute. -/
  | absolute
  deriving DecidableEq, Repr

namespace Location

/-- Locations are the same when their files (by components), rows and columns are. -/
instance : BEq Location :=
  ⟨fun a b => a.file == b.file && a.row == b.row && a.column == b.column⟩

/-- The greatest row and column: they are numbers of 32 bits. -/
def maxPosition : Nat := 4294967295

/-- A row or column: ASCII digits whose value lies between one and `maxPosition`. -/
def position? (digits : List Char) : Option Nat :=
  match decimalValue? digits with
  | none => none
  | some n => if 1 ≤ n ∧ n ≤ maxPosition then some n else none

/-- A non-empty string of decimal digits of any script. -/
def isDigits (cs : List Char) : Bool :=
  !cs.isEmpty && cs.all isDecimalDigit

/-- The text cut into a path on one line and two digit strings, if it has that form. -/
def pattern? (cs : List Char) : Option (List Char × List Char × List Char) :=
  match cutAtLast ':' cs with
  | none => none
  | some (before, column) =>
    match cutAtLast ':' before with
    | none => none
    | some (file, row) =>
      if isDigits row && isDigits column && !file.contains '\n' then some (file, row, column)
      else none

/-- The location that `raw` writes. A path that is absolute is told apart before the row and the
column are looked at. -/
def parse (raw : String) : Except LocationFault Location :=
  match pattern? raw.toList with
  | none => .error .malformed
  | some (file, row, column) =>
    if file.isEmpty then .error .malformed
    else if file.head? = some '/' then .error .absolute
    else match position? row, position? column with
      | some row, some column => .ok ⟨⟨String.ofList file⟩, row, column⟩
      | _, _ => .error .malformed

/-- The written form, `file:row:column`. -/
def text (location : Location) : String :=
  location.file.text ++ ":" ++ toString location.row ++ ":" ++ toString location.column

end Location

end TargetGraph
