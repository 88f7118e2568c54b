set_option relaxedAutoImplicit false
set_option autoImplicit false

/-!
# TOML values and tables

A TOML document builds one table, line by line. Headers and dotted keys open tables on the way; what
may be opened again depends on how it was opened first.

## Main definitions

* `TargetGraph.Toml.Value` — the values that matter here; numbers and times are told apart only from
  the others.
* `TargetGraph.Toml.Node` — a table in the making, with how each part of it came about.
* `TargetGraph.Toml.assign`, `TargetGraph.Toml.openTable`, `TargetGraph.Toml.openRow` — what a key,
  a `[header]` and a `[[header]]` do to a document.
* `TargetGraph.Toml.finished` — the finished table.
-/

namespace TargetGraph.Toml

/-- A value. -/
inductive Value where
  /-- A text. -/
  | text (value : String)
  /-- A truth value. -/
  | bool (value : Bool)
  /-- A number. -/
  | number
  /-- A date, a time or both. -/
  | time
  /-- An array. -/
  | array (items : List Value)
  /-- A table. -/
  | table (entries : List (String × Value))

/-- How a table came about. -/
inductive Origin where
  /-- It was on the way to the table of a header. -/
  | implied
  /-- It was on the way to a dotted key. -/
  | dotted
  /-- It has a header, or is the document. -/
  | header
  deriving DecidableEq

/-- A part of a document in the making. -/
inductive Node where
  /-- A value behind a key. -/
  | value (value : Value)
  /-- A table. -/
  | table (origin : Origin) (entries : List (String × Node))
  /-- An array of tables that have a header each, last first. -/
  | rows (rows : List (List (String × Node)))

/-- The entries of a table in the making. -/
abbrev Entries := List (String × Node)

/-- The part behind a key. -/
def Entries.part? (entries : Entries) (key : String) : Option Node :=
  entries.lookup key

/-- The entries with another part behind a key that is there. -/
def Entries.withPart (entries : Entries) (key : String) (part : Node) : Entries :=
  List.map (fun entry => if entry.1 == key then (key, part) else entry) entries

/-- A change of a table: its origin and entries, or a refusal. -/
abbrev Change := Origin → Entries → Option (Origin × Entries)

/-- The table with `change` made at the end of a path of keys. Tables that are missing on the way
are made, with `origin`. A dotted key may not lead through a table that has a header; no path leads
through a value; an array of tables is entered at its last one. -/
def alter (origin : Origin) (change : Change) : List String → Change
  | [] => change
  | key :: path => fun here entries =>
    match Entries.part? entries key with
    | none => do
      let (made, inner) ← alter origin change path origin []
      return (here, entries ++ [(key, .table made inner)])
    | some (.value _) => none
    | some (.table there inner) =>
      if origin = .dotted ∧ there = .header then none
      else do
        let (there, inner) ← alter origin change path there inner
        return (here, Entries.withPart entries key (.table there inner))
    | some (.rows []) => none
    | some (.rows (row :: others)) => do
      let (_, row) ← alter origin change path .header row
      return (here, Entries.withPart entries key (.rows (row :: others)))

/-- A key gets its value in the table that its dotted path leads to. The key must be new there, and
a path may only lead to tables made by such paths. -/
def assign (path : List String) (key : String) (value : Value) : Change :=
  alter .dotted
    (fun here entries =>
      if decide (here = .dotted) == path.isEmpty then none
      else match Entries.part? entries key with
        | none => some (here, entries ++ [(key, .value value)])
        | some _ => none)
    path

/-- A `[header]`: the table must be new, or have been on the way to other headers only. -/
def openTable (path : List String) (key : String) : Change :=
  alter .implied
    (fun here entries =>
      match Entries.part? entries key with
      | none => some (here, entries ++ [(key, .table .header [])])
      | some (.table .implied inner) =>
        some (here, Entries.withPart entries key (.table .header inner))
      | some _ => none)
    path

/-- A `[[header]]`: one more table at the end of an array of tables. -/
def openRow (path : List String) (key : String) : Change :=
  alter .implied
    (fun here entries =>
      match Entries.part? entries key with
      | none => some (here, entries ++ [(key, .rows [[]])])
      | some (.rows rows) => some (here, Entries.withPart entries key (.rows ([] :: rows)))
      | some _ => none)
    path

mutual

/-- The value that a part of a document is in the end. -/
def Node.finished : Node → Value
  | .value value => value
  | .table _ entries => .table (finishedEntries entries)
  | .rows rows => .array (finishedRows rows).reverse

/-- The entries of a finished table. -/
def finishedEntries : List (String × Node) → List (String × Value)
  | [] => []
  | (key, node) :: rest => (key, node.finished) :: finishedEntries rest

/-- The tables of a finished array of tables, in the order given. -/
def finishedRows : List (List (String × Node)) → List Value
  | [] => []
  | row :: rest => .table (finishedEntries row) :: finishedRows rest

end

end TargetGraph.Toml
