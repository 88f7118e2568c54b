import TargetGraph.Closure.Walk
import TargetGraph.Snapshot

set_option relaxedAutoImplicit false
set_option autoImplicit false

/-!
# Closures of a snapshot

What a snapshot's targets and files reach. Each question may add to the memo of the snapshot and
changes nothing else. The collections of a snapshot have no order of their own, so a question is
answered along some traversal of them; `Snapshot.inOrder` is the one that is used.

## Main definitions

* `TargetGraph.Snapshot.Traversal` — an order in which the collections are gone through.
* `TargetGraph.Snapshot.closure`, `TargetGraph.Snapshot.fileClosure` — the external labels that a
  target or a file reaches.
* `TargetGraph.Snapshot.dependents` — the files that reach a label.
* `TargetGraph.Snapshot.prefetch` — the closures of all owners, in advance.
* `TargetGraph.Graph` — a snapshot with its memo.
-/

namespace TargetGraph

namespace Snapshot

/-- The snapshot's dependency relation. -/
def dependencies (s : Snapshot) : Dependencies :=
  Dependencies.ofMap s.deps

/-- An order in which the collections of a snapshot are gone through. -/
structure Traversal (s : Snapshot) where
  /-- The dependency relation, with the dependencies of each rule in this order. -/
  dependencies : Dependencies
  /-- The tracked files. -/
  files : List SourcePath
  /-- The rules that own some tracked file. -/
  owners : List Label
  /-- The relation is that of the snapshot. -/
  enumerates : dependencies.Enumerates s.deps
  /-- Every tracked file comes once. -/
  files_perm : files.Perm s.trackedFiles
  /-- Every owner comes once. -/
  owners_perm : owners.Perm s.fileOwners.toList

/-- Labels in label order, paths in path order. -/
def inOrder (s : Snapshot) : s.Traversal where
  dependencies := s.dependencies
  files := s.trackedFiles
  owners := s.fileOwners.toList
  enumerates := Dependencies.ofMap_enumerates s.deps
  files_perm := List.Perm.refl _
  owners_perm := List.Perm.refl _

namespace Traversal

variable {s : Snapshot}

/-- The external labels that `target` reaches. -/
def closure (o : s.Traversal) (target : Label) : StateM Memo LabelSet :=
  fun memo => memo.resolve o.dependencies s.external target

/-- The external labels that the file at `path` needs: those its owner reaches. -/
def fileClosure (o : s.Traversal) (path : SourcePath) : StateM Memo LabelSet :=
  match s.owner? path with
  | some owner => o.closure owner
  | none => pure ∅

/-- The tracked files that need `dependency`, in path order. -/
def dependents (o : s.Traversal) (dependency : Label) : StateM Memo (List SourcePath) := do
  let found ← o.files.filterM fun path => do
    let closure ← o.fileClosure path
    return closure.contains dependency
  return found.mergeSort fun a b => compare a b != .gt

/-- Works out the closure of every rule that owns a tracked file; the answer is how many there
are. -/
def prefetch (o : s.Traversal) : StateM Memo Nat := do
  o.owners.forM fun owner => discard (o.closure owner)
  return o.owners.length

end Traversal

/-- The external labels that `target` reaches. -/
def closure (s : Snapshot) (target : Label) : StateM Memo LabelSet :=
  s.inOrder.closure target

/-- The external labels that the file at `path` needs. -/
def fileClosure (s : Snapshot) (path : SourcePath) : StateM Memo LabelSet :=
  s.inOrder.fileClosure path

/-- The tracked files that need `dependency`, in path order. -/
def dependents (s : Snapshot) (dependency : Label) : StateM Memo (List SourcePath) :=
  s.inOrder.dependents dependency

/-- Works out the closure of every rule that owns a tracked file; the answer is how many there
are. -/
def prefetch (s : Snapshot) : StateM Memo Nat :=
  s.inOrder.prefetch

end Snapshot

/-- A snapshot with the closures known so far. -/
structure Graph where
  /-- The snapshot. -/
  snapshot : Snapshot
  /-- Its memo. -/
  memo : Memo := Memo.empty

namespace Graph

/-- The empty snapshot, with nothing known about it. -/
def empty : Graph := { snapshot := Snapshot.empty }

/-- The answer to a question, and the graph with the memo after it. -/
def ask {α : Type} (g : Graph) (question : Snapshot → StateM Memo α) : α × Graph :=
  let (answer, memo) := question g.snapshot g.memo
  (answer, { g with memo })

/-- How a graph is shown in a log: sizes only. -/
def described (g : Graph) : String :=
  let c := g.snapshot.counts
  "BuildGraph \x7b summary: GraphSummary \x7b source_files: " ++ toString c.sourceFiles ++
    ", source_targets: " ++ toString c.sourceTargets ++ ", rules: " ++ toString c.rules ++
    ", project_deps: " ++ toString c.external ++ ", android_targets: " ++ toString c.android ++
    " \x7d, cached_closures: " ++ toString g.memo.computed ++ " \x7d"

end Graph

end TargetGraph
