import TargetGraph.Snapshot

set_option relaxedAutoImplicit false
set_option autoImplicit false

/-!
# Selections of source files

Lists of a snapshot's source files by what owns them, in path order and each file once.

## Main definitions

* `TargetGraph.Selection` — which files are wanted.
* `TargetGraph.Snapshot.select` — the files.
-/

namespace TargetGraph

/-- Which source files are wanted. -/
inductive Selection where
  /-- Every tracked file. -/
  | all
  /-- The files that some rule lists as a source. -/
  | language
  /-- The files owned by an Android rule. -/
  | android
  /-- The files owned by a rule of exactly this kind. -/
  | ruleKind (kind : String)
  deriving DecidableEq, Repr

/-- The paths in path order, of those with the same components the first. -/
def sortPaths (paths : List SourcePath) : List SourcePath :=
  (Std.ExtTreeSet.ofList paths compare).toList

namespace Snapshot

/-- The files of a selection, as often as the snapshot lists them. -/
def selected (s : Snapshot) : Selection → List SourcePath
  | .all => s.trackedFiles
  | .language => s.languageFiles
  | .android => s.androidFiles
  | .ruleKind kind => s.filesOfKind fun k => k == kind

/-- The files of a selection, in path order, each once. -/
def select (s : Snapshot) (selection : Selection) : List SourcePath :=
  sortPaths (s.selected selection)

end Snapshot

end TargetGraph
