import TargetGraph.Target

set_option relaxedAutoImplicit false
set_option autoImplicit false

/-!
# Snapshots

A snapshot is what one report of the build tool says about a workspace. It never changes; a later
report makes another one.

## Main definitions

* `TargetGraph.Snapshot` — the collections.
* `TargetGraph.Counts`, `TargetGraph.Snapshot.counts` — their sizes.
* `TargetGraph.Snapshot.owner?` — the rule that builds a file.
* `TargetGraph.Snapshot.languageFiles`, `TargetGraph.Snapshot.androidFiles`,
  `TargetGraph.Snapshot.filesOfKind` — the files of the listed sources, by what owns them.
-/

namespace TargetGraph

/-- What a report says about a workspace. -/
structure Snapshot where
  /-- The places of targets. -/
  locations : LabelMap Location := ∅
  /-- The targets that some rule lists as a source. -/
  sourceTargets : LabelSet := ∅
  /-- The target of each tracked source file. -/
  files : Std.ExtTreeMap SourcePath Label := ∅
  /-- The rule that owns each source target. -/
  owners : LabelMap Label := ∅
  /-- The dependencies of each enumerated rule. A label without an entry is a leaf; one with an
  empty set was enumerated and depends on nothing. -/
  deps : LabelMap LabelSet := ∅
  /-- The targets outside the project. -/
  external : LabelSet := ∅
  /-- The Android rules. -/
  android : LabelSet := ∅
  /-- The kind of each reported target. -/
  kinds : LabelMap String := ∅

/-- The sizes of a snapshot's collections, for reports to the user. -/
structure Counts where
  /-- Tracked source files. -/
  sourceFiles : Nat
  /-- Targets listed as a source. -/
  sourceTargets : Nat
  /-- Enumerated rules. -/
  rules : Nat
  /-- Targets outside the project. -/
  external : Nat
  /-- Android rules. -/
  android : Nat
  deriving DecidableEq, Repr

namespace Snapshot

/-- The snapshot of nothing. -/
def empty : Snapshot := {}

/-- The snapshot says nothing about any target, file or rule. -/
def isEmpty (s : Snapshot) : Bool :=
  s.locations.isEmpty && s.files.isEmpty && s.deps.isEmpty && s.external.isEmpty && s.kinds.isEmpty

/-- The sizes of the collections. -/
def counts (s : Snapshot) : Counts where
  sourceFiles := s.files.size
  sourceTargets := s.sourceTargets.size
  rules := s.deps.size
  external := s.external.size
  android := s.android.size

/-- The rule that builds the file at `path`, if the file is tracked and owned. -/
def owner? (s : Snapshot) (path : SourcePath) : Option Label :=
  match s.files[path]? with
  | none => none
  | some source => s.owners[source]?

/-- The tracked source files, in path order, as they were first written. -/
def trackedFiles (s : Snapshot) : List SourcePath :=
  s.files.keys

/-- The rules that own some tracked file. -/
def fileOwners (s : Snapshot) : LabelSet :=
  Std.ExtTreeSet.ofList (s.files.values.filterMap fun source => s.owners[source]?) compare

/-- The files of the listed sources that satisfy `p`, one for each source that has a place. -/
def filesWhere (s : Snapshot) (p : Label → Bool) : List SourcePath :=
  (s.sourceTargets.toList.filter p).filterMap fun source => s.locations[source]?.map Location.file

/-- The files of all listed sources. -/
def languageFiles (s : Snapshot) : List SourcePath :=
  s.filesWhere fun _ => true

/-- The files of the listed sources whose owner is an Android rule. -/
def androidFiles (s : Snapshot) : List SourcePath :=
  s.filesWhere fun source => (s.owners[source]?).any s.android.contains

/-- The files of the listed sources whose owner has a kind that satisfies `p`. -/
def filesOfKind (s : Snapshot) (p : String → Bool) : List SourcePath :=
  s.filesWhere fun source => ((s.owners[source]?).bind fun owner => s.kinds[owner]?).any p

end Snapshot

end TargetGraph
