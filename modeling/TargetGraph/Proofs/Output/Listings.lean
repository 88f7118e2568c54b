import TargetGraph.Proofs.Output.Report
import TargetGraph.Selection

set_option relaxedAutoImplicit false
set_option autoImplicit false

/-!
# Listings and owners

A file has an owner by way of its path, and is listed by way of its label. The two ways meet: in the
snapshot of a query output a file is listed where its owner says so.

## Main definitions

* `TargetGraph.Snapshot.PlacedAt`, `TargetGraph.Snapshot.Lists` — where a target is, and what a
  selection has, by the components of paths.
* `TargetGraph.Snapshot.Consistent` — the collections that are looked up by path agree with those
  that are gone through by label.

## Main results

* `TargetGraph.Snapshot.Consistent.contains_filesWhere_iff`,
  `TargetGraph.Snapshot.Consistent.pairwise_filesWhere` — which files are gone through, and that
  none of them comes twice.
* `TargetGraph.Snapshot.listings_agree_with_owners` — all selections of the snapshot of a query
  output.
-/

namespace TargetGraph

instance : Std.LawfulBEqOrd SourcePath where
  compare_eq_iff_beq := SourcePath.beq_iff.symm

/-! ### Sorted paths -/

section Sorting

variable {paths : List SourcePath} {path : SourcePath}

/-- Sorting keeps which paths there are. -/
theorem contains_sortPaths : (sortPaths paths).contains path = paths.contains path := by
  rw [sortPaths, Std.ExtTreeSet.contains_toList, Std.ExtTreeSet.contains_ofList]

/-- Sorted paths are strictly increasing. -/
theorem pairwise_lt_sortPaths : (sortPaths paths).Pairwise fun a b => compare a b = .lt :=
  Std.ExtTreeSet.ordered_toList

end Sorting

namespace Snapshot

variable {s : Snapshot} {path : SourcePath} {source source' : Label} {selection : Selection}

/-- The target has a place in the file at this path. -/
def PlacedAt (s : Snapshot) (source : Label) (path : SourcePath) : Prop :=
  ∃ place : Location, s.locations[source]? = some place ∧ (place.file == path) = true

/-- The selection has a path with these components. -/
def Lists (s : Snapshot) (selection : Selection) (path : SourcePath) : Prop :=
  (s.select selection).contains path = true

/-- A selection has the paths that are gone through for it. -/
theorem lists_iff : s.Lists selection path ↔ (s.selected selection).contains path = true := by
  rw [Lists, select, contains_sortPaths]

/-- What is looked up by path agrees with what is gone through by label. -/
structure Consistent (s : Snapshot) : Prop where
  /-- A file is tracked for the target that has its place there. -/
  files : ∀ path source, s.files[path]? = some source ↔ s.PlacedAt source path
  /-- The listed sources are the targets that have an owner. -/
  sourceTargets : ∀ source, source ∈ s.sourceTargets ↔ ∃ owner, s.owners[source]? = some owner
  /-- The Android rules are the targets that have an Android kind. -/
  android : ∀ rule, rule ∈ s.android ↔
    ∃ kind, s.kinds[rule]? = some kind ∧ isAndroidKind kind = true

/-! ### Files and places -/

/-- A file that has an owner is tracked. -/
theorem mem_files_of_owner? {owner : Label} (h : s.owner? path = some owner) : path ∈ s.files := by
  obtain ⟨source, hfile, _⟩ := owner?_eq_some_iff.mp h
  rw [Std.ExtTreeMap.mem_iff_isSome_getElem?, hfile]
  rfl

namespace Consistent

/-- No two targets have a place in one file: the file is tracked for both, and it is tracked for
one. -/
theorem eq_of_placedAt (h : s.Consistent) (hplaced : s.PlacedAt source path)
    (hplaced' : s.PlacedAt source' path) : source = source' := by
  rw [← h.files] at hplaced hplaced'
  exact Option.some.inj (hplaced.symm.trans hplaced')

/-- A file is tracked when exactly one target has its place there.

**Proof sketch.** The target that a tracked file leads to has its place there, and there is no other
one, since a file leads to one target only (`eq_of_placedAt`). -/
theorem mem_files_iff (h : s.Consistent) : path ∈ s.files ↔ ∃! source, s.PlacedAt source path := by
  rw [Std.ExtTreeMap.mem_iff_isSome_getElem?, Option.isSome_iff_exists]
  simp only [h.files]
  constructor
  · rintro ⟨source, hplaced⟩
    exact ⟨source, hplaced, fun _ hother => h.eq_of_placedAt hother hplaced⟩
  · rintro ⟨source, hplaced, _⟩
    exact ⟨source, hplaced⟩

/-! ### Files gone through by label -/

variable {p : Label → Bool}

/-- A file is gone through when it is tracked for a listed source that satisfies the condition.

**Proof sketch.** What is gone through are the files of the places of listed sources. A listed
source is one that has an owner, and a source with its place in a file is one that the file is
tracked for; both by `Consistent`. -/
theorem contains_filesWhere_iff (h : s.Consistent) : (s.filesWhere p).contains path = true ↔
    ∃ source owner, s.files[path]? = some source ∧ s.owners[source]? = some owner ∧
      p source = true := by
  simp only [filesWhere, List.contains_iff_exists_mem_beq, List.mem_filterMap, List.mem_filter,
    Std.ExtTreeSet.mem_toList, h.sourceTargets, h.files, PlacedAt, Option.map_eq_some_iff]
  constructor
  · rintro ⟨_, ⟨source, ⟨⟨owner, howner⟩, hp⟩, place, hplace, rfl⟩, hsame⟩
    exact ⟨source, owner, ⟨place, hplace, BEq.symm hsame⟩, howner, hp⟩
  · rintro ⟨source, owner, ⟨place, hplace, hsame⟩, howner, hp⟩
    exact ⟨place.file, ⟨source, ⟨⟨owner, howner⟩, hp⟩, place, hplace, rfl⟩, BEq.symm hsame⟩

/-- No file is gone through twice: its components would be those of the places of two targets.

**Proof sketch.** The labels in a set are distinct, so two entries of the list come from two
targets. Were their files the same, both targets would be placed in one file, against
`eq_of_placedAt`. -/
theorem pairwise_filesWhere (h : s.Consistent) :
    (s.filesWhere p).Pairwise fun a b => (a == b) = false := by
  rw [filesWhere, List.pairwise_filterMap]
  refine (Std.ExtTreeSet.distinct_toList.filter p).imp fun {source source'} hdistinct file hfile
    file' hfile' => ?_
  obtain ⟨place, hplace, rfl⟩ := Option.map_eq_some_iff.mp hfile
  obtain ⟨place', hplace', rfl⟩ := Option.map_eq_some_iff.mp hfile'
  by_contra hsame
  rw [Bool.not_eq_false] at hsame
  refine hdistinct (Std.LawfulEqCmp.compare_eq_iff_eq.mpr ?_)
  exact h.eq_of_placedAt ⟨place, hplace, hsame⟩ ⟨place', hplace', BEq.rfl⟩

/-- **No selection goes through a file twice**: the tracked files are the keys of a map, and the
other selections are cases of `pairwise_filesWhere`. -/
theorem pairwise_selected (h : s.Consistent) (selection : Selection) :
    (s.selected selection).Pairwise fun a b => (a == b) = false := by
  cases selection with
  | all =>
    refine Std.ExtTreeMap.distinct_keys.imp fun {a b} hdistinct => ?_
    rwa [← Bool.not_eq_true, SourcePath.beq_iff]
  | language => exact h.pairwise_filesWhere
  | android => exact h.pairwise_filesWhere
  | ruleKind kind => exact h.pairwise_filesWhere

/-! ### Selections -/

/-- All files are those that are tracked. -/
theorem lists_all_iff : s.Lists .all path ↔ path ∈ s.files := by
  rw [lists_iff, selected, trackedFiles, Std.ExtTreeMap.contains_keys,
    Std.ExtTreeMap.contains_iff_mem]

/-- The files of the language are those that have an owner: `contains_filesWhere_iff` with no
condition. -/
theorem lists_language_iff (h : s.Consistent) :
    s.Lists .language path ↔ ∃ owner, s.owner? path = some owner := by
  simp only [lists_iff, selected, languageFiles, h.contains_filesWhere_iff,
    owner?_eq_some_iff, and_true]
  exact exists_comm

/-- The files of a kind are those whose owner is of this kind.

**Proof sketch.** By `contains_filesWhere_iff` the condition is asked of the source that the file is
tracked for; it looks up the owner of that source, which is the owner of the file. -/
theorem lists_ruleKind_iff (h : s.Consistent) {kind : String} : s.Lists (.ruleKind kind) path ↔
    ∃ owner, s.owner? path = some owner ∧ s.kinds[owner]? = some kind := by
  simp only [lists_iff, selected, filesOfKind, h.contains_filesWhere_iff,
    owner?_eq_some_iff, Option.any_eq_true, Option.bind_eq_some_iff, beq_iff_eq]
  constructor
  · rintro ⟨source, _, hfile, _, _, ⟨owner, howner, hkind⟩, rfl⟩
    exact ⟨owner, ⟨source, hfile, howner⟩, hkind⟩
  · rintro ⟨owner, ⟨source, hfile, howner⟩, hkind⟩
    exact ⟨source, owner, hfile, howner, kind, ⟨owner, howner, hkind⟩, rfl⟩

/-- The Android files are those whose owner is of an Android kind, as in `lists_ruleKind_iff`; that
the owner is an Android rule is a matter of its kind, by `Consistent`. -/
theorem lists_android_iff (h : s.Consistent) : s.Lists .android path ↔
    ∃ owner kind, s.owner? path = some owner ∧ s.kinds[owner]? = some kind ∧
      isAndroidKind kind = true := by
  simp only [lists_iff, selected, androidFiles, h.contains_filesWhere_iff,
    owner?_eq_some_iff, Option.any_eq_true, Std.ExtTreeSet.contains_iff_mem, h.android]
  constructor
  · rintro ⟨source, _, hfile, _, owner, howner, kind, hkind⟩
    exact ⟨owner, kind, ⟨source, hfile, howner⟩, hkind⟩
  · rintro ⟨owner, kind, ⟨source, hfile, howner⟩, hkind⟩
    exact ⟨source, owner, hfile, howner, owner, howner, kind, hkind⟩

end Consistent

/-! ### The listings of a query output -/

/-- The snapshot of a query output is consistent: it is the union of the targets of its messages. -/
theorem consistent_of_ofOutput {v : Vocabulary} {bytes : List UInt8}
    (h : Snapshot.ofOutput v bytes = .ok s) : s.Consistent := by
  obtain ⟨messages, c, _, hreads, htargets⟩ := exists_contents_of_ofOutput h
  have hunion := unionOf_of_ofTargets htargets
  exact {
    files := (hunion.reflects hreads).placed
    sourceTargets := fun _ => hunion.mem_sourceTargets_iff
    android := fun _ => hunion.mem_android_iff }

/-- **The listings of a query output agree with its owners**, where paths are compared by their
components. A tracked file has exactly one target placed in it, the one that it is tracked for, and
two targets are never placed in one file. The language lists the files that have an owner; a kind,
those whose owner is of this kind; Android, those whose owner is of an Android kind. So the last two
list no file that the language does not, and the language none that is not tracked. Every owner is
an enumerated rule of a kind that carries sources. All selections are strictly increasing, and have
no file twice even before they are sorted.

**Proof sketch.** In the union of the targets of the messages, a file is tracked for what has its
place there, the listed sources are what has an owner, and the Android rules are what has an Android
kind (`consistent_of_ofOutput`). So whatever is said of a listed source in a file is said of the one
target that the file is tracked for, and of its owner (`contains_filesWhere_iff`). -/
theorem listings_agree_with_owners (v : Vocabulary) (bytes : List UInt8) (s : Snapshot)
    (h : Snapshot.ofOutput v bytes = .ok s) :
    (∀ path, path ∈ s.files ↔ ∃! source, s.PlacedAt source path) ∧
    (∀ (path : SourcePath) source, s.files[path]? = some source ↔ s.PlacedAt source path) ∧
    (∀ source source', source ≠ source' →
      ∀ path, s.PlacedAt source path → ¬s.PlacedAt source' path) ∧
    (∀ path,
      (s.Lists .all path ↔ path ∈ s.files) ∧
      (s.Lists .language path ↔ path ∈ s.files ∧ ∃ owner, s.owner? path = some owner) ∧
      (∀ kind, s.Lists (.ruleKind kind) path ↔
        ∃ owner, s.owner? path = some owner ∧ s.kinds[owner]? = some kind) ∧
      (s.Lists .android path ↔ ∃ owner kind, s.owner? path = some owner ∧
        s.kinds[owner]? = some kind ∧ isAndroidKind kind = true)) ∧
    (∀ path,
      (s.Lists .android path → s.Lists .language path) ∧
      (∀ kind, s.Lists (.ruleKind kind) path → s.Lists .language path) ∧
      (s.Lists .language path → s.Lists .all path)) ∧
    (∀ source owner : Label, s.owners[source]? = some owner → owner ∈ s.deps ∧
      ∃ kind, s.kinds[owner]? = some kind ∧ v.isSourceKind kind = true) ∧
    ∀ selection,
      (s.select selection).Pairwise (fun a b => compare a b = .lt) ∧
      (s.selected selection).Pairwise (fun a b => (a == b) = false) := by
  have hconsistent := consistent_of_ofOutput h
  obtain ⟨_, _, hreflects⟩ := exists_reflects_of_ofOutput h
  refine ⟨fun path => hconsistent.mem_files_iff, hconsistent.files, ?_, fun path => ?_,
    fun path => ?_, hreflects.owner, fun selection => ?_⟩
  · intro source source' hne path hplaced hplaced'
    exact hne (hconsistent.eq_of_placedAt hplaced hplaced')
  · refine ⟨Consistent.lists_all_iff, ?_, fun kind => hconsistent.lists_ruleKind_iff,
      hconsistent.lists_android_iff⟩
    rw [hconsistent.lists_language_iff]
    exact (and_iff_right_of_imp fun ⟨_, howner⟩ => mem_files_of_owner? howner).symm
  · -- a listing that asks for an owner of some kind asks for an owner
    rw [hconsistent.lists_android_iff, hconsistent.lists_language_iff, Consistent.lists_all_iff]
    refine ⟨?_, fun kind => ?_, ?_⟩
    · rintro ⟨owner, _, howner, _⟩
      exact ⟨owner, howner⟩
    · rw [hconsistent.lists_ruleKind_iff]
      rintro ⟨owner, howner, _⟩
      exact ⟨owner, howner⟩
    · rintro ⟨_, howner⟩
      exact mem_files_of_owner? howner
  · exact ⟨pairwise_lt_sortPaths, hconsistent.pairwise_selected selection⟩

/-- An Android rule with a source, a plain rule with another one, and a file that no rule lists. -/
def assorted : List UInt8 :=
  Text.utf8 <|
    "\x7b\"type\":\"RULE\",\"rule\":\x7b\"name\":\"//a:ui\",\"ruleClass\":\"android_library\"," ++
      "\"attribute\":[\x7b\"name\":\"srcs\",\"stringListValue\":[\"//a:Ui.kt\"]\x7d]\x7d\x7d" ++
    "\x7b\"type\":\"RULE\",\"rule\":\x7b\"name\":\"//a:core\",\"ruleClass\":\"java_library\"," ++
      "\"attribute\":[\x7b\"name\":\"srcs\",\"stringListValue\":[\"//a:Core.java\"]\x7d]\x7d\x7d" ++
    "\x7b\"type\":\"SOURCE_FILE\",\"sourceFile\":\x7b\"name\":\"//a:Ui.kt\"," ++
      "\"location\":\"a/Ui.kt:1:1\"\x7d\x7d" ++
    "\x7b\"type\":\"SOURCE_FILE\",\"sourceFile\":\x7b\"name\":\"//a:Core.java\"," ++
      "\"location\":\"a/Core.java:1:1\"\x7d\x7d" ++
    "\x7b\"type\":\"SOURCE_FILE\",\"sourceFile\":\x7b\"name\":\"//a:NOTES\"," ++
      "\"location\":\"a/NOTES:1:1\"\x7d\x7d"

/-- The three files are all listed: one for Android, one for the language only, and one for neither.
A path in another spelling is listed as well. -/
theorem lists_assorted : ∃ s, Snapshot.ofOutput {} assorted = .ok s ∧
    s.Lists .android ⟨"a//Ui.kt"⟩ ∧ s.Lists (.ruleKind "java_library") ⟨"a/Core.java"⟩ ∧
    ¬s.Lists .android ⟨"a/Core.java"⟩ ∧ s.Lists .all ⟨"a/NOTES"⟩ ∧
    ¬s.Lists .language ⟨"a/NOTES"⟩ := by
  have hmade : (Snapshot.ofOutput {} assorted).toOption.any (fun s =>
      s.owner? ⟨"a//Ui.kt"⟩ = some ⟨"//a:ui"⟩ ∧
      s.kinds[(⟨"//a:ui"⟩ : Label)]? = some "android_library" ∧
      s.owner? ⟨"a/Core.java"⟩ = some ⟨"//a:core"⟩ ∧
      s.kinds[(⟨"//a:core"⟩ : Label)]? = some "java_library" ∧
      s.files.contains ⟨"a/NOTES"⟩ = true ∧ s.owner? ⟨"a/NOTES"⟩ = none) = true := by
    decide +kernel
  cases hs : Snapshot.ofOutput {} assorted with
  | error e =>
    rw [hs] at hmade
    cases hmade
  | ok s =>
    rw [hs] at hmade
    obtain ⟨hui, huiKind, hcore, hcoreKind, hnotes, hfree⟩ := of_decide_eq_true hmade
    obtain ⟨_, _, _, hlists, _⟩ := listings_agree_with_owners {} assorted s hs
    refine ⟨s, rfl, (hlists _).2.2.2.mpr ⟨_, _, hui, huiKind, by decide⟩,
      ((hlists _).2.2.1 _).mpr ⟨_, hcore, hcoreKind⟩, fun hlisted => ?_,
      (hlists _).1.mpr hnotes, fun hlisted => ?_⟩
    · obtain ⟨owner, kind, howner, hkind, handroid⟩ := (hlists _).2.2.2.mp hlisted
      obtain rfl := Option.some.inj (hcore.symm.trans howner)
      obtain rfl := Option.some.inj (hcoreKind.symm.trans hkind)
      exact absurd handroid (by decide)
    · obtain ⟨_, _, howner⟩ := (hlists _).2.1.mp hlisted
      rw [hfree] at howner
      cases howner

end Snapshot

end TargetGraph
