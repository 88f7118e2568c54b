import TargetGraph.Command.Execute
import TargetGraph.Proofs.Closure.Files
import TargetGraph.Proofs.SourcePath

set_option relaxedAutoImplicit false
set_option autoImplicit false

/-!
# Which file is asked about

A file of the command line is looked up in the snapshot under a *key*: the answers that are printed
are those of the snapshot for the key (`Workspace.LooksUp`).  Keys are compared by components.

The key of a file that begins with the components of the workspace's root is what is left behind
them, and any other file is its own key.  That is as it should be for an absolute root, where a
relative file is its own key, and an absolute one below the root has the relative key.  A relative
root is taken off relative files as well.  So a file of the workspace that happens to begin with the
components of such a root is not found under its own name.

## Main definitions

* `TargetGraph.Workspace.LooksUp` — a file is looked up under a key.

## Main results

* `TargetGraph.Workspace.looksUp_iff` — the key of a file.
* `TargetGraph.Workspace.looksUp_spellings` — which spellings of a file have the key that they say,
  and which keys are reached.
-/

namespace TargetGraph

variable {w : Workspace} {file key path other : SourcePath} {s : Snapshot}

/-- Paths with the same components are the same. -/
theorem SourcePath.beq_of_components (h : path.components = other.components) :
    (path == other) = true :=
  SourcePath.beq_iff.mpr (SourcePath.compare_eq_iff.mpr h)

/-- Paths that are the same need the same. -/
theorem Snapshot.fileClosure_congr (h : (path == other) = true) :
    s.fileClosure path = s.fileClosure other := by
  rw [fileClosure, fileClosure, Traversal.fileClosure, Traversal.fileClosure, owner?_congr h]

namespace Workspace

/-! ### Keys -/

/-- A file of the command line is looked up under a key: whatever the snapshot, what is known about
it and the format, the answers about the file are those of the snapshot for the key, which is also
what is shown of the file. -/
structure LooksUp (w : Workspace) (file key : SourcePath) : Prop where
  /-- The owner of the file is that of the key. -/
  owner : ∀ (s : Snapshot) (m : Memo) (format : Format), ∃ shown : SourcePath,
    shown.components = key.components ∧
    (ReadyQuestion.owner file).answer w format s m = (printOwner shown (s.owner? key) format, m)
  /-- The file needs what the key needs. -/
  deps : ∀ (s : Snapshot) (m : Memo) (format : Format),
    (ReadyQuestion.deps file).answer w format s m =
      (printList "Label" ((s.fileClosure key m).1.toList.map Label.text) format,
        (s.fileClosure key m).2)

/-- A snapshot with one file, which is owned. -/
def oneOwned (key : SourcePath) : Snapshot where
  files := (∅ : Std.ExtTreeMap SourcePath Label).insert key ⟨"//a:A"⟩
  owners := (∅ : LabelMap Label).insert ⟨"//a:A"⟩ ⟨"//a:a"⟩

/-- The file is owned under the key that it is tracked under. -/
theorem owner?_oneOwned_self (key : SourcePath) : (oneOwned key).owner? key = some ⟨"//a:a"⟩ := by
  rw [Snapshot.owner?, oneOwned, Std.ExtTreeMap.getElem?_insert_self]
  exact Std.ExtTreeMap.getElem?_insert_self

/-- No other file is owned. -/
theorem owner?_oneOwned_of_ne (h : path.components ≠ key.components) :
    (oneOwned key).owner? path = none := by
  have hne : compare key path ≠ .eq := fun heq => h (SourcePath.compare_eq_iff.mp heq).symm
  rw [Snapshot.owner?, oneOwned, Std.ExtTreeMap.getElem?_insert, if_neg hne,
    Std.ExtTreeMap.getElem?_empty]

/-- A file is looked up under what is left of it below the root, or under itself if it is not below.

**Proof sketch.** The answers ask for the relative file, and paths with the same components have the
same owner and need the same. For the other direction, a snapshot whose only file is the key
(`oneOwned`) has an owner for the key and for nothing else, so answers that agree there are about
the key. -/
theorem looksUp_iff : w.LooksUp file key ↔ (w.relative file).components = key.components := by
  constructor
  · intro hlooks
    by_contra hne
    obtain ⟨shown, -, hanswer⟩ := hlooks.owner (oneOwned key) Memo.empty .text
    have hprinted : printOwner (w.relative file) none .text =
        printOwner shown (some ⟨"//a:a"⟩) .text := by
      rw [← owner?_oneOwned_of_ne hne, ← owner?_oneOwned_self key]
      exact congrArg Prod.fst hanswer
    exact absurd (show "<no owning target>" = "//a:a" from hprinted) (by decide)
  · intro hcomponents
    have hsame := SourcePath.beq_of_components hcomponents
    refine ⟨fun s m format => ⟨w.relative file, hcomponents, ?_⟩, fun s m format => ?_⟩
    · rw [← Snapshot.owner?_congr hsame]
      rfl
    · rw [← Snapshot.fileClosure_congr hsame]
      rfl

/-- A file that does not begin with the components of the root is its own key. -/
theorem relative_of_not_below (h : ¬w.root.components <+: file.components) :
    w.relative file = file := by
  rw [relative, SourcePath.below?_eq_none_iff.mpr h, Option.getD_none]

/-- The root is taken off a file that begins with its components. -/
theorem below?_eq_relative (h : w.root.components <+: file.components) :
    w.root.below? file = some (w.relative file) := by
  cases hbelow : w.root.below? file with
  | none => exact absurd h (SourcePath.below?_eq_none_iff.mp hbelow)
  | some rest => rw [relative, hbelow, Option.getD_some]

/-- What is left of a file that begins with the components of the root. -/
theorem components_relative (h : w.root.components <+: file.components) :
    w.root.components ++ (w.relative file).components = file.components :=
  SourcePath.components_below? (below?_eq_relative h)

/-- A file below the root is looked up under what is left behind the root: the components of the
file are cut behind those of the root in one way. -/
theorem looksUp_of_append (h : w.root.components ++ key.components = file.components) :
    w.LooksUp file key := by
  have hsplit := components_relative (w := w) ⟨key.components, h⟩
  rw [← h] at hsplit
  exact looksUp_iff.mpr (List.append_cancel_left hsplit)

/-- A file is looked up under itself just if the root is empty or is not its beginning.

**Proof sketch.** A file that begins with the root is its root and what is left
(`components_relative`), and it is what is left only if the root is empty. -/
theorem looksUp_self_iff :
    w.LooksUp file file ↔ w.root.components = [] ∨ ¬w.root.components <+: file.components := by
  by_cases hbegins : w.root.components <+: file.components
  · rw [looksUp_iff, or_iff_left (not_not_intro hbegins)]
    have hsplit := components_relative hbegins
    constructor
    · intro hself
      rw [hself] at hsplit
      exact List.append_left_eq_self.mp hsplit
    · intro hempty
      rwa [hempty, List.nil_append] at hsplit
  · rw [looksUp_iff, relative_of_not_below hbegins]
    exact iff_of_true rfl (.inr hbegins)

/-- An absolute root is not the beginning of a relative file: the file would have the root among its
components. -/
theorem not_below_of_isAbsolute (hroot : w.root.isAbsolute = true)
    (hfile : file.isAbsolute = false) : ¬w.root.components <+: file.components := by
  intro hbegins
  have hmem := hbegins.subset (SourcePath.root_mem_components_iff.mpr hroot)
  rw [SourcePath.root_mem_components_iff, hfile] at hmem
  cases hmem

/-- A relative file that is given below the root is looked up under itself just if the root is empty
or the file begins with no `.`: a `.` behind the root is lost.

**Proof sketch.** Below the root the file has the components that its parts write
(`SourcePath.components_join`), and those are what is left of it. They are all of its components
unless it has a leading one. -/
theorem looksUp_join_iff (hfile : file.isAbsolute = false) :
    w.LooksUp (w.root.join file) file ↔ w.root.components = [] ∨ file.leading? = none := by
  by_cases hempty : w.root.text = ""
  · have hnil := SourcePath.components_eq_nil_iff.mpr hempty
    rw [SourcePath.join_of_empty hempty hfile]
    exact iff_of_true (looksUp_self_iff.mpr (.inl hnil)) (.inl hnil)
  · have hjoin := SourcePath.components_join hempty hfile
    have hsplit := components_relative (w := w) ⟨_, hjoin.symm⟩
    rw [hjoin, List.append_cancel_left_eq] at hsplit
    rw [looksUp_iff, hsplit, file.components_eq, List.self_eq_append_left,
      Option.toList_eq_nil_iff, SourcePath.components_eq_nil_iff, or_iff_right hempty]

/-- A key is reached by some file just if it is its own file, or begins with no `.` nor a slash and
is reached by the file below the root.

**Proof sketch.** What is left of a file below a root that is not empty begins with neither
(`SourcePath.leading?_below?`), and a file that is not below the root is its own key. The other way,
`looksUp_self_iff` and `looksUp_join_iff` name a file for each case. -/
theorem exists_looksUp_iff :
    (∃ file, w.LooksUp file key) ↔
      w.root.components = [] ∨ ¬w.root.components <+: key.components ∨ key.leading? = none := by
  constructor
  · rintro ⟨file, hlooks⟩
    rw [looksUp_iff] at hlooks
    rcases eq_or_ne w.root.components [] with hempty | hroot
    · exact .inl hempty
    by_cases hbegins : w.root.components <+: file.components
    · have hlead := SourcePath.leading?_below? (below?_eq_relative hbegins) hroot
      rw [SourcePath.leading?_eq_none_iff, hlooks, ← SourcePath.leading?_eq_none_iff] at hlead
      exact .inr (.inr hlead)
    · rw [relative_of_not_below hbegins] at hlooks
      exact .inr (.inl (hlooks ▸ hbegins))
  · rintro (hempty | hnot | hlead)
    · exact ⟨key, looksUp_self_iff.mpr (.inl hempty)⟩
    · exact ⟨key, looksUp_self_iff.mpr (.inr hnot)⟩
    · have hrelative : key.isAbsolute = false := by
        rw [← Bool.not_eq_true, ← SourcePath.leading?_eq_root_iff, hlead]
        simp
      exact ⟨w.root.join key, (looksUp_join_iff hrelative).mpr (.inr hlead)⟩

/-- **Which file is asked about.**  Whatever the root of the workspace, and for every file of the
command line:

* the file is looked up under itself just if the root is empty or is not the beginning of the file;
* a file that begins with the root is looked up under what is left behind the root;
* a relative file is looked up under itself if the root is absolute, and so is its spelling with the
  root in front, but for a `.` at its beginning, which that spelling loses;
* as a key it is reached by some spelling just if it is looked up under itself, or begins with
  neither a slash nor a `.` and can be given with the root in front. -/
theorem looksUp_spellings (w : Workspace) (file : SourcePath) :
    (w.LooksUp file file ↔
      w.root.components = [] ∨ ¬w.root.components <+: file.components) ∧
    (∀ rest : SourcePath, w.root.components ++ rest.components = file.components →
      w.LooksUp file rest) ∧
    (file.isAbsolute = false →
      (w.root.isAbsolute = true → w.LooksUp file file) ∧
      (w.LooksUp (w.root.join file) file ↔ w.root.components = [] ∨ file.leading? = none)) ∧
    ((∃ spelling, w.LooksUp spelling file) ↔
      w.root.components = [] ∨ ¬w.root.components <+: file.components ∨ file.leading? = none) := by
  refine ⟨looksUp_self_iff, fun rest => looksUp_of_append, fun hfile => ⟨fun hroot => ?_, ?_⟩,
    exists_looksUp_iff⟩
  · exact looksUp_self_iff.mpr (.inr (not_below_of_isAbsolute hroot hfile))
  · exact looksUp_join_iff hfile

/-- Below an absolute root a file has one key, whether the root is spelled out or not. -/
theorem looksUp_spellings_absolute :
    (SourcePath.mk "java/core/Core.java").isAbsolute = false ∧
    (SourcePath.mk "/work").isAbsolute = true ∧
    LooksUp { root := ⟨"/work"⟩ } ⟨"java/core/Core.java"⟩ ⟨"java/core/Core.java"⟩ ∧
    LooksUp { root := ⟨"/work"⟩ } (SourcePath.join ⟨"/work"⟩ ⟨"java/core/Core.java"⟩)
      ⟨"java/core/Core.java"⟩ := by
  obtain ⟨-, -, hrelative, -⟩ := looksUp_spellings { root := ⟨"/work"⟩ } ⟨"java/core/Core.java"⟩
  obtain ⟨hself, hjoin⟩ := hrelative rfl
  exact ⟨rfl, rfl, hself rfl, hjoin.mpr (.inr rfl)⟩

/-- A snapshot with one file, in a directory `java`. -/
def coreOwned : Snapshot where
  files := (∅ : Std.ExtTreeMap SourcePath Label).insert ⟨"java/core/Core.java"⟩
    ⟨"//java/core:Core.java"⟩
  owners := (∅ : LabelMap Label).insert ⟨"//java/core:Core.java"⟩ ⟨"//java/core:core"⟩

/-- With the root `java`, the file `java/core/Core.java` is not looked up under itself: it is
tracked and owned, but no owner is found. -/
theorem not_looksUp_below_relative_root :
    (SourcePath.mk "java/core/Core.java").isAbsolute = false ∧
    coreOwned.owner? ⟨"java/core/Core.java"⟩ = some ⟨"//java/core:core"⟩ ∧
    ((ReadyQuestion.owner ⟨"java/core/Core.java"⟩).answer { root := ⟨"java"⟩ } .text coreOwned
      Memo.empty).1 = "<no owning target>" ∧
    ¬LooksUp { root := ⟨"java"⟩ } ⟨"java/core/Core.java"⟩ ⟨"java/core/Core.java"⟩ := by
  have hbegins : (SourcePath.mk "java").components <+:
      (SourcePath.mk "java/core/Core.java").components := by decide
  refine ⟨rfl, by decide +kernel, by decide +kernel, fun hself => ?_⟩
  rcases looksUp_self_iff.mp hself with hempty | hnot
  · exact absurd hempty (by decide)
  · exact hnot hbegins

end Workspace

end TargetGraph
