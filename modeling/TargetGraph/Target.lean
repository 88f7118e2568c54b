import TargetGraph.LabelSet
import TargetGraph.Location

set_option relaxedAutoImplicit false
set_option autoImplicit false

/-!
# Reported targets

What a report says about one target: its label, its kind and, where known, the rule that lists it
as a source, its dependencies and its place.

## Main definitions

* `TargetGraph.Target` — one reported target.
* `TargetGraph.sourceFileKind`, `TargetGraph.generatedFileKind`, `TargetGraph.isAndroidKind` — the
  kinds that mean something here.

## Main results

* `TargetGraph.isAndroidKind_iff` — how the kinds of Android rules are written.
-/

namespace TargetGraph

/-- The kind of a file that is checked in. -/
def sourceFileKind : String := "source file"

/-- The kind of a file that another rule makes. -/
def generatedFileKind : String := "generated file"

/-- Android rules are told by how their kind begins. -/
def isAndroidKind (kind : String) : Bool :=
  "android_".toList.isPrefixOf kind.toList

/-- A kind is one of an Android rule if it is `android_` and some characters, or none. -/
theorem isAndroidKind_iff {kind : String} :
    isAndroidKind kind = true ↔ ∃ rest, kind.toList = "android_".toList ++ rest := by
  rw [isAndroidKind, List.isPrefixOf_iff_prefix]
  exact exists_congr fun _ => eq_comm

/-- What a report says about one target. -/
structure Target where
  /-- The target's label. -/
  label : Label
  /-- Its kind: a rule class, or a kind of file. -/
  kind : String
  /-- The rule that lists it as a source. -/
  owner : Option Label := none
  /-- Its dependencies; `none` where they were not enumerated. -/
  deps : Option (List Label) := none
  /-- Its place in the workspace. -/
  location : Option Location := none
  deriving Repr

end TargetGraph
