import Std.Data.ExtTreeMap
import Std.Data.ExtTreeSet
import TargetGraph.Label

set_option relaxedAutoImplicit false
set_option autoImplicit false

/-!
# Sets and maps of labels

Finite sets of labels and finite maps from labels, both in ascending label order. Two sets with
the same members are equal, and so are two maps with the same entries.

## Main definitions

* `TargetGraph.LabelSet`, `TargetGraph.LabelMap`.
* `TargetGraph.LabelSet.absorb`, `TargetGraph.LabelSet.unionAll` — the union of a list of sets,
  which is the largest of them unchanged where that one covers the others.
-/

namespace TargetGraph

/-- A finite set of labels. -/
abbrev LabelSet := Std.ExtTreeSet Label

/-- A finite map from labels. -/
abbrev LabelMap (α : Type) := Std.ExtTreeMap Label α

namespace LabelSet

/-- Every member of `inner` is in `outer`. -/
def covers (outer inner : LabelSet) : Bool :=
  inner.toList.all outer.contains

/-- A set of the greatest size in the list, and the others. -/
def pullLargest : List LabelSet → Option (LabelSet × List LabelSet)
  | [] => none
  | set :: rest =>
    match pullLargest rest with
    | none => some (set, [])
    | some (largest, others) =>
      if largest.size < set.size then some (set, largest :: others)
      else some (largest, set :: others)

/-- The union of a set and some others. Where the set covers the others it is the union already, and
no set is built. -/
def absorb (largest : LabelSet) (others : List LabelSet) : LabelSet :=
  if others.all (covers largest) then largest
  else others.foldl (fun merged part => merged ∪ part) largest

/-- The union of all the sets: the others are absorbed by the largest. -/
def unionAll (parts : List LabelSet) : LabelSet :=
  match pullLargest (parts.filter fun part => !part.isEmpty) with
  | none => ∅
  | some (largest, others) => absorb largest others

end LabelSet

end TargetGraph
