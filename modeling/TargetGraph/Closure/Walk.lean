import TargetGraph.LabelSet

set_option relaxedAutoImplicit false
set_option autoImplicit false

/-!
# The closure walk

The closure of a label is the set of external labels that can be reached from it through
dependencies. It is found by a depth-first walk with its own stack, and remembered together with
the closures of all labels met on the way, so that no label is ever worked out twice.

## Main definitions

* `TargetGraph.Dependencies` — a finite dependency relation, each rule's dependencies in some order;
  `TargetGraph.Dependencies.Enumerates` — it is the relation of a map.
* `TargetGraph.Memo` — the closures known so far, and how much work they took.
* `TargetGraph.Walk`, `TargetGraph.Walk.step`, `TargetGraph.Walk.run` — a walk in progress.
* `TargetGraph.Memo.resolve` — the closure of a label, and the memo after it was asked for.

## Design

A label is *entered* when its dependencies are put on the stack, and *left* when they are all done.
A dependency that is being walked already is not entered again, so a cycle does not keep the walk
from ending. The number of steps is bounded by `Dependencies.stepBound`, which is used as fuel.
-/

namespace TargetGraph

/-- A finite dependency relation. -/
structure Dependencies where
  /-- The dependencies of a rule, in the order in which they are visited; `none` for a leaf. -/
  visit : Label → Option (List Label)
  /-- A list that holds every rule. -/
  rules : List Label
  /-- Only the listed labels have dependencies. -/
  mem_rules : ∀ label, (visit label).isSome → label ∈ rules

namespace Dependencies

/-- The relation of a finite map, dependencies in label order. -/
def ofMap (deps : LabelMap LabelSet) : Dependencies where
  visit label := deps[label]?.map Std.ExtTreeSet.toList
  rules := deps.keys
  mem_rules label h := by
    rw [Option.isSome_map] at h
    simpa using h

/-- The relation is that of a finite map, the dependencies of each rule in some order. -/
def Enumerates (d : Dependencies) (deps : LabelMap LabelSet) : Prop :=
  ∀ label, Option.Rel List.Perm (d.visit label) (deps[label]?.map Std.ExtTreeSet.toList)

/-- Label order is one of the orders. -/
theorem ofMap_enumerates (deps : LabelMap LabelSet) : (ofMap deps).Enumerates deps := by
  intro label
  show Option.Rel List.Perm (deps[label]?.map _) _
  cases deps[label]? with
  | none => exact .none
  | some set => exact .some (List.Perm.refl _)

/-- A walk takes at most this many steps: one for its target and, for each rule, one for leaving it
and one for each of its dependencies. -/
def stepBound (d : Dependencies) : Nat :=
  d.rules.foldl (fun n rule => n + 1 + ((d.visit rule).getD []).length) 1

end Dependencies

/-- The closures known so far. -/
structure Memo where
  /-- The known closures. -/
  cells : LabelMap LabelSet := ∅
  /-- How many closures were worked out. -/
  computed : Nat := 0
  /-- How many rules had their dependencies visited. -/
  expanded : Nat := 0

namespace Memo

/-- The memo that knows nothing. -/
def empty : Memo := {}

/-- The closure of the label is known. -/
def isCached (m : Memo) (label : Label) : Bool :=
  m.cells.contains label

/-- The memo with a closure for the label, which is worked out only if none is known. -/
def fill (m : Memo) (label : Label) (closure : LabelSet) : Memo :=
  if m.isCached label then m
  else { m with cells := m.cells.insert label closure, computed := m.computed + 1 }

end Memo

/-- What is left to do for a label. -/
inductive Frame where
  /-- Visit the label. -/
  | enter (label : Label)
  /-- Collect the closures of the label's dependencies. -/
  | leave (label : Label)
  deriving DecidableEq, Repr

/-- A walk in progress. -/
structure Walk where
  /-- What is left to do, next first. -/
  stack : List Frame
  /-- The labels that were entered and not yet left. -/
  path : LabelSet
  /-- The closures known so far. -/
  memo : Memo

/-- The closure of a label without dependencies: itself, if it is external. -/
def leafClosure (external : LabelSet) (label : Label) : LabelSet :=
  if external.contains label then {label} else ∅

namespace Walk

/-- One step: the next frame is done. -/
def step (d : Dependencies) (external : LabelSet) (w : Walk) : Walk :=
  match w.stack with
  | [] => w
  | .enter label :: rest =>
    if w.path.contains label || w.memo.isCached label then { w with stack := rest }
    else match d.visit label with
      | none => { w with stack := rest, memo := w.memo.fill label (leafClosure external label) }
      | some deps =>
        let path := w.path.insert label
        let pending := deps.filter fun dep => !path.contains dep
        { stack := pending.map Frame.enter ++ .leave label :: rest
          path
          memo := { w.memo with expanded := w.memo.expanded + 1 } }
  | .leave label :: rest =>
    let parts := ((d.visit label).getD []).filterMap fun dep => w.memo.cells[dep]?
    { stack := rest
      path := w.path.erase label
      memo := w.memo.fill label (LabelSet.unionAll parts) }

/-- The walk after at most `steps` steps, fewer if it ends before. -/
def run (d : Dependencies) (external : LabelSet) : Nat → Walk → Walk
  | 0, w => w
  | steps + 1, w => if w.stack.isEmpty then w else run d external steps (w.step d external)

/-- The walk that is about to visit `target`. -/
def start (target : Label) (memo : Memo) : Walk :=
  { stack := [.enter target], path := ∅, memo }

end Walk

/-- The closure of `target`, and the memo after it was asked for: as it was if the closure was
known, otherwise with all that a walk from `target` finds out. -/
def Memo.resolve (m : Memo) (d : Dependencies) (external : LabelSet) (target : Label) :
    LabelSet × Memo :=
  match m.cells[target]? with
  | some closure => (closure, m)
  | none =>
    let after := ((Walk.start target m).run d external d.stepBound).memo
    ((after.cells[target]?).getD ∅, after)

end TargetGraph
