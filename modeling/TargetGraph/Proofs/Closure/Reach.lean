import Mathlib.Logic.Relation
import TargetGraph.Closure.Query
import TargetGraph.Proofs.LabelSet

set_option relaxedAutoImplicit false
set_option autoImplicit false

/-!
# Reachability through dependencies

What a closure should be, said without a walk: the external labels without dependencies of their
own that can be reached along the edges of the dependency relation.

## Main definitions

* `TargetGraph.Dependencies.DependsOn`, `TargetGraph.Dependencies.Reaches` — one edge, and any
  number of edges.
* `TargetGraph.Dependencies.Needs` — a label belongs to the closure of another.
* `TargetGraph.Snapshot.DependsOn`, `TargetGraph.Snapshot.Reaches`, `TargetGraph.Snapshot.Acyclic` —
  the same for the dependencies of a snapshot.

## Main results

* `TargetGraph.Dependencies.needs_iff_of_leaf`, `TargetGraph.Dependencies.needs_iff_of_rule` — the
  closure of a label from those of its dependencies.
* `TargetGraph.Snapshot.Traversal.dependsOn_iff` — every traversal has the edges of its snapshot.
-/

namespace TargetGraph

open Relation

namespace Dependencies

variable {d : Dependencies} {external : LabelSet} {label target : Label} {deps : List Label}

/-- The rule has the dependency. -/
def DependsOn (d : Dependencies) (rule dep : Label) : Prop :=
  ∃ deps, d.visit rule = some deps ∧ dep ∈ deps

/-- The second label can be reached from the first along any number of dependencies. -/
def Reaches (d : Dependencies) : Label → Label → Prop :=
  ReflTransGen d.DependsOn

/-- The label belongs to the closure of the target: it is external, has no dependencies of its own,
and is reached. -/
def Needs (d : Dependencies) (external : LabelSet) (target label : Label) : Prop :=
  label ∈ external ∧ d.visit label = none ∧ d.Reaches target label

/-- The dependencies of a rule are the labels that a visit lists. -/
theorem dependsOn_iff_of_visit (h : d.visit target = some deps) :
    d.DependsOn target label ↔ label ∈ deps := by
  simp [DependsOn, h]

/-- A leaf depends on nothing. -/
theorem not_dependsOn_of_leaf (h : d.visit target = none) : ¬ d.DependsOn target label := by
  simp [DependsOn, h]

/-- A leaf reaches itself only.

**Proof sketch.** What a label reaches is the label itself, or it is reached from a dependency of
the label, and a leaf has none (`not_dependsOn_of_leaf`). -/
theorem reaches_iff_of_leaf (h : d.visit target = none) :
    d.Reaches target label ↔ label = target := by
  constructor
  · intro hreach
    rcases ReflTransGen.cases_head hreach with heq | ⟨dep, hdep, _⟩
    · exact heq.symm
    · exact absurd hdep (not_dependsOn_of_leaf h)
  · rintro rfl
    exact ReflTransGen.refl

/-- The closure of a leaf has the leaf, if that is external, and nothing else. -/
theorem mem_leafClosure :
    label ∈ leafClosure external target ↔ target ∈ external ∧ label = target := by
  unfold leafClosure
  split
  · next hext =>
    have hin : target ∈ external := Std.ExtTreeSet.contains_iff_mem.mp hext
    simp only [LabelSet.mem_singleton, hin, true_and]
  · next hext =>
    have hout : target ∉ external := fun hin => hext (Std.ExtTreeSet.contains_iff_mem.mpr hin)
    simp [hout]

/-- A leaf needs itself only, if it is external. -/
theorem needs_iff_of_leaf (h : d.visit target = none) :
    d.Needs external target label ↔ label ∈ leafClosure external target := by
  rw [Needs, reaches_iff_of_leaf h, mem_leafClosure]
  constructor
  · rintro ⟨hext, _, rfl⟩
    exact ⟨hext, rfl⟩
  · rintro ⟨hext, rfl⟩
    exact ⟨hext, h, rfl⟩

/-- The closure of a rule has the labels of the closures of its dependencies.

**Proof sketch.** What a rule reaches is the rule, which is no leaf, or is reached from the first
dependency on the way. -/
theorem needs_iff_of_rule (h : d.visit target = some deps) :
    d.Needs external target label ↔ ∃ dep ∈ deps, d.Needs external dep label := by
  constructor
  · rintro ⟨hext, hleaf, hreach⟩
    rcases ReflTransGen.cases_head hreach with rfl | ⟨dep, hdep, hrest⟩
    · rw [h] at hleaf
      cases hleaf
    · exact ⟨dep, (dependsOn_iff_of_visit h).mp hdep, hext, hleaf, hrest⟩
  · rintro ⟨dep, hdep, hext, hleaf, hrest⟩
    exact ⟨hext, hleaf, ReflTransGen.head ((dependsOn_iff_of_visit h).mpr hdep) hrest⟩

/-! ### Orders of visiting -/

variable {map : LabelMap LabelSet}

/-- A label is a leaf for the relation and has no entry in the map, or it has dependencies and an
entry with the same labels. This is all that is used of a relation that enumerates a map, whatever
the order of its lists.

**Proof sketch.** Of the four cases two are excluded, as the relation and the map have something for
the same labels. Where both have, a permutation has the same members. -/
theorem Enumerates.cases (h : d.Enumerates map) (label : Label) :
    (d.visit label = none ∧ map[label]? = none) ∨
      ∃ deps set, d.visit label = some deps ∧ map[label]? = some set ∧
        ∀ dep, dep ∈ deps ↔ dep ∈ set := by
  have hrel := h label
  cases hvisit : d.visit label with
  | none =>
    cases hmap : map[label]? with
    | none => exact .inl ⟨rfl, rfl⟩
    | some set =>
      rw [hvisit, hmap] at hrel
      cases hrel
  | some deps =>
    cases hmap : map[label]? with
    | none =>
      rw [hvisit, hmap] at hrel
      cases hrel
    | some set =>
      rw [hvisit, hmap] at hrel
      cases hrel with
      | some hperm => exact .inr ⟨deps, set, rfl, rfl, fun dep => by simp [hperm.mem_iff]⟩

/-- Whatever the order, a rule has the dependencies that the map gives it. -/
theorem Enumerates.dependsOn_iff (h : d.Enumerates map) {rule dep : Label} :
    d.DependsOn rule dep ↔ ∃ set, map[rule]? = some set ∧ dep ∈ set := by
  rcases h.cases rule with ⟨hvisit, hmap⟩ | ⟨deps, set, hvisit, hmap, hmem⟩
  · simp [DependsOn, hvisit, hmap]
  · simp [DependsOn, hvisit, hmap, hmem dep]

/-- Whatever the order, the leaves are the labels without an entry in the map. -/
theorem Enumerates.visit_eq_none_iff (h : d.Enumerates map) :
    d.visit label = none ↔ map[label]? = none := by
  rcases h.cases label with ⟨hvisit, hmap⟩ | ⟨deps, set, hvisit, hmap, _⟩
  · simp [hvisit, hmap]
  · simp [hvisit, hmap]

end Dependencies

namespace Snapshot

variable {s : Snapshot}

/-- The snapshot gives the rule this dependency. -/
def DependsOn (s : Snapshot) (rule dep : Label) : Prop :=
  ∃ deps, s.deps[rule]? = some deps ∧ dep ∈ deps

/-- The second label can be reached from the first along any number of dependencies. -/
def Reaches (s : Snapshot) : Label → Label → Prop :=
  ReflTransGen s.DependsOn

/-- No label depends on itself, also not through others. -/
def Acyclic (s : Snapshot) : Prop :=
  ∀ label, ¬ TransGen s.DependsOn label label

/-- The label belongs to the closure of the target. -/
def Needs (s : Snapshot) (target label : Label) : Prop :=
  label ∈ s.external ∧ s.deps[label]? = none ∧ s.Reaches target label

namespace Traversal

/-- Every traversal has the edges of its snapshot. -/
theorem dependsOn_eq (o : s.Traversal) : o.dependencies.DependsOn = s.DependsOn := by
  funext rule dep
  exact propext o.enumerates.dependsOn_iff

/-- Every traversal leads to the same closures. -/
theorem needs_iff (o : s.Traversal) {target label : Label} :
    o.dependencies.Needs s.external target label ↔ s.Needs target label := by
  rw [Dependencies.Needs, Needs, o.enumerates.visit_eq_none_iff, Dependencies.Reaches, Reaches,
    o.dependsOn_eq]

end Traversal

end Snapshot

end TargetGraph
