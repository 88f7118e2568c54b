import TargetGraph.Proofs.Closure.Resolve

set_option relaxedAutoImplicit false
set_option autoImplicit false

/-!
# Closures after any history of questions

All questions about a snapshot share its memo. Each one amounts to asking for some closures, so what
holds of these holds after any history, along any traversal.

## Main definitions

* `TargetGraph.Inquiry`, `TargetGraph.Snapshot.memoAfter` — the questions that touch the memo, and
  the memo after a history of them.
* `TargetGraph.Snapshot.Traversal.asked` — the labels whose closures a question asks for.
* `TargetGraph.Snapshot.Exact` — every known closure is exactly what its label needs.

## Main results

* `TargetGraph.Snapshot.Traversal.pose_eq_after` — a question asks for these closures and does
  nothing else to the memo.
* `TargetGraph.Snapshot.closure_eq_needs_after_history` — without cycles, the closure of a label is
  what it needs, whatever was asked before.
-/

namespace TargetGraph

open Relation

/-- A question that may add to the memo of a snapshot. -/
inductive Inquiry where
  /-- What does this target reach? -/
  | closure (target : Label)
  /-- What does this file need? -/
  | fileClosure (path : SourcePath)
  /-- Which files need this label? -/
  | dependents (dependency : Label)
  /-- Work out the closures of all owners. -/
  | prefetch

namespace Snapshot

variable {s : Snapshot} {m : Memo}

namespace Traversal

variable (o : s.Traversal)

/-- The memo after a question. -/
def pose (o : s.Traversal) : Inquiry → Memo → Memo
  | .closure target, m => (o.closure target m).2
  | .fileClosure path, m => (o.fileClosure path m).2
  | .dependents dependency, m => (o.dependents dependency m).2
  | .prefetch, m => (o.prefetch m).2

/-- The labels whose closures a question asks for, in order. -/
def asked (o : s.Traversal) : Inquiry → List Label
  | .closure target => [target]
  | .fileClosure path => (s.owner? path).toList
  | .dependents _ => o.files.filterMap s.owner?
  | .prefetch => o.owners

/-- Asking for a file's closure asks for its owner's, if it has one. -/
theorem memo_fileClosure (path : SourcePath) (m : Memo) :
    (o.fileClosure path m).2 = m.after o.dependencies s.external (s.owner? path).toList := by
  unfold fileClosure
  cases s.owner? path <;> rfl

/-- A search through files asks for the closure of every owner among them, in the order of the
files, and whatever it finds.

**Proof sketch.** Induction on the files. The first of them asks for the closure of its owner, if it
has one (`memo_fileClosure`). -/
theorem memo_filterAuxM (dependency : Label) : ∀ (files found : List SourcePath) (m : Memo),
    (files.filterAuxM (fun path => do
        let closure ← o.fileClosure path
        return closure.contains dependency) found m).2 =
      m.after o.dependencies s.external (files.filterMap s.owner?)
  | [], _, _ => rfl
  | path :: rest, found, m => by
    have hpath := o.memo_fileClosure path m
    have hrest := memo_filterAuxM dependency rest
      (bif (o.fileClosure path m).1.contains dependency then path :: found else found)
      (o.fileClosure path m).2
    refine hrest.trans ?_
    rw [hpath]
    cases howner : s.owner? path with
    | none => rw [List.filterMap_cons_none howner]; rfl
    | some owner => rw [List.filterMap_cons_some howner]; rfl

/-- Going through the owners asks for the closure of each. -/
theorem memo_forM : ∀ (owners : List Label) (m : Memo),
    (owners.forM (fun owner => discard (o.closure owner)) m).2 =
      m.after o.dependencies s.external owners
  | [], _ => rfl
  | owner :: rest, m => memo_forM rest (m.resolve o.dependencies s.external owner).2

/-- **A question asks for the closures of some labels, and does nothing else to the memo.** So what
holds of any number of closures asked for holds of questions. -/
theorem pose_eq_after (inquiry : Inquiry) (m : Memo) :
    o.pose inquiry m = m.after o.dependencies s.external (o.asked inquiry) := by
  cases inquiry with
  | closure target => rfl
  | fileClosure path => exact o.memo_fileClosure path m
  | dependents dependency => exact o.memo_filterAuxM dependency o.files [] m
  | prefetch => exact o.memo_forM o.owners m

end Traversal

/-! ### Histories -/

/-- The memo after a history of questions, each along a traversal of its own. -/
def memoAfter (s : Snapshot) (history : List (s.Traversal × Inquiry)) : Memo :=
  history.foldl (fun m entry => entry.1.pose entry.2 m) Memo.empty

/-- What asking for a closure keeps, every history keeps.

**Proof sketch.** Induction on the history, from any memo. Each question in it amounts to some
closures asked for (`Traversal.pose_eq_after`). -/
theorem memoAfter_induction {P : Memo → Prop} (hempty : P Memo.empty)
    (hresolve : ∀ (o : s.Traversal) (m : Memo) (target : Label), P m →
      P (m.resolve o.dependencies s.external target).2)
    (history : List (s.Traversal × Inquiry)) : P (s.memoAfter history) := by
  have hfrom : ∀ (history : List (s.Traversal × Inquiry)) (m : Memo), P m →
      P (history.foldl (fun m entry => entry.1.pose entry.2 m) m) := by
    intro history
    induction history with
    | nil => exact fun _ h => h
    | cons entry rest ih =>
      intro m h
      refine ih _ ?_
      show P (entry.1.pose entry.2 m)
      rw [entry.1.pose_eq_after]
      exact Memo.after_induction _ (hresolve entry.1) h
  exact hfrom history Memo.empty hempty

/-! ### Exact closures -/

/-- Every known closure is exactly what its label needs. -/
def Exact (s : Snapshot) (m : Memo) : Prop :=
  ∀ label closure, m.cells[label]? = some closure → ∀ leaf, leaf ∈ closure ↔ s.Needs label leaf

/-- Closures are exact when they are sound and complete along any traversal, because all traversals
lead to the same closures (`Traversal.needs_iff`). -/
theorem exact_iff (o : s.Traversal) : s.Exact m ↔
    m.Sound o.dependencies s.external (fun _ => True) ∧ m.Complete o.dependencies s.external := by
  unfold Exact Memo.Sound Memo.Complete
  constructor
  · intro h
    refine ⟨fun label closure _ hcell leaf hleaf => ?_, fun label closure hcell leaf hneeds => ?_⟩
    · exact o.needs_iff.mpr ((h label closure hcell leaf).mp hleaf)
    · exact (h label closure hcell leaf).mpr (o.needs_iff.mp hneeds)
  · rintro ⟨hsound, hcomplete⟩ label closure hcell leaf
    exact ⟨fun hleaf => o.needs_iff.mp (hsound label closure trivial hcell leaf hleaf),
      fun hneeds => hcomplete label closure hcell leaf (o.needs_iff.mpr hneeds)⟩

/-- Without cycles, asking for a closure keeps the known closures exact: it keeps them sound in any
case, and complete where there are no cycles. -/
theorem Exact.resolve (hacyclic : s.Acyclic) (o : s.Traversal) (h : s.Exact m) (target : Label) :
    s.Exact (m.resolve o.dependencies s.external target).2 := by
  have hvisits : ∀ label, ¬ TransGen o.dependencies.DependsOn label label := by
    rw [o.dependsOn_eq]
    exact hacyclic
  obtain ⟨hsound, hcomplete⟩ := (exact_iff o).mp h
  exact (exact_iff o).mpr ⟨hsound.resolve fun _ _ _ _ => trivial, hcomplete.resolve hvisits⟩

/-- Without cycles, all closures are exact after any history. -/
theorem exact_memoAfter (hacyclic : s.Acyclic) (history : List (s.Traversal × Inquiry)) :
    s.Exact (s.memoAfter history) := by
  refine memoAfter_induction ?_ (fun o _ target h => h.resolve hacyclic o target) history
  intro label closure hcell
  simp [Memo.empty] at hcell

/-- Without cycles, the answer to a question holds what the target needs, whatever was asked
before. -/
theorem mem_closure_iff (hacyclic : s.Acyclic) (history : List (s.Traversal × Inquiry))
    (o : s.Traversal) (target : Label) {label : Label} :
    label ∈ (o.closure target (s.memoAfter history)).1 ↔ s.Needs target label :=
  (exact_memoAfter hacyclic history).resolve hacyclic o target target _
    (Memo.getElem?_resolve _ _ _ target) label

/-- **Without cycles, the closure of a label is exactly what it needs, in ascending order, whatever
was asked before** and along whichever traversals. With the empty history this says that a walk
agrees with reachability; with other histories, that it does so from any memo that questions can
leave behind.

**Proof sketch.** Each question asks for some closures (`Traversal.pose_eq_after`). A walk adds only
closures that are sound (`Memo.Sound.move`) and, as no dependency of a rule can still be on the path
when the rule is left, complete (`Memo.Complete.move`). The answer is one of the known closures. -/
theorem closure_eq_needs_after_history (s : Snapshot) (hacyclic : s.Acyclic)
    (history : List (s.Traversal × Inquiry)) (o : s.Traversal) (target : Label) :
    let answer := (o.closure target (s.memoAfter history)).1
    (∀ label, label ∈ answer.toList ↔ s.Needs target label) ∧
      answer.toList.Pairwise fun a b => compare a b = .lt := by
  intro answer
  refine ⟨fun label => ?_, Std.ExtTreeSet.ordered_toList⟩
  have hexact := (exact_memoAfter hacyclic history).resolve hacyclic o target
  rw [Std.ExtTreeSet.mem_toList]
  exact hexact target answer (Memo.getElem?_resolve _ _ _ target) label

/-- There are no cycles where some number grows along every dependency, as it would have to be less
than itself. -/
theorem acyclic_of_rank (rank : Label → Nat)
    (h : ∀ rule dep, s.DependsOn rule dep → rank rule < rank dep) : s.Acyclic := by
  have hgrows : ∀ {rule dep : Label}, TransGen s.DependsOn rule dep → rank rule < rank dep := by
    intro rule dep hpath
    induction hpath with
    | single hdep => exact h _ _ hdep
    | tail _ hdep ih => exact Nat.lt_trans ih (h _ _ hdep)
  exact fun label hpath => Nat.lt_irrefl _ (hgrows hpath)

/-- Two rules below a third one that share an external dependency. -/
def diamond : Snapshot where
  deps := (((∅ : LabelMap LabelSet).insert ⟨"//a:a"⟩
      (Std.ExtTreeSet.ofList [Label.mk "//b:b", Label.mk "//c:c"] compare)).insert
    ⟨"//b:b"⟩ {⟨"@d//:d"⟩}).insert ⟨"//c:c"⟩ {⟨"@d//:d"⟩}
  external := {⟨"@d//:d"⟩}

/-- The diamond has no cycles: from the top to the shared dependency a number grows with each
edge. -/
theorem acyclic_diamond : diamond.Acyclic := by
  refine acyclic_of_rank
    (fun label => if label = ⟨"//a:a"⟩ then 0 else if label = ⟨"@d//:d"⟩ then 2 else 1) ?_
  rintro rule dep ⟨deps, hdeps, hdep⟩
  simp only [diamond, LabelMap.getElem?_insert] at hdeps
  split at hdeps
  · next hrule =>
    cases hdeps
    rw [LabelSet.mem_singleton] at hdep
    subst hrule hdep
    decide
  split at hdeps
  · next hrule =>
    cases hdeps
    rw [LabelSet.mem_singleton] at hdep
    subst hrule hdep
    decide
  split at hdeps
  · next hrule =>
    cases hdeps
    rw [LabelSet.mem_ofList] at hdep
    subst hrule
    revert dep
    decide
  · simp at hdeps

/-- The shared dependency is found from the top, with one side of the diamond known already. -/
theorem closure_diamond : diamond.Acyclic ∧
    ⟨"@d//:d"⟩ ∈ (diamond.inOrder.closure ⟨"//a:a"⟩
      (diamond.memoAfter
        [(diamond.inOrder, .closure ⟨"//b:b"⟩), (diamond.inOrder, .prefetch)])).1.toList := by
  have hleft : diamond.DependsOn ⟨"//a:a"⟩ ⟨"//b:b"⟩ :=
    ⟨Std.ExtTreeSet.ofList [⟨"//b:b"⟩, ⟨"//c:c"⟩] compare,
      by simp only [diamond, LabelMap.getElem?_insert]; rfl, LabelSet.mem_ofList.mpr (by decide)⟩
  have hright : diamond.DependsOn ⟨"//b:b"⟩ ⟨"@d//:d"⟩ :=
    ⟨{⟨"@d//:d"⟩}, by simp only [diamond, LabelMap.getElem?_insert]; rfl,
      LabelSet.mem_singleton.mpr rfl⟩
  refine ⟨acyclic_diamond, ?_⟩
  refine ((closure_eq_needs_after_history diamond acyclic_diamond _ _ _).1 _).mpr ⟨?_, ?_, ?_⟩
  · exact LabelSet.mem_singleton.mpr rfl
  · simp only [diamond, LabelMap.getElem?_insert]
    rfl
  · exact (ReflTransGen.single hleft).tail hright

end Snapshot

end TargetGraph
