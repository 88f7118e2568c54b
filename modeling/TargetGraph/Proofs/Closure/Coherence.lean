import TargetGraph.Proofs.Closure.Step

set_option relaxedAutoImplicit false
set_option autoImplicit false

/-!
# Coherence of a closure walk

The invariant of a walk that ties its three parts together: the stack, the labels on the path and
the known closures.

## Main definitions

* `TargetGraph.Walk.Threaded` — how each frame hangs on the frames below it.
* `TargetGraph.Walk.Served` — every dependency of an entered rule was seen or is still pending
  above.
* `TargetGraph.Walk.Coherent` — the whole invariant.

## Main results

* `TargetGraph.Walk.coherent_start`, `TargetGraph.Walk.Coherent.move` — a walk starts coherent, and
  every move keeps it so.
* `TargetGraph.Walk.Coherent.isCached_target` — when nothing is left to do, the target's closure is
  known.
-/

namespace TargetGraph

open Relation

namespace Walk

variable {d : Dependencies} {external : LabelSet} {w w' : Walk} {label target : Label}

/-! ### Labels that were seen -/

/-- The label is on the path, or its closure is known. -/
def Seen (w : Walk) (label : Label) : Prop :=
  w.memo.isCached label = true ∨ label ∈ w.path

/-- What was seen stays seen: a label leaves the path when its closure becomes known.

**Proof sketch.** Known closures stay known in every move. Only a rule that is left goes off the
path, and its closure is filled in then. -/
theorem Move.seen_mono (h : Move d external w w') (hseen : w.Seen label) : w'.Seen label := by
  cases h with
  | skip _ rest hstack _ => exact hseen
  | leaf leaf rest hstack hpath hnew hvisit =>
    rcases hseen with hcached | hon
    · exact .inl (Memo.isCached_fill.mpr (.inr hcached))
    · exact .inr hon
  | expand rule rest deps hstack hpath hnew hvisit =>
    rcases hseen with hcached | hon
    · exact .inl hcached
    · exact .inr (LabelSet.mem_insert_iff.mpr (.inr hon))
  | leave rule rest hstack =>
    rcases hseen with hcached | hon
    · exact .inl (Memo.isCached_fill.mpr (.inr hcached))
    · by_cases heq : label = rule
      · exact .inl (Memo.isCached_fill.mpr (.inl heq))
      · exact .inr (LabelSet.mem_erase_iff.mpr ⟨heq, hon⟩)

/-! ### Frames and what is below them -/

/-- How a frame hangs on the frames below it. -/
structure Hangs (d : Dependencies) (target : Label) (frame : Frame) (below : List Frame) :
    Prop where
  /-- Its label was not entered yet. -/
  not_entered : Frame.leave frame.label ∉ below
  /-- Its label is reached from the target. -/
  reached : d.Reaches target frame.label
  /-- Every rule that was entered leads to its label. -/
  descends : ∀ rule, Frame.leave rule ∈ below → TransGen d.DependsOn rule frame.label
  /-- It stands for the target, at the bottom, or for a dependency of an entered rule. -/
  parent : (below = [] ∧ frame.label = target) ∨
    ∃ rule, Frame.leave rule ∈ below ∧ d.DependsOn rule frame.label
  /-- Only rules are left. -/
  rule : ∀ label, frame = .leave label → d.visit label ≠ none

/-- Every frame hangs on those below it. -/
def Threaded (d : Dependencies) (target : Label) : List Frame → Prop
  | [] => True
  | frame :: below => Hangs d target frame below ∧ Threaded d target below

/-- Dependencies of a rule can be put on the stack above it, unless they were entered.

**Proof sketch.** Induction on these dependencies. The lowest frame is for leaving the rule; it
hangs on the others as the frame for entering it did. A dependency hangs on the rule and so, one
edge further, on all that the rule hangs on. The frames of other dependencies between them are only
there to be entered, so nothing hangs on them. -/
theorem threaded_pending {rule : Label} {rest : List Frame} (hrule : d.visit rule ≠ none)
    (hhangs : Hangs d target (.enter rule) rest) (hrest : Threaded d target rest) :
    ∀ pending : List Label,
      (∀ dep ∈ pending, d.DependsOn rule dep ∧ dep ≠ rule ∧ Frame.leave dep ∉ rest) →
      Threaded d target (pending.map Frame.enter ++ .leave rule :: rest)
  | [], _ => by
    refine ⟨⟨hhangs.not_entered, hhangs.reached, hhangs.descends, hhangs.parent, ?_⟩, hrest⟩
    rintro label heq
    cases heq
    exact hrule
  | dep :: pending, hpending => by
    obtain ⟨hdep, hne, hout⟩ := hpending dep List.mem_cons_self
    refine ⟨⟨?_, hhangs.reached.tail hdep, ?_, .inr ⟨rule, by simp, hdep⟩, by simp⟩,
      threaded_pending hrule hhangs hrest pending
        fun other hother => hpending other (List.mem_cons_of_mem dep hother)⟩
    · simpa [Frame.label, hne] using hout
    · intro entered hentered
      have hcases : entered = rule ∨ Frame.leave entered ∈ rest := by simpa using hentered
      rcases hcases with rfl | hbelow
      · exact TransGen.single hdep
      · exact (hhangs.descends entered hbelow).tail hdep

/-! ### Frames and what is above them -/

/-- Every dependency of an entered rule satisfies `seen`, or is to be visited before the rule is
left; `above` are the labels to be visited before the frames of the list. -/
def Served (d : Dependencies) (seen : Label → Prop) : List Label → List Frame → Prop
  | _, [] => True
  | above, .enter label :: below => Served d seen (label :: above) below
  | above, .leave rule :: below =>
    (∀ dep, d.DependsOn rule dep → seen dep ∨ dep ∈ above) ∧ Served d seen above below

/-- Rules stay served when what was pending above them is seen by now, or is pending still.

**Proof sketch.** Induction on the stack. The label of a frame to be entered is pending for all
frames below, before and after. -/
theorem Served.mono {seen seen' : Label → Prop} :
    ∀ {above above' : List Label} (stack : List Frame),
    (∀ label, seen label ∨ label ∈ above → seen' label ∨ label ∈ above') →
    Served d seen above stack → Served d seen' above' stack
  | _, _, [], _, _ => trivial
  | above, above', .enter label :: below, hmono, h => by
    show Served d seen' (label :: above') below
    refine Served.mono below (fun other hother => ?_)
      (show Served d seen (label :: above) below from h)
    by_cases heq : other = label
    · exact .inr (by simp [heq])
    · have hbefore : seen other ∨ other ∈ above := by simpa [heq] using hother
      exact (hmono other hbefore).imp_right (List.mem_cons_of_mem label)
  | above, above', .leave rule :: below, hmono, h =>
    ⟨fun dep hdep => hmono dep (h.1 dep hdep), Served.mono below hmono h.2⟩

/-- When the label of the next frame is seen from now on, and all that was seen before, it need not
be pending any more for the frames below. -/
theorem Served.of_enter {seen seen' : Label → Prop} {rest : List Frame}
    (hmono : ∀ other, seen other → seen' other) (hlabel : seen' label)
    (h : Served d seen [] (.enter label :: rest)) : Served d seen' [] rest := by
  have hpending : Served d seen [label] rest := h
  refine Served.mono rest (fun other hother => ?_) hpending
  rcases hother with hother | hother
  · exact .inl (hmono other hother)
  · rw [List.mem_singleton.mp hother]
    exact .inl hlabel

/-- Labels to be visited first are pending for all rules below. They are reversed, since the one
that is visited last stands lowest. -/
theorem served_pending {seen : Label → Prop} {stack : List Frame} : ∀ {above pending : List Label},
    Served d seen (pending.reverse ++ above) stack →
      Served d seen above (pending.map Frame.enter ++ stack)
  | _, [], h => h
  | above, label :: pending, h => by
    show Served d seen (label :: above) (pending.map Frame.enter ++ stack)
    exact served_pending (by simpa using h)

/-! ### The invariant -/

/-- The stack, the path and the known closures of a walk for `target` fit together. -/
structure Coherent (d : Dependencies) (target : Label) (w : Walk) : Prop where
  /-- Every frame hangs on those below it. -/
  threaded : Threaded d target w.stack
  /-- No dependency of an entered rule is forgotten. -/
  served : Served d w.Seen [] w.stack
  /-- The path has the labels that are still to be left. -/
  mem_path : ∀ label, label ∈ w.path ↔ Frame.leave label ∈ w.stack
  /-- No closure is known for a label on the path. -/
  new_of_path : ∀ label ∈ w.path, w.memo.isCached label = false
  /-- The target was seen, or comes yet. -/
  target_seen : w.Seen target ∨ Frame.enter target ∈ w.stack

/-- A walk starts coherent, whatever is known. -/
theorem coherent_start (d : Dependencies) (target : Label) (m : Memo) :
    Coherent d target (start target m) where
  threaded := ⟨⟨by simp, ReflTransGen.refl, by simp, .inl ⟨rfl, rfl⟩, by simp⟩, trivial⟩
  served := trivial
  mem_path := by simp [start]
  new_of_path := by simp [start]
  target_seen := .inr (by simp [start])

/-- Moves keep the frames hanging together.

**Proof sketch.** Only a rule that is entered puts frames on the stack (`threaded_pending`). They
are for dependencies that are not on the path, so no frame to leave them is below. -/
theorem Coherent.threaded_move (hc : Coherent d target w) (h : Move d external w w') :
    Threaded d target w'.stack := by
  have hthreaded := hc.threaded
  cases h with
  | skip label rest hstack _ =>
    rw [hstack] at hthreaded
    exact hthreaded.2
  | leaf label rest hstack hpath hnew hvisit =>
    rw [hstack] at hthreaded
    exact hthreaded.2
  | expand label rest deps hstack hpath hnew hvisit =>
    rw [hstack] at hthreaded
    refine threaded_pending (by simp [hvisit]) hthreaded.1 hthreaded.2 _ fun dep hdep => ?_
    obtain ⟨hmem, hout⟩ := List.mem_filter.mp hdep
    have hnot : dep ∉ w.path.insert label := by
      intro hin
      rw [Std.ExtTreeSet.contains_iff_mem.mpr hin] at hout
      cases hout
    rw [LabelSet.mem_insert_iff, not_or] at hnot
    refine ⟨(Dependencies.dependsOn_iff_of_visit hvisit).mpr hmem, hnot.1, fun hbelow => ?_⟩
    exact hnot.2 ((hc.mem_path dep).mpr (by simp [hstack, hbelow]))
  | leave label rest hstack =>
    rw [hstack] at hthreaded
    exact hthreaded.2

/-- Moves forget no dependency.

**Proof sketch.** A label that was to be visited is seen from now on, whatever the move made of it,
so it need not be pending any more (`Served.of_enter`). A rule that is entered has each dependency
on the path already or in a frame above it. -/
theorem Coherent.served_move (hc : Coherent d target w) (h : Move d external w w') :
    Served d w'.Seen [] w'.stack := by
  have hserved := hc.served
  have hmono : ∀ label, w.Seen label → w'.Seen label := fun _ => h.seen_mono
  cases h with
  | skip label rest hstack hseen =>
    rw [hstack] at hserved
    exact hserved.of_enter hmono hseen.symm
  | leaf label rest hstack hpath hnew hvisit =>
    rw [hstack] at hserved
    exact hserved.of_enter hmono (.inl (Memo.isCached_fill.mpr (.inl rfl)))
  | expand label rest deps hstack hpath hnew hvisit =>
    rw [hstack] at hserved
    have hrest := hserved.of_enter hmono (.inr Std.ExtTreeSet.mem_insert_self)
    refine served_pending ⟨fun dep hdep => ?_, Served.mono rest (fun other hother => ?_) hrest⟩
    · have hmem := (Dependencies.dependsOn_iff_of_visit hvisit).mp hdep
      by_cases hon : (w.path.insert label).contains dep = true
      · exact .inl (.inr (Std.ExtTreeSet.contains_iff_mem.mp hon))
      · refine .inr (List.mem_append_left _ (List.mem_reverse.mpr (List.mem_filter.mpr ⟨hmem, ?_⟩)))
        simpa only [Bool.not_eq_true', Bool.not_eq_true] using hon
    · exact hother.imp_right fun hnone => absurd hnone List.not_mem_nil
  | leave label rest hstack =>
    rw [hstack] at hserved
    exact Served.mono rest (fun other hother => hother.imp_left (hmono other)) hserved.2

/-- Moves keep the path and the frames that are still to be left in step.

**Proof sketch.** A rule goes on the path with its frame. When it is left it goes off the path with
that frame, and no other frame of the same rule is below, because none was put there after it was
entered (`Hangs.not_entered`). -/
theorem Coherent.mem_path_move (hc : Coherent d target w) (h : Move d external w w')
    (other : Label) :
    other ∈ w'.path ↔ Frame.leave other ∈ w'.stack := by
  have hpath := hc.mem_path other
  have hthreaded := hc.threaded
  cases h with
  | skip label rest hstack _ => simpa [hstack] using hpath
  | leaf label rest hstack _ hnew hvisit => simpa [hstack] using hpath
  | expand label rest deps hstack _ hnew hvisit =>
    have hrest : other ∈ w.path ↔ Frame.leave other ∈ rest := by simpa [hstack] using hpath
    rw [LabelSet.mem_insert_iff, hrest]
    simp
  | leave label rest hstack =>
    rw [hstack] at hpath hthreaded
    have hout : Frame.leave label ∉ rest := hthreaded.1.not_entered
    rw [LabelSet.mem_erase_iff, hpath, List.mem_cons, Frame.leave.injEq]
    constructor
    · rintro ⟨hne, heq | hrest⟩
      · exact absurd heq hne
      · exact hrest
    · intro hrest
      refine ⟨?_, .inr hrest⟩
      rintro rfl
      exact hout hrest

/-- Moves make no closure known for a label that stays on the path.

**Proof sketch.** A closure becomes known for a leaf, which is not on the path, or for a rule in the
move that takes it off the path. A rule that is entered had no known closure. -/
theorem Coherent.new_of_path_move (hc : Coherent d target w) (h : Move d external w w')
    (other : Label) (hon : other ∈ w'.path) : w'.memo.isCached other = false := by
  cases h with
  | skip label rest hstack _ => exact hc.new_of_path other hon
  | leaf label rest hstack hpath hnew hvisit =>
    rw [← Bool.not_eq_true, Memo.isCached_fill, not_or, Bool.not_eq_true]
    refine ⟨?_, hc.new_of_path other hon⟩
    rintro rfl
    exact hpath hon
  | expand label rest deps hstack hpath hnew hvisit =>
    rcases LabelSet.mem_insert_iff.mp hon with rfl | hbefore
    · exact hnew
    · exact hc.new_of_path other hbefore
  | leave label rest hstack =>
    obtain ⟨hne, hbefore⟩ := LabelSet.mem_erase_iff.mp hon
    rw [← Bool.not_eq_true, Memo.isCached_fill, not_or, Bool.not_eq_true]
    exact ⟨hne, hc.new_of_path other hbefore⟩

/-- The target is not lost with the frame of a label that is seen from now on. -/
theorem seen_or_comes_of_enter {rest : List Frame} (hlabel : w'.Seen label)
    (hcomes : Frame.enter target ∈ Frame.enter label :: rest) :
    w'.Seen target ∨ Frame.enter target ∈ rest := by
  rcases List.mem_cons.mp hcomes with heq | hrest
  · cases heq
    exact .inl hlabel
  · exact .inr hrest

/-- Moves do not lose the target: if its frame is the one that is taken off the stack, it is seen
from then on.

**Proof sketch.** A target that was seen stays seen (`Move.seen_mono`). If its frame was on the
stack, it is the one on top or one below (`seen_or_comes_of_enter`). The frame on top is taken off
only when its label is seen already, when it is cached, or when it comes on the path; the frames
below stay where they are. -/
theorem Coherent.target_seen_move (hc : Coherent d target w) (h : Move d external w w') :
    w'.Seen target ∨ Frame.enter target ∈ w'.stack := by
  rcases hc.target_seen with hseen | hcomes
  · exact .inl (h.seen_mono hseen)
  · cases h with
    | skip label rest hstack hseen =>
      rw [hstack] at hcomes
      exact seen_or_comes_of_enter hseen.symm hcomes
    | leaf label rest hstack hpath hnew hvisit =>
      rw [hstack] at hcomes
      exact seen_or_comes_of_enter (.inl (Memo.isCached_fill.mpr (.inl rfl))) hcomes
    | expand label rest deps hstack hpath hnew hvisit =>
      rw [hstack] at hcomes
      refine Or.imp_right (fun hrest => ?_) (seen_or_comes_of_enter ?_ hcomes)
      · exact List.mem_append_right _ (List.mem_cons_of_mem _ hrest)
      · exact .inr Std.ExtTreeSet.mem_insert_self
    | leave label rest hstack =>
      rw [hstack] at hcomes
      exact .inr (by simpa using hcomes)

/-- **Every move keeps a walk coherent.** -/
theorem Coherent.move (hc : Coherent d target w) (h : Move d external w w') :
    Coherent d target w' where
  threaded := hc.threaded_move h
  served := hc.served_move h
  mem_path := hc.mem_path_move h
  new_of_path := hc.new_of_path_move h
  target_seen := hc.target_seen_move h

/-- A rule that is left next is on the path. -/
theorem Coherent.mem_path_of_leave {rest : List Frame} (hc : Coherent d target w)
    (hstack : w.stack = .leave label :: rest) : label ∈ w.path := by
  rw [hc.mem_path, hstack]
  exact List.mem_cons_self

/-- A rule that is left next has no known closure. -/
theorem Coherent.new_of_leave {rest : List Frame} (hc : Coherent d target w)
    (hstack : w.stack = .leave label :: rest) : w.memo.isCached label = false :=
  hc.new_of_path label (hc.mem_path_of_leave hstack)

/-- When nothing is left to do, only known labels were seen. -/
theorem Coherent.isCached_of_seen (hc : Coherent d target w) (hend : w.stack = [])
    (hseen : w.Seen label) : w.memo.isCached label = true := by
  rcases hseen with hcached | hon
  · exact hcached
  · have hleft := (hc.mem_path label).mp hon
    rw [hend] at hleft
    cases hleft

/-- When nothing is left to do, the target's closure is known. -/
theorem Coherent.isCached_target (hc : Coherent d target w) (hend : w.stack = []) :
    w.memo.isCached target = true := by
  rcases hc.target_seen with hseen | hcomes
  · exact hc.isCached_of_seen hend hseen
  · rw [hend] at hcomes
    cases hcomes

end Walk

end TargetGraph
