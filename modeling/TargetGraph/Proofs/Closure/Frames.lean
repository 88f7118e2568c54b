import Mathlib.Algebra.GroupWithZero.Nat
import Mathlib.Data.Nat.Find
import TargetGraph.Proofs.Closure.Work

set_option relaxedAutoImplicit false
set_option autoImplicit false

/-!
# The frames of a closure walk

How many frames a walk takes off its stack before it is over, and how the frames that are still to
be left go with the labels on the path while it lasts.

## Main definitions

* `TargetGraph.Frame.left?` — the rule that a frame is to leave.

## Main results

* `TargetGraph.Walk.Threaded.nodup_left` — no rule is to be left twice.
* `TargetGraph.Walk.Coherent.not_mem_path` — a label that comes next to be visited is not on the
  path.
* `TargetGraph.Walk.charges_iff` — what is counted in a run is what gets done in it, each label
  once.
* `TargetGraph.Walk.steps_le` — the steps of a run are paid for by the rules that it enters.
* `TargetGraph.Walk.ends_with_target` — all of it, for a walk from any label with anything known.

## Design

Whether a walk is over cannot be read off the length of its stack, which grows with each rule that
is entered. But every frame that is ever put there is paid for: the first one by the target, and the
others by the rule that was entered, one for leaving it and at most one for each of its
dependencies. So as many frames can be taken off as these rules pay for, and a rule is entered only
once.
-/

namespace TargetGraph

/-- The rule that a frame is to leave, if it is there for that. -/
def Frame.left? : Frame → Option Label
  | .enter _ => none
  | .leave label => some label

namespace Walk

variable {d : Dependencies} {external : LabelSet} {w w' : Walk} {m : Memo} {label target : Label}

/-! ### Frames and the path -/

/-- A rule is to be left just if there is a frame for that. -/
theorem mem_left_iff {stack : List Frame} :
    label ∈ stack.filterMap Frame.left? ↔ Frame.leave label ∈ stack := by
  rw [List.mem_filterMap]
  constructor
  · rintro ⟨_ | rule, hframe, hleft⟩
    · cases hleft
    · cases hleft
      exact hframe
  · intro hframe
    exact ⟨.leave label, hframe, rfl⟩

/-- No rule is to be left twice.

**Proof sketch.** By induction on the stack. A frame to enter a label adds nothing. A frame to leave
a rule hangs on frames among which the rule was not entered, so none of these leaves it. -/
theorem Threaded.nodup_left {stack : List Frame} (h : Threaded d target stack) :
    (stack.filterMap Frame.left?).Nodup := by
  induction stack with
  | nil => exact List.nodup_nil
  | cons frame below ih =>
    obtain ⟨hhangs, hbelow⟩ := h
    cases frame with
    | enter label => exact ih hbelow
    | leave label =>
      refine List.nodup_cons.mpr ⟨fun hmem => ?_, ih hbelow⟩
      exact hhangs.not_entered (mem_left_iff.mp hmem)

/-- A label that comes next to be visited is not on the path.

**Proof sketch.** For a label on the path there is a frame to leave it. It is not the one on top,
which enters a label, and it is not below, as the one on top hangs on frames that have not entered
its label. -/
theorem Coherent.not_mem_path (h : w.Coherent d target) {rest : List Frame}
    (hstack : w.stack = .enter label :: rest) : label ∉ w.path := by
  have hthreaded := h.threaded
  intro hon
  have hleft := (h.mem_path label).mp hon
  rw [hstack] at hthreaded hleft
  rcases List.mem_cons.mp hleft with heq | hbelow
  · cases heq
  · exact hthreaded.1.not_entered hbelow

/-- A run keeps a walk coherent, however long it is. -/
theorem Coherent.run (h : w.Coherent d target) (steps : Nat) :
    (w.run d external steps).Coherent d target :=
  run_induction (fun _ _ hmove hc => Coherent.move hc hmove) steps w h

/-! ### What is counted in a run -/

section Counts

variable {count : Memo → Nat} {done : Memo → LabelSet → Label → Prop}

/-- What a move counts was not done before, and is afterwards; nothing else gets done.

**Proof sketch.** A move that counts nothing charges nothing, and does nothing. A move that counts
charges the rule that the frame on top is about, and this rule gets done by it. -/
theorem Counted.charged_iff (h : w.Counted count done w') :
    (∀ label ∈ w.charged count w', ¬done w.memo w.path label) ∧
      ∀ label, done w'.memo w'.path label ↔
        label ∈ w.charged count w' ∨ done w.memo w.path label := by
  cases h with
  | still hcount hdone =>
    rw [charged, if_pos hcount]
    exact ⟨fun label hlabel => absurd hlabel (by simp), fun label => by simp [hdone]⟩
  | raised rule hrule hcount hnew hdone =>
    rw [charged, if_neg (by omega), hrule]
    refine ⟨fun label hlabel => ?_, fun label => ?_⟩
    · cases hlabel
      exact hnew
    · rw [hdone, Option.mem_some_iff, eq_comm]

/-- **What a run counts was not done before, and is afterwards; nothing else gets done**, and each
label is counted once.

**Proof sketch.** Induction on the steps. What the first step counts is done when the others come,
and they count only what is not, so it is not counted again. -/
theorem charges_iff (hmoves : CountsMoves d external count done) (steps : Nat)
    (h : w.Coherent d target) :
    let after := w.run d external steps
    let charged := w.charges d external count steps
    charged.Nodup ∧ (∀ label ∈ charged, ¬done w.memo w.path label) ∧
      ∀ label, done after.memo after.path label ↔ label ∈ charged ∨ done w.memo w.path label := by
  induction steps generalizing w with
  | zero => simp [charges, Walk.run]
  | succ steps ih =>
    unfold charges Walk.run
    split
    · simp
    · next hne =>
      have hmove : Move d external w (w.step d external) := move_step (by simpa using hne)
      obtain ⟨hnew, hdone⟩ := (hmoves target w _ h hmove).charged_iff
      obtain ⟨hnodup, hnewer, hlater⟩ := ih (h.move hmove)
      refine ⟨List.nodup_append.mpr ⟨?_, hnodup, ?_⟩, fun label hlabel => ?_, fun label => ?_⟩
      · cases w.charged count (w.step d external) with
        | none => exact List.nodup_nil
        | some label => exact List.pairwise_singleton _ label
      · -- what the step counts is done when the others come
        rintro label hfirst _ hothers rfl
        exact hnewer label hothers ((hdone label).mpr (.inl (Option.mem_toList.mp hfirst)))
      · rcases List.mem_append.mp hlabel with hfirst | hothers
        · exact hnew label (Option.mem_toList.mp hfirst)
        · exact fun hbefore => hnewer label hothers ((hdone label).mpr (.inr hbefore))
      · rw [hlater, hdone, List.mem_append, Option.mem_toList, Option.mem_def, or_left_comm,
          or_assoc]

end Counts

/-! ### The length of a walk -/

/-- A walk that is not over goes on with its next step. -/
theorem run_succ (h : w.stack ≠ []) (steps : Nat) :
    w.run d external (steps + 1) = (w.step d external).run d external steps := by
  rw [Walk.run, if_neg (by simpa using h)]

/-- A walk that is over does not change. -/
theorem run_of_stack_eq_nil (h : w.stack = []) (steps : Nat) : w.run d external steps = w := by
  cases steps with
  | zero => rfl
  | succ steps => rw [Walk.run, if_pos (by simp [h])]

/-- The state in which a walk is over does not depend on how long it may run.

**Proof sketch.** Induction on the number of steps that it takes to be over, from any walk. -/
theorem run_eq_of_le {steps more : Nat} (hend : (w.run d external steps).stack = [])
    (hle : steps ≤ more) : w.run d external more = w.run d external steps := by
  induction steps generalizing w more with
  | zero => exact run_of_stack_eq_nil hend more
  | succ steps ih =>
    obtain ⟨more, rfl⟩ : ∃ before, more = before + 1 := ⟨more - 1, by omega⟩
    by_cases hstack : w.stack = []
    · rw [run_of_stack_eq_nil hstack, run_of_stack_eq_nil hstack]
    · rw [run_succ hstack] at hend ⊢
      rw [run_succ hstack]
      exact ih hend (by omega)

/-- A walk that is over at some time was not over until some earlier time, and that time is taken
here as the number of its steps. -/
theorem exists_end {bound : Nat} (h : (w.run d external bound).stack = []) :
    ∃ steps ≤ bound, (w.run d external steps).stack = [] ∧
      ∀ earlier < steps, (w.run d external earlier).stack ≠ [] := by
  classical
  have hends : ∃ steps, (w.run d external steps).stack = [] := ⟨bound, h⟩
  exact ⟨Nat.find hends, Nat.find_min' hends h, Nat.find_spec hends,
    fun _ hearlier => Nat.find_min hends hearlier⟩

/-- A move takes one frame off the stack, and what it puts there is paid for by the rule that it
enters: a frame to leave it, and no more than one for each of its dependencies.

**Proof sketch.** Only entering a rule puts frames there. They are a frame to leave it and those of
the dependencies that are not on the path, of which there are no more than there are dependencies,
and the cost of the rule counts these two. -/
theorem Move.length_le (h : Move d external w w') :
    w'.stack.length + 1 ≤
      w.stack.length + ((w.charged Memo.expanded w').toList.map (cost d)).sum := by
  cases h with
  | skip label rest hstack hseen => simp [hstack]
  | leaf label rest hstack hpath hnew hvisit =>
    simp only [hstack, List.length_cons]
    omega
  | expand label rest deps hstack hpath hnew hvisit =>
    have hfilter := List.length_filter_le (fun dep => !(w.path.insert label).contains dep) deps
    rw [charged, if_neg (by simp), hstack]
    simp only [List.head?_cons, Option.map_some, Option.toList_some, List.map_cons, List.map_nil,
      List.sum_cons, List.sum_nil, Frame.label, cost, hvisit, Option.getD_some, List.length_append,
      List.length_map, List.length_cons]
    omega
  | leave label rest hstack =>
    simp only [hstack, List.length_cons]
    omega

/-- **The steps of a run are paid for** by the frames that it starts with and the rules that it
enters.

**Proof sketch.** Induction on the steps, from any walk. The first step takes off one frame and puts
on no more than the rule that it enters pays for (`Move.length_le`). -/
theorem steps_le (steps : Nat)
    (h : ∀ earlier < steps, (w.run d external earlier).stack ≠ []) :
    steps + (w.run d external steps).stack.length ≤
      w.stack.length + ((w.charges d external Memo.expanded steps).map (cost d)).sum := by
  induction steps generalizing w with
  | zero => simp [charges, Walk.run]
  | succ steps ih =>
    have hstack : w.stack ≠ [] := h 0 (Nat.succ_pos steps)
    have hmove : Move d external w (w.step d external) := move_step hstack
    have hlength := hmove.length_le
    have hrest := ih fun earlier hearlier => by
      rw [← run_succ hstack]
      exact h (earlier + 1) (Nat.succ_lt_succ hearlier)
    rw [run_succ hstack, charges, if_neg (by simpa using hstack), List.map_append, List.sum_append]
    omega

/-! ### The end of a walk -/

/-- **How every walk ends**, from any label, whatever is known before and whatever cycles there are.
As long as it lasts, the labels on the path are those for which there is a frame to leave them,
there is only one such frame for each, and the label that comes next to be visited is never one of
them. The number of frames that are taken off the stack is at most one, and for each rule that is
entered one and the number of its dependencies; each of them is a rule and is entered once. When
nothing is left to do, the path is empty and the closure of the target is known, so it is that
closure which the question is answered with, and never an empty set for want of one.

**Proof sketch.** Every frame hangs on those below it, so the label of a frame was not entered
below (`Threaded.nodup_left`, `Coherent.not_mem_path`). The stack starts with one frame, and what
is put there later is paid for by a rule that is entered (`steps_le`). A rule that was entered is
on the path or has a known closure from then on, so it is not entered again (`charges_iff`). The
target's frame is the first; what was seen is known when nothing is left to do
(`Coherent.isCached_target`). -/
theorem ends_with_target (d : Dependencies) (external : LabelSet) (m : Memo) (target : Label) :
    let walk := fun steps => (start target m).run d external steps
    let entered := fun steps => (start target m).charges d external Memo.expanded steps
    (∀ steps, (∀ label, label ∈ (walk steps).path ↔ Frame.leave label ∈ (walk steps).stack) ∧
      ((walk steps).stack.filterMap Frame.left?).Nodup ∧
      ∀ label rest, (walk steps).stack = .enter label :: rest → label ∉ (walk steps).path) ∧
    ∃ steps, (∀ earlier < steps, (walk earlier).stack ≠ []) ∧ (walk steps).stack = [] ∧
      steps ≤ 1 + ((entered steps).map fun rule => 1 + ((d.visit rule).getD []).length).sum ∧
      (entered steps).Nodup ∧ (∀ rule ∈ entered steps, (d.visit rule).isSome) ∧
      (walk steps).path = ∅ ∧
      ∃ closure, (walk steps).memo.cells[target]? = some closure ∧
        (m.cells[target]? = none →
          m.resolve d external target = (closure, (walk steps).memo)) := by
  intro walk entered
  have hcoherent : ∀ steps, (walk steps).Coherent d target :=
    fun steps => (coherent_start d target m).run steps
  refine ⟨fun steps => ⟨(hcoherent steps).mem_path, (hcoherent steps).threaded.nodup_left,
    fun label rest hstack => (hcoherent steps).not_mem_path hstack⟩, ?_⟩
  -- the first step at which nothing is left to do
  obtain ⟨steps, hbound, hend, hlasts⟩ := exists_end (stack_run_stepBound target m)
  have hpaid := steps_le steps hlasts
  obtain ⟨hnodup, -, hdone⟩ :=
    charges_iff (@countsMoves_expanded d external) steps (coherent_start d target m)
  obtain ⟨closure, hcell⟩ := Memo.isCached_iff.mp ((hcoherent steps).isCached_target hend)
  refine ⟨steps, hlasts, hend, ?_, hnodup, fun rule hrule => ?_, ?_, closure, hcell, fun hnew => ?_⟩
  · rw [hend] at hpaid
    exact hpaid
  · exact ((hdone rule).mpr (.inl hrule)).1
  · exact (hcoherent steps).path_eq_empty hend
  · -- an answer takes the bounded number of steps, and those after the last one change nothing
    have hall : (start target m).run d external d.stepBound = walk steps :=
      run_eq_of_le hend hbound
    rw [Memo.resolve_of_new hnew, hall]
    simp only [hcell, Option.getD_some]

/-- Of two rules that depend on each other, a walk from one ends, and answers the question. -/
theorem ends_in_cycleOfTwo :
    let walk := fun steps => (start ⟨"//a:a"⟩ Memo.empty).run Memo.cycleOfTwo {⟨"@z//:z"⟩} steps
    Memo.empty.cells[(⟨"//a:a"⟩ : Label)]? = none ∧
      ∃ steps closure, (walk steps).stack = [] ∧ (walk steps).path = ∅ ∧
        Memo.empty.resolve Memo.cycleOfTwo {⟨"@z//:z"⟩} ⟨"//a:a"⟩ =
          (closure, (walk steps).memo) := by
  intro walk
  have hnew : Memo.empty.cells[(⟨"//a:a"⟩ : Label)]? = none := by simp [Memo.empty]
  obtain ⟨-, steps, -, hend, -, -, -, hpath, closure, -, hanswer⟩ :=
    ends_with_target Memo.cycleOfTwo {⟨"@z//:z"⟩} Memo.empty ⟨"//a:a"⟩
  exact ⟨hnew, steps, closure, hend, hpath, hanswer hnew⟩

end Walk

end TargetGraph
