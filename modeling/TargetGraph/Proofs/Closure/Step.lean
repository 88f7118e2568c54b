import TargetGraph.Proofs.Closure.Reach

set_option relaxedAutoImplicit false
set_option autoImplicit false

/-!
# Steps of a closure walk

What a single step of a walk can do, and why a walk comes to an end.

## Main definitions

* `TargetGraph.Walk.Move` — the four kinds of steps.
* `TargetGraph.Walk.potential` — how many steps a walk may still take.

## Main results

* `TargetGraph.Walk.move_step` — every step is of one of the four kinds.
* `TargetGraph.Walk.run_induction` — what every step keeps, a run keeps.
* `TargetGraph.Walk.stack_run_stepBound` — the bound on the number of steps is large enough: at the
  end of a run nothing is left to do.

## Design

A step may put many frames on the stack, so the stack alone does not shrink. The potential counts,
besides the frames, what every rule that was never entered would still cost: one step for leaving it
and one for each of its dependencies. Entering a rule pays for the new frames out of that.
-/

namespace TargetGraph

namespace Memo

variable {m : Memo} {label other : Label} {closure : LabelSet}

/-- A closure is known when there is one in the cells. -/
theorem isCached_iff : m.isCached label = true ↔ ∃ closure, m.cells[label]? = some closure := by
  rw [isCached, Std.ExtTreeMap.contains_eq_isSome_getElem?, Option.isSome_iff_exists]

/-- A closure is not known when there is none in the cells. -/
theorem isCached_eq_false_iff : m.isCached label = false ↔ m.cells[label]? = none := by
  rw [isCached, ← Bool.not_eq_true, LabelMap.not_contains_iff]

/-- What is known after a closure was offered: that closure only where none was known before. A
closure that is known is never replaced. -/
theorem getElem?_fill : (m.fill label closure).cells[other]? =
    if label = other ∧ m.isCached label = false then some closure else m.cells[other]? := by
  unfold fill
  cases hcached : m.isCached label with
  | true => simp
  | false => simp [LabelMap.getElem?_insert]

/-- After a closure was offered for a label, one is known for it and for all labels before, whether
it was taken or not. -/
theorem isCached_fill : (m.fill label closure).isCached other = true ↔
    other = label ∨ m.isCached other = true := by
  rw [isCached_iff, isCached_iff, getElem?_fill]
  split
  · next h => simp [h.1]
  · next h =>
    constructor
    · exact Or.inr
    · rintro (rfl | hknown)
      · refine isCached_iff.mp ?_
        simpa using h
      · exact hknown

/-- What is known stays known. -/
theorem getElem?_fill_of_some (h : m.cells[other]? = some closure) {offered : LabelSet} :
    (m.fill label offered).cells[other]? = some closure := by
  rw [getElem?_fill, if_neg, h]
  rintro ⟨rfl, hnew⟩
  rw [isCached_eq_false_iff, h] at hnew
  cases hnew

end Memo

/-- The label that a frame is about. -/
def Frame.label : Frame → Label
  | .enter label => label
  | .leave label => label

namespace Walk

variable {d : Dependencies} {external : LabelSet} {w : Walk} {label target : Label}

/-! ### The four kinds of steps -/

/-- What a step can do with a walk. -/
inductive Move (d : Dependencies) (external : LabelSet) (w : Walk) : Walk → Prop
  /-- The next label is being walked already, or its closure is known. -/
  | skip (label : Label) (rest : List Frame) (hstack : w.stack = .enter label :: rest)
      (hseen : label ∈ w.path ∨ w.memo.isCached label = true) :
      Move d external w { w with stack := rest }
  /-- The next label is a new leaf. -/
  | leaf (label : Label) (rest : List Frame) (hstack : w.stack = .enter label :: rest)
      (hpath : label ∉ w.path) (hnew : w.memo.isCached label = false)
      (hvisit : d.visit label = none) :
      Move d external w
        { w with stack := rest, memo := w.memo.fill label (leafClosure external label) }
  /-- The next label is a new rule. -/
  | expand (label : Label) (rest : List Frame) (deps : List Label)
      (hstack : w.stack = .enter label :: rest)
      (hpath : label ∉ w.path) (hnew : w.memo.isCached label = false)
      (hvisit : d.visit label = some deps) :
      Move d external w
        { stack := (deps.filter fun dep => !(w.path.insert label).contains dep).map Frame.enter ++
            .leave label :: rest
          path := w.path.insert label
          memo := { w.memo with expanded := w.memo.expanded + 1 } }
  /-- The dependencies of a rule are done. -/
  | leave (label : Label) (rest : List Frame) (hstack : w.stack = .leave label :: rest) :
      Move d external w
        { stack := rest
          path := w.path.erase label
          memo := w.memo.fill label (LabelSet.unionAll
            (((d.visit label).getD []).filterMap fun dep => w.memo.cells[dep]?)) }

/-- A walk that is not over makes one of the four moves. With this, nothing else has to look into
the step.

**Proof sketch.** By the frame on top. One that enters a label is passed over if the label is on the
path or has a known closure, and otherwise the label is a leaf or is visited. One that leaves a
label leaves it. -/
theorem move_step (h : w.stack ≠ []) : Move d external w (w.step d external) := by
  unfold step
  split
  · next hstack => exact absurd hstack h
  · next label rest hstack =>
    split
    · next hseen => exact .skip label rest hstack (by simpa using hseen)
    · next hseen =>
      have hnot : label ∉ w.path ∧ w.memo.isCached label = false := by simpa using hseen
      split
      · next hvisit => exact .leaf label rest hstack hnot.1 hnot.2 hvisit
      · next deps hvisit => exact .expand label rest deps hstack hnot.1 hnot.2 hvisit
  · next label rest hstack => exact .leave label rest hstack

/-- What every move keeps, a run keeps.

**Proof sketch.** Induction on the number of steps; a walk that is over stays as it is. -/
theorem run_induction {P : Walk → Prop} (hmove : ∀ w w', Move d external w w' → P w → P w') :
    ∀ (steps : Nat) (w : Walk), P w → P (w.run d external steps)
  | 0, _, h => h
  | steps + 1, w, h => by
    unfold run
    split
    · exact h
    · next hne =>
      have hstack : w.stack ≠ [] := by simpa using hne
      exact run_induction hmove steps _ (hmove _ _ (move_step hstack) h)

/-! ### The end of a walk -/

/-- What a rule costs once it is entered: a step for leaving it, and one for each dependency. -/
def cost (d : Dependencies) (rule : Label) : Nat :=
  1 + ((d.visit rule).getD []).length

/-- The label was not entered so far, and its closure is not known. -/
def isFresh (w : Walk) (label : Label) : Bool :=
  !w.memo.isCached label && !w.path.contains label

/-- A bound on the number of steps that are left: one for each frame, and what the rules cost that
were not entered so far. -/
def potential (d : Dependencies) (w : Walk) : Nat :=
  w.stack.length + weightWhere (cost d) w.isFresh d.rules

/-- A label is fresh when it is neither known nor on the path. -/
theorem isFresh_iff : w.isFresh label = true ↔ w.memo.isCached label = false ∧ label ∉ w.path := by
  rw [isFresh, Bool.and_eq_true, Bool.not_eq_true', Bool.not_eq_true',
    Std.ExtTreeSet.mem_iff_contains, Bool.not_eq_true]

/-- A walk has used up some potential when its stack is shorter and no label became fresh. -/
theorem potential_lt_of_length {w' : Walk}
    (hfresh : ∀ rule, w'.isFresh rule = true → w.isFresh rule = true)
    (hlength : w'.stack.length < w.stack.length) : w'.potential d < w.potential d :=
  Nat.add_lt_add_of_lt_of_le hlength (weightWhere_le hfresh d.rules)

/-- A walk has used up some potential when its stack grew by less than a rule costs that is fresh no
more, and no label became fresh.

**Proof sketch.** The potential is the length of the stack and what the fresh rules cost. The second
of these went down by the cost of the rule at least (`weightWhere_add_le`), and the first went up by
less. -/
theorem potential_lt_of_cost {w' : Walk}
    (hfresh : ∀ rule, w'.isFresh rule = true → w.isFresh rule = true)
    (hbefore : w.isFresh label = true) (hafter : w'.isFresh label = false) (hrule : label ∈ d.rules)
    (hlength : w'.stack.length < w.stack.length + cost d label) :
    w'.potential d < w.potential d := by
  have hcost := weightWhere_add_le (cost d) hfresh hafter hbefore hrule
  unfold potential
  omega

/-- Every move uses up some of the potential.

**Proof sketch.** Three kinds of moves take a frame off the stack and put none there, and no label
becomes fresh by them: a label leaves the path only when its closure becomes known. A rule that is
entered is fresh no more, and it costs more than the frames that it puts on the stack
(`potential_lt_of_cost`). -/
theorem Move.potential_lt {w' : Walk} (h : Move d external w w') :
    w'.potential d < w.potential d := by
  cases h with
  | skip label rest hstack hseen =>
    exact potential_lt_of_length (fun _ hfresh => hfresh) (by simp [hstack])
  | leaf label rest hstack hpath hnew hvisit =>
    refine potential_lt_of_length (fun rule hfresh => ?_) (by simp [hstack])
    rw [isFresh_iff, ← Bool.not_eq_true, Memo.isCached_fill] at hfresh
    rw [isFresh_iff, ← Bool.not_eq_true]
    exact ⟨fun hcached => hfresh.1 (.inr hcached), hfresh.2⟩
  | expand label rest deps hstack hpath hnew hvisit =>
    -- the rule is fresh before the step and on the path after it, which frees what it costs
    refine potential_lt_of_cost (fun rule hfresh => ?_)
      (isFresh_iff.mpr ⟨hnew, hpath⟩) ?_ (d.mem_rules label (by simp [hvisit])) ?_
    · rw [isFresh_iff] at hfresh ⊢
      exact ⟨hfresh.1, fun hon => hfresh.2 (LabelSet.mem_insert_iff.mpr (.inr hon))⟩
    · rw [← Bool.not_eq_true, isFresh_iff]
      simp
    · have hfilter := List.length_filter_le (fun dep => !(w.path.insert label).contains dep) deps
      simp only [cost, hvisit, hstack, Option.getD_some, List.length_append, List.length_map,
        List.length_cons]
      omega
  | leave label rest hstack =>
    refine potential_lt_of_length (fun rule hfresh => ?_) (by simp [hstack])
    rw [isFresh_iff, ← Bool.not_eq_true, Memo.isCached_fill, not_or,
      LabelSet.mem_erase_iff] at hfresh
    rw [isFresh_iff, ← Bool.not_eq_true]
    exact ⟨hfresh.1.2, fun hon => hfresh.2 ⟨hfresh.1.1, hon⟩⟩

/-- A run with as many steps as the potential asks for ends with nothing left to do.

**Proof sketch.** Induction on the number of steps, each of which uses up some potential
(`Move.potential_lt`). Without potential there are no frames. -/
theorem stack_run_eq_nil : ∀ (steps : Nat) (w : Walk), w.potential d ≤ steps →
    (w.run d external steps).stack = []
  | 0, w, h => by
    have hlength : w.stack.length = 0 := by
      unfold potential at h
      omega
    exact List.length_eq_zero_iff.mp hlength
  | steps + 1, w, h => by
    unfold run
    split
    · next hempty => simpa using hempty
    · next hne =>
      have hstack : w.stack ≠ [] := by simpa using hne
      have hmove : Move d external w (w.step d external) := move_step hstack
      have hlt := hmove.potential_lt
      exact stack_run_eq_nil steps _ (by omega)

/-- The bound on the steps is the cost of the target's frame and of all rules.

**Proof sketch.** The bound is summed up from the left. For the induction on the rules the sum
starts anywhere. -/
theorem stepBound_eq (d : Dependencies) :
    d.stepBound = 1 + weightWhere (cost d) (fun _ => true) d.rules := by
  have hfold : ∀ (rules : List Label) (start : Nat),
      rules.foldl (fun n rule => n + 1 + ((d.visit rule).getD []).length) start =
        start + weightWhere (cost d) (fun _ => true) rules := by
    intro rules
    induction rules with
    | nil => exact fun _ => rfl
    | cons rule rest ih =>
      intro start
      simp only [List.foldl_cons, ih, weightWhere, if_true, cost]
      omega
  exact hfold d.rules 1

/-- **A walk from any label, with anything known, is over within the bound on the steps.** -/
theorem stack_run_stepBound (target : Label) (m : Memo) :
    ((start target m).run d external d.stepBound).stack = [] := by
  refine stack_run_eq_nil _ _ ?_
  rw [stepBound_eq]
  exact Nat.add_le_add_left (weightWhere_le (fun _ _ => rfl) d.rules) 1

end Walk

end TargetGraph
