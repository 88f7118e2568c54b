import TargetGraph.Proofs.Closure.Coherence

set_option relaxedAutoImplicit false
set_option autoImplicit false

/-!
# What a resolved closure holds

The closures that walks leave in a memo, compared with reachability.

## Main definitions

* `TargetGraph.Memo.Sound`, `TargetGraph.Memo.Complete` — the known closures hold only, or all, that
  they should.
* `TargetGraph.Walk.Carries` — a leaf is on its way into the closure of the target.
* `TargetGraph.Memo.after` — the memo after several closures were asked for.

## Main results

* `TargetGraph.Memo.getElem?_resolve` — the answer is the closure that the memo holds afterwards.
* `TargetGraph.Memo.Sound.resolve`, `TargetGraph.Memo.Complete.resolve` — a walk keeps the known
  closures sound; without cycles it keeps them complete, too.
* `TargetGraph.Memo.resolve_exact_of_new_and_sound_after` — with cycles, the closure of the label
  that was asked for is complete if nothing that it reaches was known, and no answer ever holds too
  much.

## Design

On a cycle a rule may be left before one of its dependencies, so the closures of labels inside the
cycle may be incomplete, and completeness of the target cannot be shown label by label. The
invariant follows each leaf instead: once its closure is known, the leaf is in the closure of a
dependency of a rule on the path, and moves down the path as the rules are left, until it is in the
target's closure.
-/

namespace TargetGraph

open Relation

variable {d : Dependencies} {external : LabelSet} {w w' : Walk} {m : Memo} {label target : Label}

/-- What is collected for a label: the labels of the known closures of its dependencies. A
dependency without a known closure adds nothing, and a label without dependencies collects nothing.

**Proof sketch.** A label is in a union when it is in one of the sets (`LabelSet.mem_unionAll`).
These are the closures that the memo has for dependencies, and there are none for a label that is
not visited. -/
theorem mem_collected {leaf : Label} :
    leaf ∈ LabelSet.unionAll (((d.visit label).getD []).filterMap fun dep => m.cells[dep]?) ↔
      ∃ dep closure, d.DependsOn label dep ∧ m.cells[dep]? = some closure ∧ leaf ∈ closure := by
  rw [LabelSet.mem_unionAll]
  constructor
  · rintro ⟨closure, hpart, hleaf⟩
    obtain ⟨dep, hdep, hcell⟩ := List.mem_filterMap.mp hpart
    cases hvisit : d.visit label with
    | none =>
      rw [hvisit] at hdep
      cases hdep
    | some deps =>
      rw [hvisit] at hdep
      exact ⟨dep, closure, ⟨deps, hvisit, hdep⟩, hcell, hleaf⟩
  · rintro ⟨dep, closure, ⟨deps, hvisit, hdep⟩, hcell, hleaf⟩
    exact ⟨closure, List.mem_filterMap.mpr ⟨dep, by simpa [hvisit] using hdep, hcell⟩, hleaf⟩

namespace Memo

/-! ### Finished walks -/

/-- What a walk starts with and every move of a coherent walk keeps holds when it is over.

**Proof sketch.** A walk is over within the bound on its steps (`Walk.stack_run_stepBound`) and
stays coherent on the way, so coherence can be used in each step of the induction
(`Walk.run_induction`). -/
theorem finished_induction {P : Walk → Prop} (hstart : P (Walk.start target m))
    (hmove : ∀ w w', w.Coherent d target → Walk.Move d external w w' → P w → P w') :
    let finished := (Walk.start target m).run d external d.stepBound
    finished.stack = [] ∧ finished.Coherent d target ∧ P finished := by
  refine ⟨Walk.stack_run_stepBound target m, ?_⟩
  refine Walk.run_induction (P := fun w => w.Coherent d target ∧ P w) ?_ _ _
    ⟨Walk.coherent_start d target m, hstart⟩
  rintro w w' hw ⟨hcoherent, hP⟩
  exact ⟨hcoherent.move hw, hmove w w' hcoherent hw hP⟩

/-- A closure that is known is the answer. -/
theorem resolve_of_known {closure : LabelSet} (h : m.cells[target]? = some closure) :
    m.resolve d external target = (closure, m) := by
  simp [resolve, h]

/-- Otherwise the answer is what a walk finds. -/
theorem resolve_of_new (h : m.cells[target]? = none) :
    m.resolve d external target =
      let after := ((Walk.start target m).run d external d.stepBound).memo
      ((after.cells[target]?).getD ∅, after) := by
  simp [resolve, h]

/-- **The answer is the closure that the memo holds for the target afterwards.** A walk never ends
without one.

**Proof sketch.** A closure that was known is the answer, and stays. Otherwise the walk that is over
has a closure for its target (`Walk.Coherent.isCached_target`). -/
theorem getElem?_resolve (m : Memo) (d : Dependencies) (external : LabelSet) (target : Label) :
    (m.resolve d external target).2.cells[target]? = some (m.resolve d external target).1 := by
  cases hcell : m.cells[target]? with
  | some closure =>
    rw [resolve_of_known hcell]
    exact hcell
  | none =>
    rw [resolve_of_new hcell]
    obtain ⟨hend, hcoherent, -⟩ :=
      @finished_induction d external m target (fun _ => True) trivial fun _ _ _ _ _ => trivial
    obtain ⟨closure, hclosure⟩ := isCached_iff.mp (hcoherent.isCached_target hend)
    simp only
    rw [hclosure]
    rfl

/-- What every move of a coherent walk keeps of the memo, asking for a closure keeps.

**Proof sketch.** A closure that is known leaves the memo as it is (`resolve_of_known`). For any
other the memo is the one of the walk when it is over (`finished_induction`). -/
theorem resolve_induction {P : Memo → Prop}
    (hmove : ∀ w w', w.Coherent d target → Walk.Move d external w w' → P w.memo → P w'.memo)
    (h : P m) : P (m.resolve d external target).2 := by
  cases hcell : m.cells[target]? with
  | some closure =>
    rw [resolve_of_known hcell]
    exact h
  | none =>
    rw [resolve_of_new hcell]
    exact (finished_induction (P := fun w => P w.memo) h hmove).2.2

/-! ### Nothing too much -/

/-- The closures known for the labels of a region hold only what these need. -/
def Sound (d : Dependencies) (external : LabelSet) (region : Label → Prop) (m : Memo) : Prop :=
  ∀ label closure, region label → m.cells[label]? = some closure →
    ∀ leaf ∈ closure, d.Needs external label leaf

/-- A sound closure can be added. Where one is known already, nothing is. -/
theorem Sound.fill {region : Label → Prop} {closure : LabelSet} (h : m.Sound d external region)
    (hnew : region label → ∀ leaf ∈ closure, d.Needs external label leaf) :
    (m.fill label closure).Sound d external region := by
  intro other known hregion hcell
  rw [getElem?_fill] at hcell
  split at hcell
  · next heq =>
    cases hcell
    rw [← heq.1] at hregion ⊢
    exact hnew hregion
  · exact h other known hregion hcell

/-- Moves add sound closures only, where the dependencies of labels of the region belong to it.

**Proof sketch.** Moves that fill in no closure are no matter. A leaf has what it needs. What is
collected for a rule comes from a dependency, which needs it, so the rule needs it too. -/
theorem Sound.move {region : Label → Prop}
    (hregion : ∀ rule dep, region rule → d.DependsOn rule dep → region dep)
    (h : w.memo.Sound d external region) (hmove : Walk.Move d external w w') :
    w'.memo.Sound d external region := by
  cases hmove with
  | skip label rest hstack hseen => exact h
  | leaf label rest hstack hpath hnew hvisit =>
    exact h.fill fun _ leaf hleaf => (Dependencies.needs_iff_of_leaf hvisit).mpr hleaf
  | expand label rest deps hstack hpath hnew hvisit => exact h
  | leave label rest hstack =>
    refine h.fill fun hlabel leaf hleaf => ?_
    obtain ⟨dep, closure, hdep, hcell, hin⟩ := mem_collected.mp hleaf
    obtain ⟨hext, hvisit, hreach⟩ := h dep closure (hregion label dep hlabel hdep) hcell leaf hin
    exact ⟨hext, hvisit, ReflTransGen.head hdep hreach⟩

/-- Asking for a closure adds sound closures only. -/
theorem Sound.resolve {region : Label → Prop}
    (hregion : ∀ rule dep, region rule → d.DependsOn rule dep → region dep)
    (h : m.Sound d external region) : (m.resolve d external target).2.Sound d external region :=
  resolve_induction (P := fun m => m.Sound d external region)
    (fun _ _ _ hmove hw => Sound.move hregion hw hmove) h

/-- With sound closures, the answer for a label of the region holds only what that needs. -/
theorem Sound.needs_of_mem {region : Label → Prop}
    (hregion : ∀ rule dep, region rule → d.DependsOn rule dep → region dep)
    (h : m.Sound d external region) (htarget : region target) {leaf : Label}
    (hleaf : leaf ∈ (m.resolve d external target).1) : d.Needs external target leaf :=
  h.resolve hregion target _ htarget (getElem?_resolve m d external target) leaf hleaf

/-! ### Nothing too little, without cycles -/

/-- The known closures hold all that their labels need. -/
def Complete (d : Dependencies) (external : LabelSet) (m : Memo) : Prop :=
  ∀ label closure, m.cells[label]? = some closure →
    ∀ leaf, d.Needs external label leaf → leaf ∈ closure

/-- A complete closure can be added. -/
theorem Complete.fill {closure : LabelSet} (h : m.Complete d external)
    (hnew : ∀ leaf, d.Needs external label leaf → leaf ∈ closure) :
    (m.fill label closure).Complete d external := by
  intro other known hcell
  rw [getElem?_fill] at hcell
  split at hcell
  · next heq =>
    cases hcell
    rw [← heq.1]
    exact hnew
  · exact h other known hcell

/-- Without cycles, all dependencies of a rule are known when it is left.

**Proof sketch.** A dependency was seen by then, as none is pending any more. If it were on the
path, it would lead to the rule that depends on it (`Walk.Hangs.descends`), and that is a cycle. -/
theorem isCached_of_leave {rest : List Frame}
    (hacyclic : ∀ label, ¬ TransGen d.DependsOn label label)
    (hc : w.Coherent d target) (hstack : w.stack = .leave label :: rest) {dep : Label}
    (hdep : d.DependsOn label dep) : w.memo.isCached dep = true := by
  have hserved := hc.served
  have hthreaded := hc.threaded
  rw [hstack] at hserved hthreaded
  rcases hserved.1 dep hdep with (hcached | hon) | hpending
  · exact hcached
  · -- the dependency is still being walked, so it leads to the rule that depends on it
    have hleft := (hc.mem_path dep).mp hon
    rw [hstack] at hleft
    rcases List.mem_cons.mp hleft with heq | hbelow
    · cases heq
      exact absurd (TransGen.single hdep) (hacyclic _)
    · exact absurd ((hthreaded.1.descends dep hbelow).tail hdep) (hacyclic dep)
  · cases hpending

/-- Without cycles, moves add complete closures only.

**Proof sketch.** What a rule needs, one of its dependencies needs, and the closure of that one is
known when the rule is left (`isCached_of_leave`). So it is among what is collected. -/
theorem Complete.move (hacyclic : ∀ label, ¬ TransGen d.DependsOn label label)
    (hc : w.Coherent d target) (h : w.memo.Complete d external)
    (hmove : Walk.Move d external w w') :
    w'.memo.Complete d external := by
  cases hmove with
  | skip label rest hstack hseen => exact h
  | leaf label rest hstack hpath hnew hvisit =>
    exact h.fill fun leaf hneeds => (Dependencies.needs_iff_of_leaf hvisit).mp hneeds
  | expand label rest deps hstack hpath hnew hvisit => exact h
  | leave label rest hstack =>
    refine h.fill fun leaf hneeds => mem_collected.mpr ?_
    have hthreaded := hc.threaded
    rw [hstack] at hthreaded
    obtain ⟨deps, hvisit⟩ := Option.ne_none_iff_exists'.mp (hthreaded.1.rule label rfl)
    obtain ⟨dep, hmem, hdepNeeds⟩ := (Dependencies.needs_iff_of_rule hvisit).mp hneeds
    have hdep := (Dependencies.dependsOn_iff_of_visit hvisit).mpr hmem
    obtain ⟨closure, hcell⟩ := isCached_iff.mp (isCached_of_leave hacyclic hc hstack hdep)
    exact ⟨dep, closure, hdep, hcell, h dep closure hcell leaf hdepNeeds⟩

/-- Without cycles, asking for a closure adds complete closures only. -/
theorem Complete.resolve (hacyclic : ∀ label, ¬ TransGen d.DependsOn label label)
    (h : m.Complete d external) : (m.resolve d external target).2.Complete d external :=
  resolve_induction (P := fun m => m.Complete d external)
    (fun _ _ hc hmove hw => Complete.move hacyclic hc hw hmove) h

end Memo

/-! ### Nothing too little for the target, with cycles -/

namespace Walk

/-- Whatever a label reached from the target depends on was seen, once its closure is known. -/
def Closed (d : Dependencies) (target : Label) (w : Walk) : Prop :=
  ∀ label dep, d.Reaches target label → w.memo.isCached label = true → d.DependsOn label dep →
    w.Seen dep

/-- Whatever a label depends on was seen, when the closure of the label becomes known. This holds on
cycles too, where a dependency that is on the path counts as seen.

**Proof sketch.** A leaf depends on nothing. A rule that is left is served, and nothing is pending
above it. -/
theorem Coherent.seen_of_new {dep : Label} (hc : w.Coherent d target)
    (hmove : Move d external w w') (hnew : w.memo.isCached label = false)
    (hcached : w'.memo.isCached label = true) (hdep : d.DependsOn label dep) : w'.Seen dep := by
  have hmono : w.Seen dep → w'.Seen dep := hmove.seen_mono
  have hserved := hc.served
  rw [← Bool.not_eq_true] at hnew
  cases hmove with
  | skip _ rest hstack hseen => exact absurd hcached hnew
  | leaf leaf rest hstack hpath _ hvisit =>
    obtain rfl := (Memo.isCached_fill.mp hcached).resolve_right hnew
    exact absurd hdep (Dependencies.not_dependsOn_of_leaf hvisit)
  | expand _ rest deps hstack hpath _ hvisit => exact absurd hcached hnew
  | leave rule rest hstack =>
    obtain rfl := (Memo.isCached_fill.mp hcached).resolve_right hnew
    rw [hstack] at hserved
    rcases hserved.1 dep hdep with hseen | hpending
    · exact hmono hseen
    · cases hpending

/-- Moves keep the known closures closed. -/
theorem Closed.move (hc : w.Coherent d target) (h : w.Closed d target)
    (hmove : Move d external w w') : w'.Closed d target := by
  intro other dep hreach hcached hdep
  cases hbefore : w.memo.isCached other with
  | true => exact hmove.seen_mono (h other dep hreach hbefore hdep)
  | false => exact hc.seen_of_new hmove hbefore hcached hdep

/-- When nothing is left to do, the closures of all that the target reaches are known.

**Proof sketch.** Induction on the way from the target. Its own closure is known, and what a label
with a known closure depends on was seen, which then means that it is known. -/
theorem Closed.isCached_of_reaches (hc : w.Coherent d target) (h : w.Closed d target)
    (hend : w.stack = []) (hreach : d.Reaches target label) : w.memo.isCached label = true := by
  induction hreach with
  | refl => exact hc.isCached_target hend
  | tail hbefore hdep ih => exact hc.isCached_of_seen hend (h _ _ hbefore ih hdep)

/-- A leaf is on its way into the closure of the target. -/
inductive Carries (d : Dependencies) (target : Label) (w : Walk) (leaf : Label) : Prop
  /-- It is in the closure of a dependency of a rule on the path, which takes it over when it is
  left. -/
  | along (rule dep : Label) (closure : LabelSet) (hleft : Frame.leave rule ∈ w.stack)
      (hdep : d.DependsOn rule dep) (hcell : w.memo.cells[dep]? = some closure)
      (hleaf : leaf ∈ closure)
  /-- It is in the closure of the target. -/
  | arrived (closure : LabelSet) (hcell : w.memo.cells[target]? = some closure)
      (hleaf : leaf ∈ closure)

/-- A leaf in the closure of the label of a frame that was just taken off the stack is carried
on. -/
theorem carries_of_hangs {leaf : Label} (frame : Frame) (closure : LabelSet)
    (hhangs : Hangs d target frame w.stack) (hcell : w.memo.cells[frame.label]? = some closure)
    (hleaf : leaf ∈ closure) : w.Carries d target leaf := by
  rcases hhangs.parent with ⟨_, heq⟩ | ⟨rule, hbelow, hdep⟩
  · exact .arrived closure (heq ▸ hcell) hleaf
  · exact .along rule frame.label closure hbelow hdep hcell hleaf

/-- A leaf stays carried while the rules to be left stay on the stack and closures stay known. -/
theorem Carries.mono {leaf : Label} (h : w.Carries d target leaf)
    (hstack : ∀ rule, Frame.leave rule ∈ w.stack → Frame.leave rule ∈ w'.stack)
    (hcells : ∀ (label : Label) (closure : LabelSet), w.memo.cells[label]? = some closure →
      w'.memo.cells[label]? = some closure) : w'.Carries d target leaf := by
  cases h with
  | along rule dep closure hleft hdep hcell hleaf =>
    exact .along rule dep closure (hstack rule hleft) hdep (hcells dep closure hcell) hleaf
  | arrived closure hcell hleaf => exact .arrived closure (hcells target closure hcell) hleaf

/-- All leaves that the target needs are carried, once their closures are known. -/
def CarriesAll (d : Dependencies) (external : LabelSet) (target : Label) (w : Walk) : Prop :=
  ∀ leaf, d.Needs external target leaf → w.memo.isCached leaf = true → w.Carries d target leaf

/-- Moves carry all leaves on.

**Proof sketch.** A new leaf is in its own closure, and its frame hangs on the path. When a rule is
left, all that its dependencies carried for it goes into its closure, and its own frame hangs on
what remains of the path. The other two kinds of moves take nothing off the path. -/
theorem CarriesAll.move (hc : w.Coherent d target) (h : w.CarriesAll d external target)
    (hmove : Move d external w w') : w'.CarriesAll d external target := by
  intro leaf hneeds hcached
  have hthreaded := hc.threaded
  cases hmove with
  | skip label rest hstack hseen =>
    exact Carries.mono (h leaf hneeds hcached) (by simp [hstack]) fun _ _ hcell => hcell
  | leaf label rest hstack hpath hnew hvisit =>
    rw [hstack] at hthreaded
    rcases Memo.isCached_fill.mp hcached with rfl | hbefore
    · refine carries_of_hangs (.enter leaf) (leafClosure external leaf) hthreaded.1 ?_
        (Dependencies.mem_leafClosure.mpr ⟨hneeds.1, rfl⟩)
      simp [Memo.getElem?_fill, Frame.label, hnew]
    · exact Carries.mono (h leaf hneeds hbefore) (by simp [hstack])
        fun _ _ hcell => Memo.getElem?_fill_of_some hcell
  | expand label rest deps hstack hpath hnew hvisit =>
    exact Carries.mono (h leaf hneeds hcached) (by simp +contextual [hstack]) fun _ _ hcell => hcell
  | leave label rest hstack =>
    have hnew := hc.new_of_leave hstack
    rw [hstack] at hthreaded
    rcases Memo.isCached_fill.mp hcached with rfl | hbefore
    · -- a label that is left is a rule, and no leaf
      exact absurd hneeds.2.1 (hthreaded.1.rule leaf rfl)
    · cases h leaf hneeds hbefore with
      | along rule dep closure hleft hdep hcell hleaf =>
        rw [hstack] at hleft
        rcases List.mem_cons.mp hleft with heq | hbelow
        · -- the rule that is left collects what its dependency has
          cases heq
          refine carries_of_hangs (.leave label) _ hthreaded.1 ?_
            (mem_collected.mpr ⟨dep, closure, hdep, hcell, hleaf⟩)
          simp [Memo.getElem?_fill, Frame.label, hnew]
        · exact .along rule dep closure hbelow hdep (Memo.getElem?_fill_of_some hcell) hleaf
      | arrived closure hcell hleaf =>
        exact .arrived closure (Memo.getElem?_fill_of_some hcell) hleaf

end Walk

namespace Memo

/-- Where nothing that the target reaches is known yet, the answer holds all that the target needs,
whatever cycles there are.

**Proof sketch.** When the walk is over, the closures of all that the target reaches are known
(`Walk.Closed.isCached_of_reaches`), so that each leaf that it needs is carried. With no rule left
on the stack, it has arrived. -/
theorem mem_resolve_of_new (hnew : ∀ label, d.Reaches target label → m.isCached label = false)
    {leaf : Label} (hneeds : d.Needs external target leaf) :
    leaf ∈ (m.resolve d external target).1 := by
  obtain ⟨hend, hcoherent, hclosed, hcarries⟩ := @finished_induction d external m target
    (fun w => w.Closed d target ∧ w.CarriesAll d external target)
    ⟨fun label _ hreach hcached _ => absurd hcached (by simp [Walk.start, hnew label hreach]),
      fun leaf hneeds hcached => absurd hcached (by simp [Walk.start, hnew leaf hneeds.2.2])⟩
    (fun _ _ hc hmove hw => ⟨hw.1.move hc hmove, hw.2.move hc hmove⟩)
  rw [resolve_of_new (isCached_eq_false_iff.mp (hnew target ReflTransGen.refl))]
  cases hcarries leaf hneeds (hclosed.isCached_of_reaches hcoherent hend hneeds.2.2) with
  | along rule dep closure hleft hdep hcell hleaf =>
    rw [hend] at hleft
    cases hleft
  | arrived closure hcell hleaf =>
    simp only
    rw [hcell]
    exact hleaf

/-! ### Several questions to one memo -/

/-- The memo after the closures of some labels were asked for, one after the other. -/
def after (m : Memo) (d : Dependencies) (external : LabelSet) (asked : List Label) : Memo :=
  asked.foldl (fun m target => (m.resolve d external target).2) m

/-- What asking for one closure keeps, asking for several keeps, one after the other. -/
theorem after_induction {P : Memo → Prop} (asked : List Label)
    (hresolve : ∀ m target, P m → P (m.resolve d external target).2) (h : P m) :
    P (m.after d external asked) := by
  induction asked generalizing m with
  | nil => exact h
  | cons target rest ih => exact ih (hresolve m target h)

/-- A memo that knows nothing is sound. -/
theorem sound_empty (region : Label → Prop) : Memo.empty.Sound d external region := by
  intro label closure _ hcell
  simp [Memo.empty] at hcell

/-- **Closures on any graph, cycles included.** If nothing that the target reaches is known, the
answer is exactly what the target needs: what is lost inside a cycle is not lost for the label that
was asked for. And whatever was asked before, no answer ever holds anything that its label does not
need.

**Proof sketch.** Every leaf that the target reaches is entered, since the labels with a known
closure stay closed under dependencies (`Walk.Closed`); from then on it is carried down the path
(`Walk.CarriesAll`), which ends in the target. That nothing else gets into a closure holds for each
move by itself (`Sound.move`). -/
theorem resolve_exact_of_new_and_sound_after (d : Dependencies) (external : LabelSet) :
    (∀ (m : Memo) (target : Label), (∀ label, d.Reaches target label → m.isCached label = false) →
      ∀ leaf, leaf ∈ (m.resolve d external target).1 ↔ d.Needs external target leaf) ∧
    ∀ (asked : List Label) (target leaf : Label),
      leaf ∈ ((Memo.empty.after d external asked).resolve d external target).1 →
        d.Needs external target leaf := by
  constructor
  · intro m target hnew leaf
    have hsound : m.Sound d external (d.Reaches target) := by
      intro label closure hreach hcell
      rw [isCached_eq_false_iff.mp (hnew label hreach)] at hcell
      cases hcell
    exact ⟨hsound.needs_of_mem (fun _ _ hreach hdep => hreach.tail hdep) ReflTransGen.refl,
      mem_resolve_of_new hnew⟩
  · intro asked target leaf hleaf
    have hsound : (Memo.empty.after d external asked).Sound d external fun _ => True :=
      after_induction asked (fun _ _ h => h.resolve fun _ _ _ _ => trivial) (sound_empty _)
    exact hsound.needs_of_mem (fun _ _ _ _ => trivial) trivial hleaf

/-- Two rules that depend on each other; the second one needs another label, too. -/
def cycleOfTwo : Dependencies where
  visit label :=
    if label = ⟨"//a:a"⟩ then some [⟨"//b:b"⟩]
    else if label = ⟨"//b:b"⟩ then some [⟨"//a:a"⟩, ⟨"@z//:z"⟩]
    else none
  rules := [⟨"//a:a"⟩, ⟨"//b:b"⟩]
  mem_rules label h := by
    by_cases ha : label = ⟨"//a:a"⟩
    · simp [ha]
    · by_cases hb : label = ⟨"//b:b"⟩
      · simp [hb]
      · simp [ha, hb] at h

/-- The label outside the cycle is found from the rule that does not name it. -/
theorem resolve_cycleOfTwo :
    (∀ label, cycleOfTwo.Reaches ⟨"//a:a"⟩ label → Memo.empty.isCached label = false) ∧
      ⟨"@z//:z"⟩ ∈ (Memo.empty.resolve cycleOfTwo {⟨"@z//:z"⟩} ⟨"//a:a"⟩).1 := by
  have hnew : ∀ label, cycleOfTwo.Reaches ⟨"//a:a"⟩ label → Memo.empty.isCached label = false :=
    fun label _ => by simp [Memo.empty, isCached]
  have hfirst : cycleOfTwo.DependsOn ⟨"//a:a"⟩ ⟨"//b:b"⟩ := ⟨_, rfl, by decide⟩
  have hsecond : cycleOfTwo.DependsOn ⟨"//b:b"⟩ ⟨"@z//:z"⟩ := ⟨_, rfl, by decide⟩
  refine ⟨hnew, ?_⟩
  refine ((resolve_exact_of_new_and_sound_after cycleOfTwo _).1 _ _ hnew _).mpr ⟨?_, rfl, ?_⟩
  · exact LabelSet.mem_singleton.mpr rfl
  · exact (ReflTransGen.single hfirst).tail hsecond

end Memo

end TargetGraph
