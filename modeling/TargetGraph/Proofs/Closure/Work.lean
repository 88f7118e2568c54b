import TargetGraph.Proofs.Closure.Resolve

set_option relaxedAutoImplicit false
set_option autoImplicit false

/-!
# The work of closure walks

Walks that share a memo never do anything twice: each closure is worked out once, and each rule has
its dependencies visited once, however often they are met and in whichever walk.

## Main definitions

* `TargetGraph.Memo.Closed` — the labels with a known closure are closed under dependencies.
* `TargetGraph.Walk.charges`, `TargetGraph.Memo.charges` — the labels for which a count of the memo
  is raised, in order.
* `TargetGraph.Memo.Tally` — a list has the labels that a count stands for, each once.
* `TargetGraph.Walk.CountsMoves` — a count goes up by one with each label whose work is done.

## Main results

* `TargetGraph.Memo.isCached_after_iff` — the closures that are known after some questions.
* `TargetGraph.Walk.countsMoves_computed`, `TargetGraph.Walk.countsMoves_expanded` — what one move
  of a coherent walk adds to the two counts.
* `TargetGraph.Memo.works_out_once_after` — the memo and its counts after any questions.
-/

namespace TargetGraph

open Relation

variable {d : Dependencies} {external : LabelSet} {w w' : Walk} {m : Memo} {path : LabelSet}
  {label target dep : Label} {asked : List Label}

/-! ### What is known -/

/-- Only labels that the target reaches become known in a walk for it.

**Proof sketch.** A closure becomes known for the label of the frame that is taken off the stack,
and every frame is about a label that the target reaches. -/
theorem Walk.Coherent.reached_of_new (hc : w.Coherent d target) (hmove : Walk.Move d external w w')
    (hnew : w.memo.isCached label = false) (hcached : w'.memo.isCached label = true) :
    d.Reaches target label := by
  have hthreaded := hc.threaded
  rw [← Bool.not_eq_true] at hnew
  cases hmove with
  | skip _ rest hstack hseen => exact absurd hcached hnew
  | leaf leaf rest hstack hpath _ hvisit =>
    obtain rfl := (Memo.isCached_fill.mp hcached).resolve_right hnew
    rw [hstack] at hthreaded
    exact hthreaded.1.reached
  | expand _ rest deps hstack hpath _ hvisit => exact absurd hcached hnew
  | leave rule rest hstack =>
    obtain rfl := (Memo.isCached_fill.mp hcached).resolve_right hnew
    rw [hstack] at hthreaded
    exact hthreaded.1.reached

/-- When nothing is left to do, the path is empty. -/
theorem Walk.Coherent.path_eq_empty (hc : w.Coherent d target) (hend : w.stack = []) :
    w.path = ∅ := by
  refine Std.ExtTreeSet.ext_mem fun label => ?_
  rw [hc.mem_path, hend]
  simp

namespace Memo

/-- Whatever a label with a known closure depends on has a known closure, too. -/
def Closed (d : Dependencies) (m : Memo) : Prop :=
  ∀ label dep, m.isCached label = true → d.DependsOn label dep → m.isCached dep = true

/-- A memo that knows nothing is closed. -/
theorem closed_empty : Memo.empty.Closed d := by
  intro label dep hcached
  simp [Memo.empty, isCached] at hcached

/-- In a closed memo, all that a label with a known closure reaches has a known closure. -/
theorem Closed.isCached_of_reaches (h : m.Closed d) (htarget : m.isCached target = true)
    (hreach : d.Reaches target label) : m.isCached label = true := by
  induction hreach with
  | refl => exact htarget
  | tail _ hdep ih => exact h _ _ ih hdep

/-- Asking for a closure keeps a memo closed: during the walk, what was seen is.

**Proof sketch.** During the walk, whatever a label with a known closure depends on was seen. That
is so at first, as the memo is closed, and when a closure becomes known
(`Walk.Coherent.seen_of_new`). When the walk is over, what was seen is known. -/
theorem Closed.resolve (h : m.Closed d) : (m.resolve d external target).2.Closed d := by
  cases hcell : m.cells[target]? with
  | some closure =>
    rw [resolve_of_known hcell]
    exact h
  | none =>
    obtain ⟨hend, hcoherent, hclosed⟩ := @finished_induction d external m target
      (fun w => ∀ label dep, w.memo.isCached label = true → d.DependsOn label dep → w.Seen dep)
      (fun label dep hcached hdep => .inl (h label dep hcached hdep))
      (fun w w' hc hmove hw label dep hcached hdep => by
        cases hbefore : w.memo.isCached label with
        | true => exact hmove.seen_mono (hw label dep hbefore hdep)
        | false => exact hc.seen_of_new hmove hbefore hcached hdep)
    rw [resolve_of_new hcell]
    exact fun label dep hcached hdep =>
      hcoherent.isCached_of_seen hend (hclosed label dep hcached hdep)

/-- A move changes no known closure: closures are only filled in where none is known. -/
theorem getElem?_move {closure : LabelSet} (hmove : Walk.Move d external w w')
    (h : w.memo.cells[label]? = some closure) : w'.memo.cells[label]? = some closure := by
  cases hmove with
  | skip _ rest hstack hseen => exact h
  | leaf leaf rest hstack hpath hnew hvisit => exact getElem?_fill_of_some h
  | expand rule rest deps hstack hpath hnew hvisit => exact h
  | leave rule rest hstack => exact getElem?_fill_of_some h

/-- **Asking for closures changes none that is known.** -/
theorem getElem?_after_of_some {closure : LabelSet} (h : m.cells[label]? = some closure)
    (asked : List Label) : (m.after d external asked).cells[label]? = some closure :=
  after_induction (P := fun m => m.cells[label]? = some closure) asked
    (fun _ _ hcell => resolve_induction (P := fun m => m.cells[label]? = some closure)
      (fun _ _ _ hmove => getElem?_move hmove) hcell) h

/-- The closures that are known after one question are those that were known before, and those of
all labels that the target reaches.

**Proof sketch.** No other becomes known in a move (`Walk.Coherent.reached_of_new`). What was known
stays known; the target is known in the end, and what it reaches is, too, as the memo is closed. -/
theorem Closed.isCached_resolve_iff (h : m.Closed d) :
    (m.resolve d external target).2.isCached label = true ↔
      m.isCached label = true ∨ d.Reaches target label := by
  constructor
  · refine resolve_induction
      (P := fun after => after.isCached label = true →
        m.isCached label = true ∨ d.Reaches target label)
      (fun w w' hc hmove hw hcached => ?_) Or.inl
    cases hbefore : w.memo.isCached label with
    | true => exact hw hbefore
    | false => exact .inr (hc.reached_of_new hmove hbefore hcached)
  · rintro (hcached | hreach)
    · obtain ⟨closure, hcell⟩ := isCached_iff.mp hcached
      exact isCached_iff.mpr ⟨closure, getElem?_after_of_some hcell [target]⟩
    · exact h.resolve.isCached_of_reaches
        (isCached_iff.mpr ⟨_, getElem?_resolve m d external target⟩) hreach

/-- **The closures that are known after some questions** are those that were known before, and those
of all labels that one of the targets reaches.

**Proof sketch.** Induction on the questions. The memo stays closed after each of them
(`Closed.resolve`), so that each adds what its target reaches. -/
theorem Closed.isCached_after_iff (h : m.Closed d) :
    (m.after d external asked).isCached label = true ↔
      m.isCached label = true ∨ ∃ target ∈ asked, d.Reaches target label := by
  induction asked generalizing m with
  | nil => simp [after]
  | cons target rest ih =>
    refine (ih h.resolve).trans ?_
    simp only [h.isCached_resolve_iff, List.mem_cons, exists_eq_or_imp, or_assoc]

end Memo

/-! ### What is counted -/

namespace Walk

/-- The label that a step is about, if the step raises the count. -/
def charged (count : Memo → Nat) (w w' : Walk) : Option Label :=
  if count w'.memo = count w.memo then none else w.stack.head?.map Frame.label

/-- The labels for which a run of at most `steps` steps raises the count, in order. -/
def charges (d : Dependencies) (external : LabelSet) (count : Memo → Nat) : Nat → Walk → List Label
  | 0, _ => []
  | steps + 1, w =>
    if w.stack.isEmpty then []
    else (w.charged count (w.step d external)).toList ++
      charges d external count steps (w.step d external)

end Walk

namespace Memo

/-- The labels for which some questions, one after the other, raise the count, in order. -/
def charges (d : Dependencies) (external : LabelSet) (count : Memo → Nat) :
    Memo → List Label → List Label
  | _, [] => []
  | m, target :: rest =>
    (if m.isCached target then []
      else (Walk.start target m).charges d external count d.stepBound) ++
      charges d external count (m.resolve d external target).2 rest

/-- The list has the labels that the count stands for, each once. -/
structure Tally (count : Memo → Nat) (done : Memo → LabelSet → Label → Prop) (charged : List Label)
    (m : Memo) (path : LabelSet) : Prop where
  /-- No label is charged twice. -/
  nodup : charged.Nodup
  /-- The labels are those for which the work is done. -/
  mem_iff : ∀ label, label ∈ charged ↔ done m path label
  /-- There are as many as the count says. -/
  count_eq : count m = charged.length

end Memo

/-- A move leaves the count and the work alone, or it raises the count by one, for a label for which
the work was not done before. -/
inductive Walk.Counted (count : Memo → Nat) (done : Memo → LabelSet → Label → Prop)
    (w w' : Walk) : Prop
  /-- Nothing is counted. -/
  | still (hcount : count w'.memo = count w.memo)
      (hdone : ∀ other, done w'.memo w'.path other ↔ done w.memo w.path other)
  /-- The label of the next frame is counted. -/
  | raised (label : Label) (hlabel : w.stack.head?.map Frame.label = some label)
      (hcount : count w'.memo = count w.memo + 1) (hnew : ¬done w.memo w.path label)
      (hdone : ∀ other, done w'.memo w'.path other ↔ other = label ∨ done w.memo w.path other)

/-- Every move of every coherent walk counts in this way. -/
def Walk.CountsMoves (d : Dependencies) (external : LabelSet) (count : Memo → Nat)
    (done : Memo → LabelSet → Label → Prop) : Prop :=
  ∀ target (w w' : Walk), w.Coherent d target → Walk.Move d external w w' → w.Counted count done w'

namespace Memo

section Tallies

variable {count : Memo → Nat} {done : Memo → LabelSet → Label → Prop} {charged labels : List Label}

/-- What is counted in a move is charged to its label.

**Proof sketch.** If the count stays, nothing is charged and the work that is done stays the same.
If it is raised, the work for the label was not done before, so the label is not in the list yet,
and comes to it with one more of the count. -/
theorem Tally.move (h : Tally count done charged w.memo w.path) (hmove : w.Counted count done w') :
    Tally count done (charged ++ (w.charged count w').toList) w'.memo w'.path := by
  cases hmove with
  | still hcount hdone =>
    rw [Walk.charged, if_pos hcount, Option.toList_none, List.append_nil]
    exact ⟨h.nodup, fun label => (h.mem_iff label).trans (hdone label).symm,
      hcount.trans h.count_eq⟩
  | raised label hlabel hcount hnew hdone =>
    rw [Walk.charged, if_neg (by omega), hlabel, Option.toList_some]
    refine ⟨?_, fun other => ?_, ?_⟩
    · refine List.nodup_append.mpr ⟨h.nodup, List.pairwise_singleton _ label, ?_⟩
      rintro other hother _ hsingle rfl
      obtain rfl := List.mem_singleton.mp hsingle
      exact hnew ((h.mem_iff _).mp hother)
    · rw [hdone, List.mem_append, List.mem_singleton, h.mem_iff, or_comm]
    · rw [hcount, h.count_eq, List.length_append, List.length_singleton]

/-- A run charges what it counts.

**Proof sketch.** Induction on the steps; each of them charges what it counts (`Tally.move`), and
coherence goes along with it. -/
theorem Tally.run (hmoves : Walk.CountsMoves d external count done) :
    ∀ (steps : Nat) (w : Walk) (charged : List Label),
    w.Coherent d target → Tally count done charged w.memo w.path →
      Tally count done (charged ++ w.charges d external count steps)
        (w.run d external steps).memo (w.run d external steps).path
  | 0, w, charged, _, h => by
    rw [Walk.charges, List.append_nil]
    exact h
  | steps + 1, w, charged, hc, h => by
    unfold Walk.charges Walk.run
    split
    · rwa [List.append_nil]
    · next hne =>
      have hmove : Walk.Move d external w (w.step d external) :=
        Walk.move_step (by simpa using hne)
      rw [← List.append_assoc]
      exact Tally.run hmoves steps _ _ (hc.move hmove) (h.move (hmoves _ _ _ hc hmove))

/-- A question charges what it counts. Between questions no label is on the path.

**Proof sketch.** A closure that is known is not walked for, and nothing is charged. Otherwise the
walk charges what it counts (`Tally.run`), and its path is empty in the end. -/
theorem Tally.resolve (hmoves : Walk.CountsMoves d external count done)
    (h : Tally count done charged m ∅) (target : Label) :
    Tally count done
      (charged ++ if m.isCached target then []
        else (Walk.start target m).charges d external count d.stepBound)
      (m.resolve d external target).2 ∅ := by
  split
  · next hcached =>
    obtain ⟨closure, hcell⟩ := isCached_iff.mp hcached
    rw [resolve_of_known hcell, List.append_nil]
    exact h
  · next hnew =>
    rw [Bool.not_eq_true, isCached_eq_false_iff] at hnew
    have hstart := Walk.coherent_start d target m
    obtain ⟨hend, hcoherent, -⟩ :=
      @finished_induction d external m target (fun _ => True) trivial fun _ _ _ _ _ => trivial
    have hrun := Tally.run hmoves d.stepBound (Walk.start target m) charged hstart h
    rw [hcoherent.path_eq_empty hend] at hrun
    rw [resolve_of_new hnew]
    exact hrun

/-- Questions charge what they count, one after the other. -/
theorem Tally.after (hmoves : Walk.CountsMoves d external count done)
    (h : Tally count done charged m ∅) (asked : List Label) :
    Tally count done (charged ++ m.charges d external count asked)
      (m.after d external asked) ∅ := by
  induction asked generalizing m charged with
  | nil =>
    rw [charges, List.append_nil]
    exact h
  | cons target rest ih =>
    rw [charges, ← List.append_assoc]
    exact ih (h.resolve hmoves target)

/-- A list of the same labels, each once, is the list that is charged, up to order. -/
theorem Tally.perm (h : Tally count done charged m path) (hnodup : labels.Nodup)
    (hmem : ∀ label, label ∈ labels ↔ done m path label) : charged.Perm labels :=
  (List.perm_ext_iff_of_nodup h.nodup hnodup).mpr fun label =>
    (h.mem_iff label).trans (hmem label).symm

end Tallies

/-! ### The two counts -/

/-- A new closure is counted. -/
theorem computed_fill_of_new {closure : LabelSet} (h : m.isCached label = false) :
    (m.fill label closure).computed = m.computed + 1 := by
  simp [fill, h]

/-- A closure is not counted as a visit to a rule. -/
theorem expanded_fill {closure : LabelSet} : (m.fill label closure).expanded = m.expanded := by
  unfold fill
  split <;> rfl

end Memo

namespace Walk

/-- The closure of the label is known. -/
def Computed (m : Memo) (_path : LabelSet) (label : Label) : Prop :=
  m.isCached label = true

/-- The label is a rule, and its dependencies were visited: it is on the path, or its closure is
known. -/
def Expanded (d : Dependencies) (m : Memo) (path : LabelSet) (label : Label) : Prop :=
  (d.visit label).isSome ∧ (m.isCached label = true ∨ label ∈ path)

/-- **Every move counts the closure that it works out**, which is a new one.

**Proof sketch.** A leaf is only worked out if it has no known closure. A rule that is left is on
the path until then, and no closure is known for labels on the path. The other moves work nothing
out. -/
theorem countsMoves_computed : CountsMoves d external Memo.computed Computed := by
  intro target w w' hc hmove
  cases hmove with
  | skip label rest hstack hseen => exact .still rfl fun _ => Iff.rfl
  | leaf label rest hstack hpath hnew hvisit =>
    exact .raised label (by rw [hstack]; rfl) (Memo.computed_fill_of_new hnew)
      (Bool.not_eq_true _ ▸ hnew) fun other => Memo.isCached_fill
  | expand label rest deps hstack hpath hnew hvisit => exact .still rfl fun _ => Iff.rfl
  | leave label rest hstack =>
    have hnew := hc.new_of_leave hstack
    exact .raised label (by rw [hstack]; rfl) (Memo.computed_fill_of_new hnew)
      (Bool.not_eq_true _ ▸ hnew) fun other => Memo.isCached_fill

/-- **Every move counts the rule that it enters**, which was not entered before.

**Proof sketch.** A rule is only entered if it is neither on the path nor known, and is on the path
from then on. When it is left it goes from the path to what is known, which counts as entered all
the same. A leaf becomes known, but is no rule. -/
theorem countsMoves_expanded : CountsMoves d external Memo.expanded (Expanded d) := by
  intro target w w' hc hmove
  cases hmove with
  | skip label rest hstack hseen => exact .still rfl fun _ => Iff.rfl
  | leaf label rest hstack hpath hnew hvisit =>
    refine .still Memo.expanded_fill fun other => and_congr_right fun hrule => ?_
    -- a leaf is no rule
    have hne : other ≠ label := by
      rintro rfl
      rw [hvisit] at hrule
      cases hrule
    rw [Memo.isCached_fill, or_iff_right hne]
  | expand label rest deps hstack hpath hnew hvisit =>
    refine .raised label (by rw [hstack]; rfl) rfl ?_ fun other => ?_
    · rintro ⟨_, hcached | hon⟩
      · rw [hnew] at hcached
        cases hcached
      · exact hpath hon
    · rw [Expanded, Expanded, LabelSet.mem_insert_iff, or_left_comm, and_or_left]
      refine or_congr_left (and_iff_right_of_imp ?_)
      rintro rfl
      rw [hvisit]
      rfl
  | leave label rest hstack =>
    refine .still Memo.expanded_fill fun other => and_congr_right fun _ => ?_
    -- the label goes from the path to the known closures
    have hon := hc.mem_path_of_leave hstack
    rw [Memo.isCached_fill, LabelSet.mem_erase_iff]
    by_cases heq : other = label
    · simp [heq, hon]
    · simp [heq]

end Walk

namespace Memo

/-- What is charged by any questions to a memo that knew nothing: at first nothing is done, and
nothing is counted. -/
theorem tally_after {count : Memo → Nat} {done : Memo → LabelSet → Label → Prop}
    (hmoves : Walk.CountsMoves d external count done) (hcount : count Memo.empty = 0)
    (hdone : ∀ label, ¬done Memo.empty ∅ label) (asked : List Label) :
    Tally count done (Memo.empty.charges d external count asked)
      (Memo.empty.after d external asked) ∅ := by
  have hstart : Tally count done [] Memo.empty ∅ :=
    ⟨List.nodup_nil, fun label => iff_of_false List.not_mem_nil (hdone label), hcount⟩
  exact hstart.after hmoves asked

/-- **Nothing is worked out twice**, whatever is asked, and whatever cycles there are. The closures
that are known after some questions are those of all labels that a target reaches. There are as many
of them as were worked out, and of these, as many belong to rules as rules had their dependencies
visited: both counts were raised once for each such label, and for no other. Asking for a closure
that is known changes nothing, and a closure that is known stays as it is, and is the answer from
then on.

**Proof sketch.** Whatever a label depends on was seen when the closure of the label becomes known
(`Walk.Coherent.seen_of_new`), so between walks the known labels are closed under dependencies. A
walk works out a closure for the label of the next frame only if there is none, and visits the
dependencies of a rule only if it is neither known nor on the path. Either adds the label to those
for which the count was raised, and so each label is added once. -/
theorem works_out_once_after (d : Dependencies) (external : LabelSet) (asked : List Label) :
    let m := Memo.empty.after d external asked
    let charged := fun count => Memo.empty.charges d external count asked
    let rules := m.cells.keys.filter fun label => (d.visit label).isSome
    (∀ label, m.isCached label = true ↔ ∃ target ∈ asked, d.Reaches target label) ∧
    (m.computed = m.cells.size ∧ (charged computed).Nodup ∧ (charged computed).Perm m.cells.keys) ∧
    (m.expanded = rules.length ∧ (charged expanded).Nodup ∧ (charged expanded).Perm rules) ∧
    (∀ target, m.isCached target = true → (m.resolve d external target).2 = m) ∧
    ∀ label closure, m.cells[label]? = some closure → ∀ later,
      let m' := m.after d external later
      m'.cells[label]? = some closure ∧ m'.resolve d external label = (closure, m') := by
  intro m charged rules
  have hempty : ∀ label, ¬Memo.empty.isCached label = true := fun label => by
    simp [Memo.empty, isCached]
  have hkeys : ∀ label, label ∈ m.cells.keys ↔ m.isCached label = true := fun label => by
    rw [Std.ExtTreeMap.mem_keys, isCached, Std.ExtTreeMap.contains_iff_mem]
  have hcomputed : Tally computed Walk.Computed (charged computed) m ∅ :=
    tally_after Walk.countsMoves_computed rfl hempty asked
  have hexpanded : Tally expanded (Walk.Expanded d) (charged expanded) m ∅ := by
    refine tally_after Walk.countsMoves_expanded rfl ?_ asked
    rintro label ⟨_, hcached | hon⟩
    · exact hempty label hcached
    · exact Std.ExtTreeSet.not_mem_empty hon
  -- between walks the path is empty, so what got done are the known closures
  have hall : (charged computed).Perm m.cells.keys :=
    hcomputed.perm Std.ExtTreeMap.nodup_keys hkeys
  have hrules : (charged expanded).Perm rules := by
    refine hexpanded.perm (Std.ExtTreeMap.nodup_keys.filter _) fun label => ?_
    rw [List.mem_filter, hkeys, and_comm, Walk.Expanded, or_iff_left Std.ExtTreeSet.not_mem_empty]
  refine ⟨fun label => ?_, ⟨?_, hcomputed.nodup, hall⟩, ⟨?_, hexpanded.nodup, hrules⟩,
    fun target hcached => ?_, fun label closure hcell later => ?_⟩
  · rw [closed_empty.isCached_after_iff, or_iff_right (hempty label)]
  · rw [hcomputed.count_eq, hall.length_eq, Std.ExtTreeMap.length_keys]
  · rw [hexpanded.count_eq, hrules.length_eq]
  · obtain ⟨closure, hcell⟩ := isCached_iff.mp hcached
    rw [resolve_of_known hcell]
  · have hlater : (m.after d external later).cells[label]? = some closure :=
      getElem?_after_of_some hcell later
    exact ⟨hlater, resolve_of_known hlater⟩

/-- Of two rules that depend on each other, both are known when one was asked for. Asking for the
other one changes nothing, and its closure stays what it is, whatever else is asked. -/
theorem work_cycleOfTwo :
    let m := Memo.empty.after cycleOfTwo {⟨"@z//:z"⟩} [⟨"//b:b"⟩]
    m.isCached ⟨"//a:a"⟩ = true ∧ (m.resolve cycleOfTwo {⟨"@z//:z"⟩} ⟨"//a:a"⟩).2 = m ∧
      ∃ closure, m.cells[(⟨"//a:a"⟩ : Label)]? = some closure ∧
        ∀ later, ((m.after cycleOfTwo {⟨"@z//:z"⟩} later).resolve cycleOfTwo {⟨"@z//:z"⟩}
          ⟨"//a:a"⟩).1 = closure := by
  intro m
  obtain ⟨hknown, _, _, hunchanged, hstays⟩ :=
    works_out_once_after cycleOfTwo {⟨"@z//:z"⟩} [⟨"//b:b"⟩]
  have hback : cycleOfTwo.DependsOn ⟨"//b:b"⟩ ⟨"//a:a"⟩ := ⟨_, rfl, by decide⟩
  have hcached : m.isCached ⟨"//a:a"⟩ = true :=
    (hknown _).mpr ⟨_, List.mem_singleton_self _, ReflTransGen.single hback⟩
  obtain ⟨closure, hcell⟩ := isCached_iff.mp hcached
  exact ⟨hcached, hunchanged _ hcached, closure, hcell,
    fun later => congrArg Prod.fst (hstays _ closure hcell later).2⟩

end Memo

end TargetGraph
