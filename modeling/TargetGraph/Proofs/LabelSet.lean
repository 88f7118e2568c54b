import TargetGraph.LabelSet

set_option relaxedAutoImplicit false
set_option autoImplicit false

/-!
# Members of label sets, entries of label maps

What the operations on sets and maps of labels do, said through membership and look-up.

## Main results

* `TargetGraph.LabelSet.mem_unionAll` — the union of a list of sets has the labels of all of them,
  also where no set is built.
* `TargetGraph.LabelSet.unionAll_eq_merged` — it is what merging them yields, whichever of them is
  picked to absorb the others.
* `TargetGraph.LabelMap.getElem?_insert` — look-up after an insertion, by equality of labels.
* `TargetGraph.weightWhere_add_le` — what a sum over labels loses with one of them.
-/

namespace TargetGraph

namespace LabelSet

variable {label : Label}

/-- A set made of a list has the labels of the list. -/
@[simp] theorem mem_ofList {labels : List Label} :
    label ∈ Std.ExtTreeSet.ofList labels compare ↔ label ∈ labels := by
  rw [Std.ExtTreeSet.mem_ofList, List.contains_iff_mem]

/-- The set of one label has that label. -/
theorem mem_singleton {only : Label} : label ∈ ({only} : LabelSet) ↔ label = only := by
  simp [eq_comm (a := only)]

/-- A set with one more label. -/
theorem mem_insert_iff {set : LabelSet} {other : Label} :
    other ∈ set.insert label ↔ other = label ∨ other ∈ set := by
  rw [Std.ExtTreeSet.mem_insert, Std.LawfulEqCmp.compare_eq_iff_eq, eq_comm]

/-- A set with one label less. -/
theorem mem_erase_iff {set : LabelSet} {other : Label} :
    other ∈ set.erase label ↔ other ≠ label ∧ other ∈ set := by
  rw [Std.ExtTreeSet.mem_erase, ne_eq, Std.LawfulEqCmp.compare_eq_iff_eq, ne_comm]

/-- One set covers another when it has all of its labels. -/
theorem covers_iff {outer inner : LabelSet} :
    covers outer inner = true ↔ ∀ label ∈ inner, label ∈ outer := by
  simp [covers]

/-! ### The largest set of a list -/

/-- Only an empty list has no largest set. -/
theorem pullLargest_eq_none_iff {parts : List LabelSet} :
    pullLargest parts = none ↔ parts = [] := by
  cases parts with
  | nil => simp [pullLargest]
  | cons set rest =>
    simp only [pullLargest, reduceCtorEq, iff_false]
    split
    · simp
    · split <;> simp

/-- Pulling out the largest set loses no set and makes none up.

**Proof sketch.** By induction on the list. Either the first set is pulled out and the rest is as it
was, or the largest set of the rest passes it. -/
theorem perm_of_pullLargest {parts others : List LabelSet} {largest : LabelSet}
    (h : pullLargest parts = some (largest, others)) : parts.Perm (largest :: others) := by
  induction parts generalizing largest others with
  | nil => simp [pullLargest] at h
  | cons set rest ih =>
    simp only [pullLargest] at h
    split at h
    · next hrest =>
      rw [pullLargest_eq_none_iff.mp hrest]
      cases h
      exact List.Perm.refl _
    · next hrest =>
      have hperm := ih hrest
      split at h
      · cases h
        exact hperm.cons set
      · cases h
        exact (hperm.cons set).trans (List.Perm.swap _ set _)

/-- What is pulled out is one of the largest sets.

**Proof sketch.** By induction on the list. The first set is compared with the largest of the rest,
and the larger of the two is at least as large as all the others. -/
theorem size_le_of_pullLargest {parts others : List LabelSet} {largest : LabelSet}
    (h : pullLargest parts = some (largest, others)) :
    ∀ other ∈ others, other.size ≤ largest.size := by
  induction parts generalizing largest others with
  | nil => simp [pullLargest] at h
  | cons set rest ih =>
    simp only [pullLargest] at h
    split at h
    · cases h
      exact fun other hother => absurd hother List.not_mem_nil
    · next before passed hrest =>
      have hbefore := ih hrest
      split at h
      · next hlt =>
        cases h
        intro other hother
        rcases List.mem_cons.mp hother with rfl | hpassed
        · omega
        · have hle := hbefore other hpassed
          omega
      · next hge =>
        cases h
        intro other hother
        rcases List.mem_cons.mp hother with rfl | hpassed
        · omega
        · exact hbefore other hpassed

/-! ### Unions -/

/-- A label is in a running union when it is in the set that the run starts with or in one of the
sets that are added, by induction on these. -/
theorem mem_foldl_union {parts : List LabelSet} {start : LabelSet} :
    label ∈ parts.foldl (fun merged part => merged ∪ part) start ↔
      label ∈ start ∨ ∃ part ∈ parts, label ∈ part := by
  induction parts generalizing start with
  | nil => simp
  | cons part rest ih =>
    rw [List.foldl_cons, ih, Std.ExtTreeSet.mem_union_iff]
    simp only [List.mem_cons, exists_eq_or_imp, or_assoc]

/-- Sets without labels do not matter for what is in some set of a list.

**Proof sketch.** The filter leaves only sets of the list, and a set with a label in it passes the
filter. -/
theorem exists_mem_filter_not_isEmpty {parts : List LabelSet} :
    (∃ part ∈ parts.filter fun part => !part.isEmpty, label ∈ part) ↔
      ∃ part ∈ parts, label ∈ part := by
  constructor
  · rintro ⟨part, hpart, hlabel⟩
    exact ⟨part, (List.mem_filter.mp hpart).1, hlabel⟩
  · rintro ⟨part, hpart, hlabel⟩
    have hne : part ≠ ∅ := Std.ExtTreeSet.ne_empty_of_mem hlabel
    exact ⟨part, List.mem_filter.mpr ⟨hpart, by simpa using hne⟩, hlabel⟩

/-- A set that absorbed others has its own labels and theirs, also where it covers them and is left
as it is.

**Proof sketch.** Where it covers them, their labels are among its own (`covers_iff`); else it is
merged with them (`mem_foldl_union`). -/
theorem mem_absorb {largest : LabelSet} {others : List LabelSet} :
    label ∈ absorb largest others ↔ label ∈ largest ∨ ∃ part ∈ others, label ∈ part := by
  unfold absorb
  split
  · next hcovers =>
    have hall : ∀ part ∈ others, ∀ l ∈ part, l ∈ largest := fun part hpart =>
      covers_iff.mp (List.all_eq_true.mp hcovers part hpart)
    constructor
    · exact Or.inl
    · rintro (h | ⟨part, hpart, h⟩)
      · exact h
      · exact hall part hpart label h
  · exact mem_foldl_union

/-- Whichever set absorbs the others, what comes out has the labels of them all. -/
theorem mem_absorb_of_perm {parts others : List LabelSet} {picked : LabelSet}
    (hperm : parts.Perm (picked :: others)) :
    label ∈ absorb picked others ↔ ∃ part ∈ parts, label ∈ part := by
  simp only [mem_absorb, hperm.mem_iff, List.mem_cons, exists_eq_or_imp]

/-- **The union of a list of sets has the labels of all of them.**

**Proof sketch.** Empty sets are left out first, which loses no label. If nothing remains there is
no label to find. Otherwise the sets that remain are the largest and the others, in some order, and
the largest absorbs the others. -/
theorem mem_unionAll {parts : List LabelSet} :
    label ∈ unionAll parts ↔ ∃ part ∈ parts, label ∈ part := by
  rw [← exists_mem_filter_not_isEmpty, unionAll]
  cases hpull : pullLargest (parts.filter fun part => !part.isEmpty) with
  | none => simp [pullLargest_eq_none_iff.mp hpull]
  | some pulled =>
    obtain ⟨largest, others⟩ := pulled
    exact mem_absorb_of_perm (perm_of_pullLargest hpull)

/-- **How a union is made does not matter.** It is what merging all the sets yields, whichever sets
there are: it has just the labels that are in one of them. It depends on which sets are in the list
only, so neither on their order nor on how often they are there. Whichever of the sets that are not
empty is picked to absorb the others, and in whichever order these are left, the same comes out; a
set that covers the others is that already. The set that is picked is one of the largest.

**Proof sketch.** Two sets with the same labels are equal, and each of these sets has the labels of
all sets of the list (`mem_unionAll`, `mem_foldl_union`, `mem_absorb_of_perm`). -/
theorem unionAll_eq_merged (parts : List LabelSet) :
    let merged := parts.foldl (fun merged part => merged ∪ part) ∅
    let kept := parts.filter fun part => !part.isEmpty
    (∀ label, label ∈ unionAll parts ↔ ∃ part ∈ parts, label ∈ part) ∧
    unionAll parts = merged ∧
    (∀ listed : List LabelSet, (∀ part, part ∈ listed ↔ part ∈ parts) →
      unionAll listed = merged) ∧
    (∀ picked others, kept.Perm (picked :: others) →
      absorb picked others = merged ∧ (others.all (covers picked) = true → picked = merged)) ∧
    ∀ largest others, pullLargest kept = some (largest, others) →
      kept.Perm (largest :: others) ∧ ∀ other ∈ others, other.size ≤ largest.size := by
  intro merged kept
  -- every set below has the labels of all parts, and that says which set it is
  have hmerged : ∀ label, label ∈ merged ↔ ∃ part ∈ parts, label ∈ part := by
    intro label
    rw [mem_foldl_union, or_iff_right Std.ExtTreeSet.not_mem_empty]
  have heq : ∀ set : LabelSet, (∀ label, label ∈ set ↔ ∃ part ∈ parts, label ∈ part) →
      set = merged := by
    intro set hset
    ext label
    exact (hset label).trans (hmerged label).symm
  have habsorb : ∀ picked others, kept.Perm (picked :: others) → absorb picked others = merged := by
    intro picked others hperm
    apply heq
    intro label
    rw [mem_absorb_of_perm hperm]
    exact exists_mem_filter_not_isEmpty
  refine ⟨fun label => mem_unionAll, heq _ fun label => mem_unionAll, ?_, ?_, ?_⟩
  · intro listed hlisted
    apply heq
    intro label
    rw [mem_unionAll]
    simp only [hlisted]
  · intro picked others hperm
    refine ⟨habsorb picked others hperm, fun hcovers => ?_⟩
    rw [← habsorb picked others hperm, absorb, if_pos hcovers]
  · intro largest others hpull
    exact ⟨perm_of_pullLargest hpull, size_le_of_pullLargest hpull⟩

/-- Of two sets of equal size with different labels, one of them twice, either may be picked. -/
theorem absorb_overlapping :
    let first : LabelSet := {⟨"//x:a"⟩, ⟨"//x:b"⟩}
    let second : LabelSet := {⟨"//x:b"⟩, ⟨"//x:c"⟩}
    ([first, ∅, second, first].filter fun part => !part.isEmpty).Perm [second, first, first] ∧
      absorb second [first, first] = unionAll [first, ∅, second, first] := by
  intro first second
  have hkept : ([first, ∅, second, first].filter fun part => !part.isEmpty) =
      [first, second, first] := by
    simp [first, second]
  have hperm : ([first, ∅, second, first].filter fun part => !part.isEmpty).Perm
      [second, first, first] := by
    rw [hkept]
    exact List.Perm.swap second first [first]
  obtain ⟨-, hunion, -, hpicked, -⟩ := unionAll_eq_merged [first, ∅, second, first]
  exact ⟨hperm, (hpicked second [first, first] hperm).1.trans hunion.symm⟩

end LabelSet

namespace LabelMap

variable {α : Type} {map : LabelMap α} {label : Label}

/-- A map does not contain the labels that have no entry. -/
theorem not_contains_iff : ¬map.contains label = true ↔ map[label]? = none := by
  rw [Std.ExtTreeMap.contains_eq_isSome_getElem?, Bool.not_eq_true, Option.isSome_eq_false_iff,
    Option.isNone_iff_eq_none]

/-- Looking up a label after an insertion. -/
theorem getElem?_insert (map : LabelMap α) (key label : Label) (value : α) :
    (map.insert key value)[label]? = if key = label then some value else map[label]? := by
  rw [Std.ExtTreeMap.getElem?_insert]
  simp only [Std.LawfulEqCmp.compare_eq_iff_eq]

end LabelMap

/-! ### Labels of a list, weighted -/

/-- The weights of the labels of a list that satisfy `p`, added up. -/
def weightWhere (weight : Label → Nat) (p : Label → Bool) : List Label → Nat
  | [] => 0
  | label :: rest => (if p label then weight label else 0) + weightWhere weight p rest

section weightWhere

variable {weight : Label → Nat} {p q : Label → Bool} {label : Label} {labels : List Label}

/-- A label that satisfies `p` adds its weight. -/
theorem weightWhere_cons_of_pos (h : p label = true) :
    weightWhere weight p (label :: labels) = weight label + weightWhere weight p labels := by
  simp [weightWhere, h]

/-- A label that does not satisfy `p` adds nothing. -/
theorem weightWhere_cons_of_neg (h : p label = false) :
    weightWhere weight p (label :: labels) = weightWhere weight p labels := by
  simp [weightWhere, h]

/-- Fewer labels weigh no more.

**Proof sketch.** By induction on the list. The first label counts on neither side, on both, or on
the right alone, since what is counted on the left is counted on the right. -/
theorem weightWhere_le (hle : ∀ label, p label = true → q label = true) (labels : List Label) :
    weightWhere weight p labels ≤ weightWhere weight q labels := by
  induction labels with
  | nil => exact Nat.le_refl _
  | cons first rest ih =>
    cases hp : p first with
    | true =>
      rw [weightWhere_cons_of_pos hp, weightWhere_cons_of_pos (hle first hp)]
      omega
    | false =>
      rw [weightWhere_cons_of_neg hp]
      cases hq : q first with
      | true => rw [weightWhere_cons_of_pos hq]; omega
      | false => rwa [weightWhere_cons_of_neg hq]

/-- Where one of the labels is gone, so is its weight.

**Proof sketch.** By induction on the list, up to the label that is gone; behind it `weightWhere_le`
compares what is left. -/
theorem weightWhere_add_le (weight : Label → Nat) (hle : ∀ label, p label = true → q label = true)
    (hp : p label = false) (hq : q label = true) (h : label ∈ labels) :
    weightWhere weight p labels + weight label ≤ weightWhere weight q labels := by
  induction labels with
  | nil => cases h
  | cons first rest ih =>
    rcases List.mem_cons.mp h with rfl | hrest
    · rw [weightWhere_cons_of_neg hp, weightWhere_cons_of_pos hq, Nat.add_comm]
      exact Nat.add_le_add_left (weightWhere_le hle rest) _
    · have hih := ih hrest
      cases hp' : p first with
      | true =>
        rw [weightWhere_cons_of_pos hp', weightWhere_cons_of_pos (hle first hp')]
        omega
      | false =>
        rw [weightWhere_cons_of_neg hp']
        cases hq' : q first with
        | true => rw [weightWhere_cons_of_pos hq']; omega
        | false => rwa [weightWhere_cons_of_neg hq']

/-- Where each label weighs one, the weight is a number of labels. -/
theorem weightWhere_one : weightWhere (fun _ => 1) p labels = labels.countP p := by
  induction labels with
  | nil => rfl
  | cons first rest ih => rw [weightWhere, ih, List.countP_cons, Nat.add_comm]

end weightWhere

end TargetGraph
