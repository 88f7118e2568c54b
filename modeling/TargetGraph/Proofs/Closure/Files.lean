import TargetGraph.Proofs.Closure.History
import TargetGraph.Proofs.Closure.Work
import TargetGraph.Proofs.Output.Listings

set_option relaxedAutoImplicit false
set_option autoImplicit false

/-!
# What files need, at any time

A closure that is known never changes, also where cycles make it depend on what was asked first. So
all questions about files, in any order, agree with what is known in the end.

## Main definitions

* `TargetGraph.Memo.Extends` — a later memo knows all that an earlier one knows.
* `TargetGraph.Snapshot.knownToNeed` — what a memo says about a file and a label.
* `TargetGraph.Inquiry.IsAboutFiles` — the questions that ask for closures of owners only.

## Main results

* `TargetGraph.Snapshot.Traversal.dependents_eq` — which files a search finds, read off any later
  memo.
* `TargetGraph.Snapshot.dependents_invert_fileClosure` — a file is found for a label if its own
  closure has the label, whichever of the two is asked first.
* `TargetGraph.Snapshot.prefetch_answers_later` — after a prefetch no question about files has
  anything left to work out.
-/

namespace TargetGraph

/-! ### Values of a map -/

/-- The values of a map are those of its entries, in their order. Maps say this of their keys, but
not of their values, so the proof goes down to the tree. -/
theorem values_eq_map_snd {κ β : Type} [Ord κ] [Std.TransOrd κ] (entries : Std.ExtTreeMap κ β) :
    entries.values = entries.toList.map Prod.snd := by
  obtain ⟨⟨tree⟩⟩ := entries
  induction tree using Quotient.ind with
  | _ tree =>
    show tree.inner.values = (Std.DTreeMap.Internal.Impl.Const.toList tree.inner).map Prod.snd
    rw [Std.DTreeMap.Internal.Impl.values_eq_map_snd,
      Std.DTreeMap.Internal.Impl.Const.toList_eq_toListModel_map, List.map_map]
    rfl

/-- A map has a value just if it has the value for some key. The key of an entry may be another one
than the key that is asked for, if the two compare as equal. -/
theorem mem_values_iff {κ β : Type} [Ord κ] [Std.TransOrd κ] {entries : Std.ExtTreeMap κ β}
    {value : β} : value ∈ entries.values ↔ ∃ key : κ, entries[key]? = some value := by
  simp only [values_eq_map_snd, List.mem_map, Prod.exists, exists_eq_right,
    Std.ExtTreeMap.mem_toList_iff_getKey?_eq_some_and_getElem?_eq_some]
  constructor
  · rintro ⟨key, _, hvalue⟩
    exact ⟨key, hvalue⟩
  · rintro ⟨key, hvalue⟩
    obtain ⟨stored, _, hstored⟩ :=
      Std.ExtTreeMap.getElem?_eq_some_iff_exists_compare_eq_eq_and_mem_toList.mp hvalue
    exact ⟨stored,
      Std.ExtTreeMap.mem_toList_iff_getKey?_eq_some_and_getElem?_eq_some.mp hstored⟩

/-! ### Paths put in order -/

/-- Paths no two of which have the same components are strictly increasing when they are sorted.

**Proof sketch.** The order of paths is total, so sorted paths are ascending. Sorting only
rearranges them, so still no two have the same components, and each is strictly before those behind
it. -/
theorem pairwise_lt_mergeSort {paths : List SourcePath}
    (h : paths.Pairwise fun a b => ¬compare a b = .eq) :
    (paths.mergeSort fun a b => compare a b != .gt).Pairwise fun a b => compare a b = .lt := by
  have hle : ∀ order : Ordering, (order != .gt) = order.isLE := by
    rintro (_ | _ | _) <;> rfl
  simp only [hle]
  have htotal : ∀ a b : SourcePath, ((compare a b).isLE || (compare b a).isLE) = true := by
    intro a b
    rw [show compare b a = (compare a b).swap from Std.OrientedCmp.eq_swap]
    cases compare a b <;> rfl
  have hsorted : (paths.mergeSort fun a b => (compare a b).isLE).Pairwise
      fun a b => (compare a b).isLE = true :=
    List.pairwise_mergeSort (fun _ _ _ => Std.TransCmp.isLE_trans) htotal paths
  have hdistinct : (paths.mergeSort fun a b => (compare a b).isLE).Pairwise
      fun a b => ¬compare a b = .eq :=
    ((List.mergeSort_perm paths _).pairwise_iff
      fun hne heq => hne (Std.OrientedCmp.eq_symm heq)).mpr h
  refine (hsorted.and hdistinct).imp fun {a b} ⟨hbefore, hne⟩ => ?_
  exact (Ordering.isLE_iff_eq_lt_or_eq_eq.mp hbefore).resolve_right hne

/-! ### Memos that know more -/

namespace Memo

variable {m next last : Memo} {d : Dependencies} {external : LabelSet}

/-- The later memo knows all closures that the earlier one knows, as they are. -/
def Extends (m last : Memo) : Prop :=
  ∀ (label : Label) (closure : LabelSet), m.cells[label]? = some closure →
    last.cells[label]? = some closure

/-- A memo knows what it knows. -/
theorem Extends.refl (m : Memo) : m.Extends m :=
  fun _ _ => id

/-- What is known later is known still later. -/
theorem Extends.trans (h : m.Extends next) (h' : next.Extends last) : m.Extends last :=
  fun label closure hcell => h' label closure (h label closure hcell)

/-- Asking for closures adds to what is known. -/
theorem extends_after (m : Memo) (asked : List Label) : m.Extends (m.after d external asked) :=
  fun _ _ hcell => getElem?_after_of_some hcell asked

/-- Asking only for closures that are known changes nothing.

**Proof sketch.** Induction on the labels: the first is answered without a walk, which leaves the
memo as it is for the others. -/
theorem after_eq_self {asked : List Label} (h : ∀ label ∈ asked, m.isCached label = true) :
    m.after d external asked = m := by
  induction asked with
  | nil => rfl
  | cons target rest ih =>
    obtain ⟨closure, hcell⟩ := isCached_iff.mp (h target List.mem_cons_self)
    show (m.resolve d external target).2.after d external rest = m
    rw [resolve_of_known hcell]
    exact ih fun label hlabel => h label (List.mem_cons_of_mem target hlabel)

end Memo

/-- A question about one of the snapshots that are kept changes none of them, but only the memo of
that one. -/
theorem Publication.snapshot_ask {α : Type} (p : Publication) (number other : Nat)
    (question : Snapshot → StateM Memo α) :
    ((p.ask number question).2.graph other).snapshot = (p.graph other).snapshot := by
  show ((p.graphs.setIfInBounds number _).getD other Graph.empty).snapshot =
    (p.graphs.getD other Graph.empty).snapshot
  simp only [Array.getD_eq_getD_getElem?, Array.getElem?_setIfInBounds]
  split
  · next heq =>
    subst heq
    split
    · show (p.graph number).snapshot = _
      rw [Publication.graph, Array.getD_eq_getD_getElem?]
    · next hout => rw [Array.getElem?_eq_none (Nat.le_of_not_lt hout)]
  · rfl

/-- The question is answered by closures of owners of files. -/
def Inquiry.IsAboutFiles : Inquiry → Prop
  | .closure _ => False
  | .fileClosure _ | .dependents _ | .prefetch => True

namespace Snapshot

variable {s : Snapshot} {m last : Memo} {o : s.Traversal} {path other : SourcePath}
  {dependency label owner : Label} {history earlier : List (s.Traversal × Inquiry)}
  {inquiry : Inquiry} {place : Nat}

/-! ### Histories that go on -/

/-- The memo after one more question. -/
theorem memoAfter_concat (history : List (s.Traversal × Inquiry)) (o : s.Traversal)
    (inquiry : Inquiry) :
    s.memoAfter (history ++ [(o, inquiry)]) = o.pose inquiry (s.memoAfter history) := by
  rw [memoAfter, List.foldl_append]
  rfl

/-- Questions add to what is known. -/
theorem extends_pose (o : s.Traversal) (inquiry : Inquiry) (m : Memo) :
    m.Extends (o.pose inquiry m) := by
  rw [o.pose_eq_after]
  exact m.extends_after _

/-- **What is known stays known**, as it is, whatever is asked later.

**Proof sketch.** Induction on the later questions, with the earlier ones general: the first of the
later questions goes over to the earlier ones. -/
theorem extends_memoAfter_append (earlier later : List (s.Traversal × Inquiry)) :
    (s.memoAfter earlier).Extends (s.memoAfter (earlier ++ later)) := by
  induction later generalizing earlier with
  | nil =>
    rw [List.append_nil]
    exact Memo.Extends.refl _
  | cons entry rest ih =>
    rw [List.append_cons]
    refine Memo.Extends.trans ?_ (ih (earlier ++ [entry]))
    rw [memoAfter_concat]
    exact extends_pose entry.1 entry.2 _

/-- The memo after a question of a history is known to the memo in the end.

**Proof sketch.** A history is the part up to a question and the part behind it. The memo after the
first part is asked the questions of the second, and what it knows stays known
(`extends_memoAfter_append`). -/
theorem extends_of_getElem? (h : history[place]? = some (o, inquiry)) :
    (o.pose inquiry (s.memoAfter (history.take place))).Extends (s.memoAfter history) := by
  have hsplit : history.take place ++ [(o, inquiry)] = history.take (place + 1) := by
    rw [List.take_add_one, h]
    rfl
  have hextends := extends_memoAfter_append (history.take (place + 1)) (history.drop (place + 1))
  rw [List.take_append_drop] at hextends
  rwa [← memoAfter_concat, hsplit]

/-- After any history, a known closure holds only what its label needs.

**Proof sketch.** By induction on the history the known closures are sound along every traversal at
once, so that the next question may go along any of them. -/
theorem needs_of_memoAfter (history : List (s.Traversal × Inquiry)) {closure : LabelSet}
    (hcell : (s.memoAfter history).cells[label]? = some closure) (hmem : dependency ∈ closure) :
    s.Needs label dependency := by
  let IsSound (m : Memo) : Prop := ∀ o : s.Traversal,
    m.Sound o.dependencies s.external fun _ => True
  have hsound : IsSound (s.memoAfter history) := by
    refine memoAfter_induction (P := IsSound) (fun o => Memo.sound_empty _) ?_ history
    -- what one traversal finds out is sound along any other one, as all lead to the same closures
    intro o m target hm o' label closure _ hcell leaf hleaf
    rw [o'.needs_iff, ← o.needs_iff]
    exact (hm o).resolve (fun _ _ _ _ => trivial) label closure trivial hcell leaf hleaf
  exact s.inOrder.needs_iff.mp (hsound s.inOrder label closure trivial hcell dependency hmem)

/-! ### What a memo says about a file -/

/-- The closure that is known for the file's owner has the label. -/
def knownToNeed (s : Snapshot) (m : Memo) (dependency : Label) (path : SourcePath) : Bool :=
  ((s.owner? path).bind fun owner => m.cells[owner]?).any fun closure =>
    closure.contains dependency

/-- A file is known to need a label just if its owner has a known closure with the label. -/
theorem knownToNeed_iff : s.knownToNeed m dependency path = true ↔
    ∃ owner closure, s.owner? path = some owner ∧ m.cells[owner]? = some closure ∧
      dependency ∈ closure := by
  rw [knownToNeed, Option.any_eq_true]
  simp only [Option.bind_eq_some_iff, Std.ExtTreeSet.contains_iff_mem]
  constructor
  · rintro ⟨closure, ⟨owner, howner, hcell⟩, hmem⟩
    exact ⟨owner, closure, howner, hcell, hmem⟩
  · rintro ⟨owner, closure, howner, hcell, hmem⟩
    exact ⟨closure, ⟨owner, howner, hcell⟩, hmem⟩

/-- Paths with the same components have the same owner. -/
theorem owner?_congr (h : (path == other) = true) : s.owner? path = s.owner? other := by
  rw [owner?, owner?, Std.ExtTreeMap.getElem?_congr (SourcePath.beq_iff.mp h)]

namespace Traversal

/-- The closure that is answered for a file is the one that any later memo knows for its owner.

**Proof sketch.** The answer is the closure that the question leaves in the memo for the owner
(`Memo.getElem?_resolve`), and what a memo knows a later one knows too. A file without an owner has
the empty closure, in which no memo finds anything. -/
theorem contains_fileClosure (o : s.Traversal) (h : (o.fileClosure path m).2.Extends last) :
    (o.fileClosure path m).1.contains dependency = s.knownToNeed last dependency path := by
  unfold fileClosure knownToNeed at *
  cases howner : s.owner? path with
  | none => exact Std.ExtTreeSet.contains_empty
  | some owner =>
    rw [howner] at h
    have hcell := h owner _ (Memo.getElem?_resolve m o.dependencies s.external owner)
    rw [Option.bind_some, hcell]
    rfl

/-! ### The search for dependents -/

/-- The files that a search through a list finds: those that any later memo knows to need the label.

**Proof sketch.** Induction on the files. The closure that is asked for the first of them is known
to the memo in the end, which is asked the others since; so the answer for that file is what the
last memo says (`contains_fileClosure`). -/
theorem filterAuxM_eq (o : s.Traversal) (dependency : Label) {last : Memo} :
    ∀ (files found : List SourcePath) (m : Memo),
    (files.filterAuxM (fun path => do
        let closure ← o.fileClosure path
        return closure.contains dependency) found m).2.Extends last →
    (files.filterAuxM (fun path => do
        let closure ← o.fileClosure path
        return closure.contains dependency) found m).1 =
      (files.filter (s.knownToNeed last dependency)).reverse ++ found
  | [], _, _, _ => rfl
  | path :: rest, found, m, h => by
    have hpath : (o.fileClosure path m).2.Extends last := by
      refine Memo.Extends.trans ?_ h
      rw [o.memo_filterAuxM, o.memo_fileClosure, List.filterMap_cons]
      cases s.owner? path <;> exact Memo.extends_after _ _
    have hrest := filterAuxM_eq o dependency rest
      (bif (o.fileClosure path m).1.contains dependency then path :: found else found)
      (o.fileClosure path m).2 h
    refine hrest.trans ?_
    rw [o.contains_fileClosure hpath, List.filter_cons]
    cases s.knownToNeed last dependency path <;> simp

/-- **The files that need a label are those that any later memo knows to need it**, sorted. -/
theorem dependents_eq (o : s.Traversal) (h : (o.dependents dependency m).2.Extends last) :
    (o.dependents dependency m).1 =
      (o.files.filter (s.knownToNeed last dependency)).mergeSort fun a b => compare a b != .gt := by
  have hfound := o.filterAuxM_eq dependency o.files [] m h
  show (List.reverse _).mergeSort _ = _
  rw [hfound, List.append_nil, List.reverse_reverse]

/-- A path is found just if it is tracked, and any later memo knows that it needs the label.

**Proof sketch.** What is found are the tracked files that the later memo knows to need the label,
in another order (`Traversal.dependents_eq`). The path may be spelled in another way than the
tracked file, but the two have the same owner (`owner?_congr`). -/
theorem contains_dependents_iff (o : s.Traversal)
    (h : (o.dependents dependency m).2.Extends last) :
    (o.dependents dependency m).1.contains path = true ↔
      path ∈ s.files ∧ s.knownToNeed last dependency path = true := by
  rw [o.dependents_eq h, List.contains_iff_exists_mem_beq, ← Std.ExtTreeMap.contains_iff_mem,
    ← Std.ExtTreeMap.contains_keys, List.contains_iff_exists_mem_beq]
  simp only [List.mem_mergeSort, List.mem_filter, o.files_perm.mem_iff]
  constructor
  · rintro ⟨stored, ⟨hstored, hneeds⟩, hsame⟩
    refine ⟨⟨stored, hstored, hsame⟩, ?_⟩
    rwa [knownToNeed, owner?_congr hsame]
  · rintro ⟨⟨stored, hstored, hsame⟩, hneeds⟩
    refine ⟨stored, ⟨hstored, ?_⟩, hsame⟩
    rwa [knownToNeed, ← owner?_congr hsame]

/-- The files that are found are strictly increasing, since no tracked file comes twice. -/
theorem pairwise_dependents (o : s.Traversal) (dependency : Label) (m : Memo) :
    (o.dependents dependency m).1.Pairwise fun a b => compare a b = .lt := by
  rw [o.dependents_eq (Memo.Extends.refl _)]
  refine pairwise_lt_mergeSort (List.Pairwise.filter _ ?_)
  refine (o.files_perm.pairwise_iff ?_).mpr Std.ExtTreeMap.distinct_keys
  exact fun hne heq => hne (Std.OrientedCmp.eq_symm heq)

end Traversal

/-- **Dependents are the inverse of what files need**, whatever cycles there are, and at any time.
In a history, take a question for the files that need a label, and any question for what a file
needs, before or after it. The file is found, in whatever spelling, just if it is tracked and the
closure that is answered for it has the label. The files that are found are strictly increasing.
None is found for a label that is not external or has dependencies of its own.

**Proof sketch.** On a cycle a closure may depend on which label was asked for first. But once it is
known it stays (`extends_memoAfter_append`), and both questions leave the closures that they go by
known. So both answers can be read off the memo in the end (`Traversal.contains_dependents_iff`,
`Traversal.contains_fileClosure`), and there they say the same. -/
theorem dependents_invert_fileClosure (s : Snapshot) (history : List (s.Traversal × Inquiry))
    (o : s.Traversal) (dependency : Label) (place : Nat)
    (hasked : history[place]? = some (o, .dependents dependency)) :
    let found := (o.dependents dependency (s.memoAfter (history.take place))).1
    (∀ (path : SourcePath) (o' : s.Traversal) (other : Nat),
      history[other]? = some (o', .fileClosure path) →
      let needed := (o'.fileClosure path (s.memoAfter (history.take other))).1
      (found.contains path = true ↔ path ∈ s.files ∧ dependency ∈ needed.toList)) ∧
    found.Pairwise (fun a b => compare a b = .lt) ∧
    (dependency ∉ s.external ∨ dependency ∈ s.deps → found = []) := by
  have hlast := extends_of_getElem? hasked
  refine ⟨fun path o' other hother => ?_, o.pairwise_dependents _ _, fun hinside => ?_⟩
  · intro needed
    rw [o.contains_dependents_iff hlast, Std.ExtTreeSet.mem_toList,
      Std.ExtTreeSet.mem_iff_contains, o'.contains_fileClosure (extends_of_getElem? hother)]
  · rw [o.dependents_eq hlast]
    have hnone : o.files.filter (s.knownToNeed (s.memoAfter history) dependency) = [] := by
      refine List.filter_eq_nil_iff.mpr fun path _ hneeds => ?_
      obtain ⟨owner, closure, _, hcell, hmem⟩ := knownToNeed_iff.mp hneeds
      obtain ⟨hexternal, hleaf, _⟩ := needs_of_memoAfter history hcell hmem
      rcases hinside with hout | hrule
      · exact hout hexternal
      · rw [Std.ExtTreeMap.mem_iff_isSome_getElem?, hleaf] at hrule
        cases hrule
    rw [hnone, List.mergeSort_nil]

/-- Two rules that depend on each other, each with a file. Only the second one needs a label outside
the project. -/
def ring : Snapshot where
  files := ((∅ : Std.ExtTreeMap SourcePath Label).insert ⟨"a/A.java"⟩ ⟨"//a:A.java"⟩).insert
    ⟨"b/B.java"⟩ ⟨"//b:B.java"⟩
  owners := ((∅ : LabelMap Label).insert ⟨"//a:A.java"⟩ ⟨"//a:a"⟩).insert ⟨"//b:B.java"⟩ ⟨"//b:b"⟩
  deps := ((∅ : LabelMap LabelSet).insert ⟨"//a:a"⟩ {⟨"//b:b"⟩}).insert ⟨"//b:b"⟩
    (Std.ExtTreeSet.ofList [Label.mk "//a:a", Label.mk "@z//:z"] compare)
  external := {⟨"@z//:z"⟩}

/-- Some questions about the ring, first for what the file of the second rule needs. -/
def ringHistory : List (ring.Traversal × Inquiry) :=
  [(ring.inOrder, .fileClosure ⟨"b/B.java"⟩), (ring.inOrder, .dependents ⟨"@z//:z"⟩),
    (ring.inOrder, .fileClosure ⟨"a/A.java"⟩)]

/-- In the ring, the second rule was asked for first, and the closure of the other one lacks the
label. The file of the first rule, asked for later, is not found; the file of the second one, asked
for earlier, is, also in another spelling. -/
theorem dependents_ring :
    let found := (ring.inOrder.dependents ⟨"@z//:z"⟩ (ring.memoAfter (ringHistory.take 1))).1
    found.contains ⟨"b//B.java"⟩ = true ∧ found.contains ⟨"a/A.java"⟩ = false := by
  intro found
  obtain ⟨hfound, -, -⟩ :=
    dependents_invert_fileClosure ring ringHistory ring.inOrder ⟨"@z//:z"⟩ 1 rfl
  have hearlier : ⟨"@z//:z"⟩ ∈ ((ring.inOrder.fileClosure ⟨"b/B.java"⟩
      (ring.memoAfter (ringHistory.take 0))).1).toList := by
    decide +kernel
  have hlater : ⟨"@z//:z"⟩ ∉ ((ring.inOrder.fileClosure ⟨"a/A.java"⟩
      (ring.memoAfter (ringHistory.take 2))).1).toList := by
    decide +kernel
  have htracked : ring.files.contains ⟨"b/B.java"⟩ = true := by
    decide +kernel
  refine ⟨?_, ?_⟩
  · have hmem := (hfound ⟨"b/B.java"⟩ ring.inOrder 0 rfl).mpr ⟨htracked, hearlier⟩
    rwa [List.contains_congr (show ((⟨"b//B.java"⟩ : SourcePath) == ⟨"b/B.java"⟩) = true from rfl)]
  · rw [← Bool.not_eq_true]
    exact fun hmem => hlater ((hfound ⟨"a/A.java"⟩ ring.inOrder 2 rfl).mp hmem).2

/-! ### Questions about files -/

/-- A rule owns some tracked file just if it is the owner of some path. -/
theorem mem_fileOwners_iff : owner ∈ s.fileOwners ↔ ∃ path, s.owner? path = some owner := by
  simp only [fileOwners, LabelSet.mem_ofList, List.mem_filterMap, mem_values_iff,
    owner?_eq_some_iff]
  constructor
  · rintro ⟨source, ⟨path, hfile⟩, howner⟩
    exact ⟨path, source, hfile, howner⟩
  · rintro ⟨path, source, hfile, howner⟩
    exact ⟨source, ⟨path, hfile⟩, howner⟩

/-- A traversal goes through the rules that own some tracked file. -/
theorem Traversal.mem_owners_iff (o : s.Traversal) :
    owner ∈ o.owners ↔ ∃ path, s.owner? path = some owner := by
  rw [o.owners_perm.mem_iff, Std.ExtTreeSet.mem_toList, mem_fileOwners_iff]

/-- A traversal goes through no owner twice. -/
theorem Traversal.nodup_owners (o : s.Traversal) : o.owners.Nodup := by
  refine (o.owners_perm.nodup_iff).mpr (Std.ExtTreeSet.distinct_toList.imp fun hne heq => hne ?_)
  rw [heq, Std.LawfulEqCmp.compare_eq_iff_eq]

/-- A question about files asks only for closures of rules that own some tracked file. -/
theorem Traversal.exists_path_of_mem_asked (o : s.Traversal) (h : inquiry.IsAboutFiles)
    (hlabel : label ∈ o.asked inquiry) : ∃ path, s.owner? path = some label := by
  cases inquiry with
  | closure target => cases h
  | fileClosure path => exact ⟨path, Option.mem_toList.mp hlabel⟩
  | dependents dependency =>
    obtain ⟨path, _, howner⟩ := List.mem_filterMap.mp hlabel
    exact ⟨path, howner⟩
  | prefetch => exact o.mem_owners_iff.mp hlabel

/-- After any history, what a label with a known closure depends on has a known closure, too, along
any traversal.

**Proof sketch.** All traversals have the same edges, so a memo that is closed along one is closed
along all, and so is the memo after the next question (`Memo.Closed.resolve`). -/
theorem closed_memoAfter (history : List (s.Traversal × Inquiry)) (o : s.Traversal) :
    (s.memoAfter history).Closed o.dependencies := by
  let IsClosed (m : Memo) : Prop := ∀ o : s.Traversal, m.Closed o.dependencies
  have hclosed : IsClosed (s.memoAfter history) := by
    refine memoAfter_induction (P := IsClosed) (fun o => Memo.closed_empty) ?_ history
    intro o m target hm o'
    have hsame : ∀ m : Memo, m.Closed o'.dependencies ↔ m.Closed o.dependencies := fun m => by
      rw [Memo.Closed, Memo.Closed, o'.dependsOn_eq, o.dependsOn_eq]
    rw [hsame]
    exact (hm o).resolve
  exact hclosed o

/-- After a prefetch the closures are known that were known before, and those of all that an owner
of a tracked file reaches.

**Proof sketch.** A prefetch asks for the closures of all owners (`Traversal.pose_eq_after`), and
the memo before it is closed (`closed_memoAfter`). -/
theorem isCached_prefetch_iff (earlier : List (s.Traversal × Inquiry)) (o : s.Traversal) :
    (o.prefetch (s.memoAfter earlier)).2.isCached label = true ↔
      (s.memoAfter earlier).isCached label = true ∨
        ∃ path owner, s.owner? path = some owner ∧ s.Reaches owner label := by
  have hafter : (o.prefetch (s.memoAfter earlier)).2 =
      (s.memoAfter earlier).after o.dependencies s.external o.owners := o.pose_eq_after .prefetch _
  rw [hafter, (closed_memoAfter earlier o).isCached_after_iff, Dependencies.Reaches,
    o.dependsOn_eq]
  refine or_congr_right ⟨?_, ?_⟩
  · rintro ⟨owner, howner, hreach⟩
    obtain ⟨path, hpath⟩ := o.mem_owners_iff.mp howner
    exact ⟨path, owner, hpath, hreach⟩
  · rintro ⟨path, owner, hpath, hreach⟩
    exact ⟨owner, o.mem_owners_iff.mpr ⟨path, hpath⟩, hreach⟩

/-- A question about files has nothing to work out where the closures of all owners are known. -/
theorem Traversal.pose_eq_self (o : s.Traversal) (h : inquiry.IsAboutFiles)
    (hknown : ∀ path owner, s.owner? path = some owner → m.isCached owner = true) :
    o.pose inquiry m = m := by
  rw [o.pose_eq_after]
  refine Memo.after_eq_self fun label hlabel => ?_
  obtain ⟨path, hpath⟩ := o.exists_path_of_mem_asked h hlabel
  exact hknown path label hpath

/-- **After a prefetch no question about files has anything left to work out**, whatever cycles
there are, and whatever was asked before. Its answer is the number of the rules that own some
tracked file. The closures that are known after it are those that were known before, and those of
all that these rules reach. From then on, whatever else is asked in between, no question for what a
file needs, for the files that need a label, or for another prefetch changes any closure or either
count. A prefetch changes no snapshot that is kept, so the sizes, owners and selections, which are
read off the snapshot, stay what they are; nor does it change which snapshot is published.

**Proof sketch.** Each owner is left with a known closure, since a walk never ends without one
(`Memo.getElem?_resolve`), and a known closure stays (`extends_memoAfter_append`). Questions about
files ask for closures of owners only (`Traversal.exists_path_of_mem_asked`), and asking for what is
known changes nothing (`Memo.after_eq_self`). -/
theorem prefetch_answers_later (s : Snapshot) (earlier : List (s.Traversal × Inquiry))
    (o : s.Traversal) :
    let before := s.memoAfter earlier
    let count := (o.prefetch before).1
    let after := (o.prefetch before).2
    (∃ rules : List Label, rules.Nodup ∧
      (∀ rule, rule ∈ rules ↔ ∃ path ∈ s.files, s.owner? path = some rule) ∧
      count = rules.length) ∧
    (∀ label, after.isCached label = true ↔ before.isCached label = true ∨
      ∃ path owner, s.owner? path = some owner ∧ s.Reaches owner label) ∧
    (∀ (later : List (s.Traversal × Inquiry)) (o' : s.Traversal) (inquiry : Inquiry),
      inquiry.IsAboutFiles →
      let last := s.memoAfter (earlier ++ (o, .prefetch) :: later)
      o'.pose inquiry last = last) ∧
    ∀ (p : Publication) (number other : Nat),
      let kept := (p.ask number Snapshot.prefetch).2
      (kept.graph other).snapshot = (p.graph other).snapshot ∧
        kept.current = p.current ∧ kept.generation = p.generation := by
  intro before count after
  have hknown : ∀ path owner, s.owner? path = some owner → after.isCached owner = true :=
    fun path owner howner => (isCached_prefetch_iff earlier o).mpr
      (.inr ⟨path, owner, howner, Relation.ReflTransGen.refl⟩)
  refine ⟨⟨o.owners, o.nodup_owners, fun rule => ?_, rfl⟩, fun label => isCached_prefetch_iff _ o,
    fun later o' inquiry habout => ?_, fun p number other => ⟨p.snapshot_ask _ _ _, rfl, rfl⟩⟩
  · rw [o.mem_owners_iff]
    constructor
    · rintro ⟨path, howner⟩
      exact ⟨path, mem_files_of_owner? howner, howner⟩
    · rintro ⟨path, _, howner⟩
      exact ⟨path, howner⟩
  · intro last
    refine o'.pose_eq_self habout fun path owner howner => ?_
    -- the prefetch is the last of the questions before the later ones
    obtain ⟨closure, hcell⟩ := Memo.isCached_iff.mp (hknown path owner howner)
    have hextends := extends_memoAfter_append (earlier ++ [(o, .prefetch)]) later
    rw [memoAfter_concat, ← List.append_cons] at hextends
    exact Memo.isCached_iff.mpr ⟨closure, hextends owner closure hcell⟩

/-- In the ring, both rules own a file. After a prefetch, what only the second rule names is known,
and a search for the files that need it works nothing out. -/
theorem prefetch_ring :
    let earlier := ringHistory.take 1
    let last := ring.memoAfter (earlier ++ [(ring.inOrder, .prefetch)])
    (ring.inOrder.prefetch (ring.memoAfter earlier)).1 = 2 ∧ last.isCached ⟨"@z//:z"⟩ = true ∧
      ring.inOrder.pose (.dependents ⟨"@z//:z"⟩) last = last := by
  intro earlier last
  obtain ⟨_, hknown, hlater, _⟩ := prefetch_answers_later ring earlier ring.inOrder
  have howner : ring.owner? ⟨"b/B.java"⟩ = some ⟨"//b:b"⟩ := by
    decide +kernel
  have hdep : ring.DependsOn ⟨"//b:b"⟩ ⟨"@z//:z"⟩ := by
    refine ⟨Std.ExtTreeSet.ofList [Label.mk "//a:a", Label.mk "@z//:z"] compare, ?_,
      LabelSet.mem_ofList.mpr (by decide)⟩
    simp only [ring, LabelMap.getElem?_insert]
    rfl
  refine ⟨by decide +kernel, ?_, hlater [] ring.inOrder _ trivial⟩
  rw [show last = _ from memoAfter_concat _ _ _]
  exact (hknown _).mpr (.inr ⟨_, _, howner, .single hdep⟩)

end Snapshot

end TargetGraph
