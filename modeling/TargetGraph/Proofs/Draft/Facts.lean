import TargetGraph.Proofs.Draft.Targets

set_option relaxedAutoImplicit false
set_option autoImplicit false

/-!
# What a draft says

A draft is determined, up to the spelling of paths, by the single facts that it says. A write that
is taken adds the facts that it says itself, and takes none away; so a run of writes adds up.

## Main definitions

* `TargetGraph.Holds` — a collection has a value for a key, up to sameness.
* `TargetGraph.Fact` — one thing that can be said about a workspace.
* `TargetGraph.Draft.States`, `TargetGraph.Write.States`, `TargetGraph.Target.States` — what a
  draft, a write and a reported target say.

## Main results

* `TargetGraph.Draft.Written.states_iff` — what a draft says after a write.
* `TargetGraph.Draft.states_writeAll_iff` — what it says after a run of writes.
* `TargetGraph.Target.exists_write_states_iff` — the writes about a target say what the target says.
* `TargetGraph.Draft.states_record_iff` — what a draft says after a run of targets.
-/

namespace TargetGraph

/-! ### Bindings up to sameness -/

section Bindings

variable {κ β : Type} [Ord κ] [Std.TransOrd κ] [BEq β] {entries after : Std.ExtTreeMap κ β}
  {key : κ} {value : β}

/-- The entries have a value for the key, which is the same as the given one. -/
def Holds (entries : Std.ExtTreeMap κ β) (key : κ) (value : β) : Prop :=
  ∃ bound, entries[key]? = some bound ∧ (bound == value) = true

/-- Where sameness is equality, the value is the one that a look-up finds. -/
theorem holds_iff [LawfulBEq β] : Holds entries key value ↔ entries[key]? = some value := by
  simp [Holds]

/-- A key is in a collection when this has a value for it. -/
theorem mem_iff_exists_holds [EquivBEq β] : key ∈ entries ↔ ∃ value, Holds entries key value := by
  rw [Std.ExtTreeMap.mem_iff_isSome_getElem?, Option.isSome_iff_exists]
  constructor
  · rintro ⟨bound, hbound⟩
    exact ⟨bound, bound, hbound, BEq.rfl⟩
  · rintro ⟨_, bound, hbound, _⟩
    exact ⟨bound, hbound⟩

/-- What the entries hold after a binding: what they held before, and the binding.

**Proof sketch.** As for `admits_iff_of_bind?`: for a key that compares equal to the bound one the
look-up finds the value of `exists_bound_of_bind?`, which is the same as that of the binding and
equal to any value that the key had before. For any other key nothing has changed. -/
theorem holds_iff_of_bind? [EquivBEq β] (h : bind? entries key value = some after) (other : κ)
    (offered : β) : Holds after other offered ↔
      Holds entries other offered ∨ compare key other = .eq ∧ (value == offered) = true := by
  obtain ⟨bound, hbound, hbefore, hafter⟩ := exists_bound_of_bind? h
  unfold Holds
  rw [hafter]
  by_cases hother : compare key other = .eq
  · simp only [hother, if_true, Option.some.injEq, exists_eq_left', true_and,
      ← Std.ExtTreeMap.getElem?_congr hother]
    constructor
    · exact fun hoffered => .inr (BEq.trans (BEq.symm hbound) hoffered)
    · rintro (⟨before, h, hoffered⟩ | hoffered)
      · rwa [hbefore before h] at hoffered
      · exact BEq.trans hbound hoffered
  · simp only [hother, if_false, false_and, or_false]

/-- What a look-up finds after a binding, where sameness is equality of keys and of values. -/
theorem getElem?_eq_some_iff_of_bind? [Std.LawfulEqOrd κ] [LawfulBEq β]
    (h : bind? entries key value = some after) (other : κ) (offered : β) :
    after[other]? = some offered ↔
      entries[other]? = some offered ∨ key = other ∧ value = offered := by
  have hholds := holds_iff_of_bind? h other offered
  rwa [holds_iff, holds_iff, Std.LawfulEqCmp.compare_eq_iff_eq, beq_iff_eq] at hholds

end Bindings

/-! ### Facts -/

/-- One thing that can be said about a workspace. -/
inductive Fact where
  /-- The place of a target. -/
  | location (target : Label) (place : Location)
  /-- A target is listed as a source. -/
  | sourceTarget (target : Label)
  /-- The target of a file. -/
  | file (path : SourcePath) (target : Label)
  /-- The rule that owns a source. -/
  | owner (source rule : Label)
  /-- The dependencies of a rule. -/
  | deps (rule : Label) (labels : LabelSet)
  /-- A target is outside the project. -/
  | external (target : Label)
  /-- A target is an Android rule. -/
  | android (target : Label)
  /-- The kind of a target. -/
  | kind (target : Label) (name : String)
  /-- A label is named as a dependency. -/
  | referenced (label : Label)

/-- What a draft says, up to the spelling of paths. -/
def Draft.States (d : Draft) : Fact → Prop
  | .location target place => Holds d.locations target place
  | .sourceTarget target => target ∈ d.sourceTargets
  | .file path target => d.files[path]? = some target
  | .owner source rule => d.owners[source]? = some rule
  | .deps rule labels => d.deps[rule]? = some labels
  | .external target => target ∈ d.external
  | .android target => target ∈ d.android
  | .kind target name => d.kinds[target]? = some name
  | .referenced label => label ∈ d.referenced

/-- What a write says. -/
def Write.States : Write → Fact → Prop
  | .location target place, .location target' place' => target = target' ∧ (place == place') = true
  | .sourceTarget target, .sourceTarget target' => target = target'
  | .file path target, .file path' target' => (path == path') = true ∧ target = target'
  | .owner source rule, .owner source' rule' => source = source' ∧ rule = rule'
  | .deps rule labels, .deps rule' labels' => rule = rule' ∧ labels = labels'
  | .external target, .external target' => target = target'
  | .android target, .android target' => target = target'
  | .kind target name, .kind target' name' => target = target' ∧ name = name'
  | .referenced labels, .referenced label => label ∈ labels
  | _, _ => False

/-- What a reported target says. -/
def Target.States (t : Target) : Fact → Prop
  | .location target place => t.label = target ∧
      ∃ own, t.location = some own ∧ (own == place) = true
  | .sourceTarget target => t.label = target ∧ t.owner.isSome
  | .file path target => t.label = target ∧ t.kind = sourceFileKind ∧
      ∃ place, t.location = some place ∧ (place.file == path) = true
  | .owner source rule => t.label = source ∧ t.owner = some rule
  | .deps rule labels => t.label = rule ∧
      ∃ deps, t.deps = some deps ∧ ∀ label, label ∈ labels ↔ label ∈ deps
  | .external _ => False
  | .android target => t.label = target ∧ isAndroidKind t.kind = true
  | .kind target name => t.label = target ∧ t.kind = name
  | .referenced label => ∃ deps, t.deps = some deps ∧ label ∈ deps

/-- A set with one more label has its labels and that one. -/
theorem LabelSet.mem_insert_iff_mem_or_eq {set : LabelSet} {label other : Label} :
    other ∈ set.insert label ↔ other ∈ set ∨ label = other := by
  rw [LabelSet.mem_insert_iff, or_comm, eq_comm]

/-- A set together with the labels of a list.

**Proof sketch.** By induction on the list, for every set: a label that is inserted comes to be in
the set (`LabelSet.mem_insert_iff`), and what is left is to see that a label in the set, first in
the list or further back is the same as one in the set or in the list. -/
theorem LabelSet.mem_insertAll {set : LabelSet} {labels : List Label} {label : Label} :
    label ∈ set.insertAll labels ↔ label ∈ set ∨ label ∈ labels := by
  unfold LabelSet.insertAll
  induction labels generalizing set with
  | nil => simp
  | cons first rest ih =>
    rw [List.foldl_cons, ih, LabelSet.mem_insert_iff, List.mem_cons]
    constructor
    · rintro ((h | h) | h)
      · exact .inr (.inl h)
      · exact .inl h
      · exact .inr (.inr h)
    · rintro (h | h | h)
      · exact .inl (.inr h)
      · exact .inl (.inl h)
      · exact .inr h

/-! ### Writes add facts -/

namespace Draft

variable {d after : Draft} {w : Write} {ws : List Write} {fact : Fact}

/-- The first draft says nothing. -/
theorem not_states_empty : ¬Draft.empty.States fact := by
  cases fact <;> simp [States, Holds, Draft.empty]

/-- **What a draft says after a write**: what it said before, and what the write says.

**Proof sketch.** One case for each write. A fact of the collection that was written is
`holds_iff_of_bind?`, or `getElem?_eq_some_iff_of_bind?` where the values have only one spelling, or
membership after an insertion. Facts of the other collections are as they were, and the write says
none of them. -/
theorem Written.states_iff (h : d.Written w after) :
    after.States fact ↔ d.States fact ∨ w.States fact := by
  cases h with
  | location hbind =>
    cases fact with
    | location target place =>
      simpa only [States, Write.States, Std.LawfulEqCmp.compare_eq_iff_eq] using
        holds_iff_of_bind? hbind target place
    | _ => exact (or_iff_left id).symm
  | file hbind =>
    cases fact with
    | file path target =>
      simpa only [States, Write.States, SourcePath.beq_iff, holds_iff, beq_iff_eq] using
        holds_iff_of_bind? hbind path target
    | _ => exact (or_iff_left id).symm
  | owner hbind =>
    cases fact with
    | owner source rule => exact getElem?_eq_some_iff_of_bind? hbind source rule
    | _ => exact (or_iff_left id).symm
  | deps hbind =>
    cases fact with
    | deps rule labels => exact getElem?_eq_some_iff_of_bind? hbind rule labels
    | _ => exact (or_iff_left id).symm
  | kind hbind =>
    cases fact with
    | kind target name => exact getElem?_eq_some_iff_of_bind? hbind target name
    | _ => exact (or_iff_left id).symm
  | sourceTarget =>
    cases fact with
    | sourceTarget target => exact LabelSet.mem_insert_iff_mem_or_eq
    | _ => exact (or_iff_left id).symm
  | external =>
    cases fact with
    | external target => exact LabelSet.mem_insert_iff_mem_or_eq
    | _ => exact (or_iff_left id).symm
  | android =>
    cases fact with
    | android target => exact LabelSet.mem_insert_iff_mem_or_eq
    | _ => exact (or_iff_left id).symm
  | referenced =>
    cases fact with
    | referenced label => exact LabelSet.mem_insertAll
    | _ => exact (or_iff_left id).symm

/-- **What a draft says after a run of writes that are all taken**: what it said before, and what
the writes say.

**Proof sketch.** By induction on the run, for any draft, with `Written.states_iff` for the first
write. -/
theorem states_writeAll_iff (h : (d.writeAll ws).2 = none) :
    (d.writeAll ws).1.States fact ↔ d.States fact ∨ ∃ w ∈ ws, w.States fact := by
  induction ws generalizing d with
  | nil => simp [writeAll]
  | cons w rest ih =>
    rw [writeAll] at h ⊢
    cases hwrite : d.write w with
    | error e =>
      rw [hwrite] at h
      cases h
    | ok after =>
      rw [hwrite] at h
      simp only [ih h, (written_of_write hwrite).states_iff, List.mem_cons, exists_eq_or_imp,
        or_assoc]

end Draft

/-! ### The writes about a target -/

namespace Target

variable {t : Target} {fact : Fact}

/-- A write about a target says nothing that the target does not say.

**Proof sketch.** One case for each write; only a fact of the same form has anything to say, and
then the field of the target that `Records` names is the one that `States` asks for. -/
theorem Records.states {w : Write} (hw : t.Records w) (hstates : w.States fact) :
    t.States fact := by
  cases w with
  | location target place =>
    cases fact with
    | location target' place' =>
      obtain ⟨rfl, hplace⟩ := hw
      exact ⟨hstates.1, place, hplace, hstates.2⟩
    | _ => cases hstates
  | sourceTarget target =>
    cases fact with
    | sourceTarget target' =>
      obtain ⟨rfl, howner⟩ := hw
      exact ⟨hstates, howner⟩
    | _ => cases hstates
  | file path target =>
    cases fact with
    | file path' target' =>
      obtain ⟨rfl, hkind, place, hplace, rfl⟩ := hw
      exact ⟨hstates.2, hkind, place, hplace, hstates.1⟩
    | _ => cases hstates
  | owner source rule =>
    cases fact with
    | owner source' rule' =>
      obtain ⟨rfl, howner⟩ := hw
      exact ⟨hstates.1, howner.trans (congrArg some hstates.2)⟩
    | _ => cases hstates
  | deps rule labels =>
    cases fact with
    | deps rule' labels' =>
      obtain ⟨rfl, deps, hdeps, rfl⟩ := hw
      obtain ⟨hrule, rfl⟩ := hstates
      exact ⟨hrule, deps, hdeps, fun _ => LabelSet.mem_ofList⟩
    | _ => cases hstates
  | external target => cases hw
  | android target =>
    cases fact with
    | android target' =>
      obtain ⟨rfl, hkind⟩ := hw
      exact ⟨hstates, hkind⟩
    | _ => cases hstates
  | kind target name =>
    cases fact with
    | kind target' name' =>
      obtain ⟨rfl, rfl⟩ := hw
      exact hstates
    | _ => cases hstates
  | referenced labels =>
    cases fact with
    | referenced label => exact ⟨labels, hw, hstates⟩
    | _ => cases hstates

/-- What a target says is said by a write about it: the one of the same form, for the field of the
target that the fact is about. -/
theorem States.exists_records (h : t.States fact) : ∃ w, t.Records w ∧ w.States fact := by
  cases fact with
  | location target place =>
    obtain ⟨hlabel, own, hown, hsame⟩ := h
    exact ⟨.location t.label own, ⟨rfl, hown⟩, hlabel, hsame⟩
  | sourceTarget target => exact ⟨.sourceTarget t.label, ⟨rfl, h.2⟩, h.1⟩
  | file path target =>
    obtain ⟨hlabel, hkind, place, hplace, hsame⟩ := h
    exact ⟨.file place.file t.label, ⟨rfl, hkind, place, hplace, rfl⟩, hsame, hlabel⟩
  | owner source rule => exact ⟨.owner t.label rule, ⟨rfl, h.2⟩, h.1, rfl⟩
  | deps rule labels =>
    obtain ⟨hlabel, deps, hdeps, hmem⟩ := h
    refine ⟨.deps t.label (Std.ExtTreeSet.ofList deps compare), ⟨rfl, deps, hdeps, rfl⟩,
      hlabel, ?_⟩
    exact Std.ExtTreeSet.ext_mem fun label => LabelSet.mem_ofList.trans (hmem label).symm
  | external target => cases h
  | android target => exact ⟨.android t.label, ⟨rfl, h.2⟩, h.1⟩
  | kind target name => exact ⟨.kind t.label t.kind, ⟨rfl, rfl⟩, h⟩
  | referenced label =>
    obtain ⟨deps, hdeps, hmem⟩ := h
    exact ⟨.referenced deps, hdeps, hmem⟩

/-- **The writes about a target say what the target says**: `Records.states` one way,
`States.exists_records` the other. -/
theorem exists_write_states_iff : (∃ w ∈ t.writes, w.States fact) ↔ t.States fact := by
  simp only [mem_writes]
  constructor
  · rintro ⟨w, hw, hstates⟩
    exact Records.states hw hstates
  · exact States.exists_records

end Target

/-- **What a draft says after a run of targets that are all recorded**: what it said before, and
what the targets say.

**Proof sketch.** Recording is one run of the writes about all the targets, so
`Draft.states_writeAll_iff` says what is added, and `Target.exists_write_states_iff` collects it
target by target. -/
theorem Draft.states_record_iff {d after : Draft} {targets : List Target} {fact : Fact}
    (h : d.record targets = (after, none)) :
    after.States fact ↔ d.States fact ∨ ∃ t ∈ targets, t.States fact := by
  have hnone : (d.writeAll (targets.flatMap Target.writes)).2 = none := congrArg Prod.snd h
  have hafter : (d.writeAll (targets.flatMap Target.writes)).1 = after := congrArg Prod.fst h
  rw [← hafter, Draft.states_writeAll_iff hnone]
  simp only [← Target.exists_write_states_iff, List.mem_flatMap]
  refine or_congr_right ⟨?_, ?_⟩
  · rintro ⟨w, ⟨t, ht, hw⟩, hsays⟩
    exact ⟨t, ht, w, hw, hsays⟩
  · rintro ⟨t, ht, w, hw, hsays⟩
    exact ⟨w, ⟨t, ht, hw⟩, hsays⟩

end TargetGraph
