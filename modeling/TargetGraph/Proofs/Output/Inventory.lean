import Mathlib.Data.List.Sort
import TargetGraph.Proofs.Output.Report

set_option relaxedAutoImplicit false
set_option autoImplicit false

/-!
# What a query output amounts to

A query output yields one target for each message about a rule, one for each message about a source
file, and one for each label that is owned and that neither a rule nor a source file has. None is
lost, and none is made up.

## Main definitions

* `TargetGraph.KeepsFirst` — the labels of a list, each where it stands first.
* `TargetGraph.RuleMessage.Yields`, `TargetGraph.FileMessage.Yields` — a target is what a message
  says.
* `TargetGraph.Report.Adds` — a target is what the messages say about a label that they only own.
* `TargetGraph.Report.Inventory` — all that a report amounts to.

## Main results

* `TargetGraph.keepsFirst_firstSeen` — what is kept of a rule's dependencies.
* `TargetGraph.Report.Inventory.targets_eq`, `TargetGraph.Report.Inventory.tally_eq` — a report
  amounts to one thing only.
* `TargetGraph.Contents.amounts_to_inventory` — a query output that is read gives just that.

## Design

The three groups of targets are said through the messages only. How they are found, with maps and
sets that are filled in two readings, is not part of the statement.
-/

namespace TargetGraph

attribute [ext] Target

/-! ### Each label where it stands first -/

/-- The second list has the labels of the first, each once, in the order in which they are first
seen there. -/
structure KeepsFirst (labels kept : List Label) : Prop where
  /-- Exactly the labels of the list are kept. -/
  mem : ∀ label, label ∈ kept ↔ label ∈ labels
  /-- What is kept earlier stands first earlier. -/
  ordered : kept.Pairwise fun first second => labels.idxOf first < labels.idxOf second

section KeepsFirst

variable {labels kept kept' : List Label} {first label : Label} {seen : LabelSet}

/-- Two lists of the same entries that are both ordered strictly are equal. -/
theorem eq_of_pairwise_of_mem_iff {α : Type} {r : α → α → Prop} {entries entries' : List α}
    (hasymm : ∀ a b, r a b → ¬r b a) (h : entries.Pairwise r) (h' : entries'.Pairwise r)
    (hmem : ∀ entry, entry ∈ entries ↔ entry ∈ entries') : entries = entries' := by
  have : Std.Irrefl r := ⟨fun a hself => hasymm a a hself hself⟩
  have : Std.Antisymm r := ⟨fun a b hab hba => absurd hba (hasymm a b hab)⟩
  exact h.eq_of_mem_iff h' hmem

/-- A list has one list of labels that are kept: its members are given, and so is their order. -/
theorem KeepsFirst.unique (h : KeepsFirst labels kept) (h' : KeepsFirst labels kept') :
    kept = kept' :=
  eq_of_pairwise_of_mem_iff (fun _ _ => Nat.lt_asymm) h.ordered h'.ordered fun label =>
    (h.mem label).trans (h'.mem label).symm

/-- What was found before comes first, whatever else is found.

**Proof sketch.** By induction on the rest, for all labels that were found before. A label that was
seen is passed over. A new one is put to those that were found, and by the induction hypothesis it
comes behind them and before what is found later. -/
theorem firstSeenFrom_eq_append :
    firstSeenFrom seen kept labels = kept.reverse ++ firstSeenFrom seen [] labels := by
  induction labels generalizing seen kept with
  | nil => simp [firstSeenFrom]
  | cons first rest ih =>
    rw [firstSeenFrom, firstSeenFrom]
    split
    · exact ih
    · have hfirst : firstSeenFrom (seen.insert first) [first] rest =
          first :: firstSeenFrom (seen.insert first) [] rest := ih
      rw [ih, hfirst, List.reverse_cons, List.append_assoc]
      rfl

/-- What is newly found was not seen before. -/
theorem not_mem_of_mem_firstSeenFrom (h : label ∈ firstSeenFrom seen [] labels) : label ∉ seen :=
  ((mem_firstSeenFrom.mp h).resolve_left List.not_mem_nil).2

/-- Labels that are ordered by where they stand in a list stay so when another label is put in front
of it: each of them stands one place further. -/
theorem pairwise_idxOf_cons (hfirst : first ∉ kept)
    (h : kept.Pairwise fun a b => labels.idxOf a < labels.idxOf b) :
    kept.Pairwise fun a b => (first :: labels).idxOf a < (first :: labels).idxOf b := by
  have hne : ∀ label ∈ kept, (first == label) = false := fun label hlabel =>
    beq_eq_false_iff_ne.mpr fun heq => hfirst (heq ▸ hlabel)
  refine h.imp_of_mem fun {a b} ha hb hlt => ?_
  rw [List.idxOf_cons, List.idxOf_cons, hne a ha, hne b hb]
  exact Nat.succ_lt_succ hlt

/-- Labels that are found by going through a list are found in the order in which they stand first.

**Proof sketch.** By induction on the list. A label that was seen before is not found again, so the
others stand one place further than in the rest of the list. A new label stands at the front. -/
theorem pairwise_firstSeenFrom : (firstSeenFrom seen [] labels).Pairwise fun a b =>
    labels.idxOf a < labels.idxOf b := by
  induction labels generalizing seen with
  | nil => exact .nil
  | cons first rest ih =>
    rw [firstSeenFrom]
    split
    · next hseen =>
      exact pairwise_idxOf_cons (fun hmem =>
        not_mem_of_mem_firstSeenFrom hmem (Std.ExtTreeSet.contains_iff_mem.mp hseen)) ih
    · have hfirst : first ∉ firstSeenFrom (seen.insert first) [] rest := fun hmem =>
        not_mem_of_mem_firstSeenFrom hmem (LabelSet.mem_insert_iff.mpr (.inl rfl))
      rw [firstSeenFrom_eq_append]
      refine List.pairwise_cons.mpr ⟨fun label hlabel => ?_, pairwise_idxOf_cons hfirst ih⟩
      have hne : (first == label) = false :=
        beq_eq_false_iff_ne.mpr fun heq => hfirst (heq ▸ hlabel)
      rw [List.idxOf_cons, List.idxOf_cons, beq_self_eq_true, hne]
      exact Nat.succ_pos _

/-- **Each label of a list is kept once, where it stands first.** -/
theorem keepsFirst_firstSeen : KeepsFirst labels (firstSeen labels) where
  mem _ := mem_firstSeen
  ordered := pairwise_firstSeenFrom

end KeepsFirst

/-! ### What messages say -/

namespace RuleMessage

variable {v : Vocabulary} {r : RuleMessage}

/-- The values of the attributes that are named for dependencies, and not for sources. -/
def dependencyValues (v : Vocabulary) (r : RuleMessage) : List String :=
  (r.attributes.filter fun a => v.dependencyAttributes.contains a.name &&
    !v.sourceAttributes.contains a.name).flatMap AttributeMessage.values

/-- A target is what a message about a rule says. -/
structure Yields (v : Vocabulary) (r : RuleMessage) (t : Target) : Prop where
  /-- It has the label of the rule. -/
  label : Label.parse? r.name = some t.label
  /-- Its kind is the rule's class. -/
  kind : t.kind = r.kind
  /-- Nobody is said to own it. -/
  owner : t.owner = none
  /-- It has no place. -/
  location : t.location = none
  /-- It has dependencies if its class carries sources: the labels that the values write, each where
  it is first seen. -/
  deps : if v.isSourceKind r.kind then
      ∃ named kept, List.Forall₂ (fun value label => Label.parse? value = some label)
          (r.dependencyValues v) named ∧ t.deps = some kept ∧ KeepsFirst named kept
    else t.deps = none

/-- An attribute holds dependencies when it is named for them, and not for sources. -/
theorem role_eq_dependency_iff {name : String} : v.role name = .dependency ↔
    (v.dependencyAttributes.contains name && !v.sourceAttributes.contains name) = true := by
  rw [Bool.and_eq_true, Bool.not_eq_true', Vocabulary.role]
  cases v.sourceAttributes.contains name <;> cases v.dependencyAttributes.contains name <;> simp

/-- Attributes that hold dependencies are told by what they are named for. -/
theorem filter_dependency (attributes : List AttributeMessage) :
    (attributes.filter fun a => v.role a.name == .dependency) =
      attributes.filter fun a => v.dependencyAttributes.contains a.name &&
        !v.sourceAttributes.contains a.name :=
  List.filter_congr fun _ _ => by rw [Bool.eq_iff_iff, beq_iff_eq, role_eq_dependency_iff]

/-- The dependencies are the labels that the values write. -/
theorem dependencyLabels_eq_filterMap :
    r.dependencyLabels v = (r.dependencyValues v).filterMap Label.parse? := by
  rw [dependencyLabels, dependencyValues, filter_dependency, List.filterMap_flatMap]
  rfl

/-- Each value in an attribute for dependencies writes one of the labels.

**Proof sketch.** A rule that is read and carries sources has only readable values there
(`RuleMessage.Readable`), so going through the values leaves none of them out. -/
theorem forall₂_dependencies (h : r.Readable v) (hkind : v.isSourceKind r.kind = true) :
    List.Forall₂ (fun value label => Label.parse? value = some label) (r.dependencyValues v)
      (r.dependencyLabels v) := by
  have hsome : ∀ value ∈ r.dependencyValues v, (Label.parse? value).isSome := by
    intro value hvalue
    obtain ⟨a, ha, hmem⟩ := List.mem_flatMap.mp hvalue
    obtain ⟨ha, hnamed⟩ := List.mem_filter.mp ha
    exact h.dependencies hkind a ha (role_eq_dependency_iff.mpr hnamed) value hmem
  rw [dependencyLabels_eq_filterMap]
  generalize r.dependencyValues v = values at hsome
  induction values with
  | nil => exact .nil
  | cons value rest ih =>
    obtain ⟨hvalue, hrest⟩ := List.forall_mem_cons.mp hsome
    obtain ⟨label, hlabel⟩ := Option.isSome_iff_exists.mp hvalue
    rw [List.filterMap_cons_some hlabel]
    exact .cons hlabel (ih hrest)

/-- The target of a rule is what the message about it says.

**Proof sketch.** Label and kind are kept by reading. The dependencies are those of
`RuleEntry.deps_target`, which are the labels that the values write (`forall₂_dependencies`), each
where it is first seen (`keepsFirst_firstSeen`). -/
theorem yields_target {rule : RuleEntry} (h : r.read v = .ok rule) : r.Yields v rule.target := by
  obtain ⟨hreadable, hlabel, hkind, _⟩ := read_eq_ok_iff.mp h
  refine ⟨hlabel, hkind, rfl, rfl, ?_⟩
  rw [RuleEntry.deps_target h]
  split
  · next hsource =>
    exact ⟨r.dependencyLabels v, _, forall₂_dependencies hreadable hsource, rfl,
      keepsFirst_firstSeen⟩
  · rfl

/-- A message about a rule says one thing only.

**Proof sketch.** Two targets that it yields agree field by field. For the dependencies, the labels
that the values write are determined one by one, and what is kept of them is unique too
(`KeepsFirst.unique`). -/
theorem Yields.unique {t other : Target} (h : r.Yields v t) (h' : r.Yields v other) :
    t = other := by
  have hlabel : t.label = other.label := Option.some.inj (h.label.symm.trans h'.label)
  have hkind : t.kind = other.kind := h.kind.trans h'.kind.symm
  have howner : t.owner = other.owner := h.owner.trans h'.owner.symm
  have hlocation : t.location = other.location := h.location.trans h'.location.symm
  have hdeps : t.deps = other.deps := by
    have hfirst := h.deps
    have hsecond := h'.deps
    split at hfirst
    · next hsource =>
      rw [if_pos hsource] at hsecond
      obtain ⟨named, kept, hnamed, hdeps, hkept⟩ := hfirst
      obtain ⟨named', kept', hnamed', hdeps', hkept'⟩ := hsecond
      have hparse : Relator.RightUnique fun value label => Label.parse? value = some label :=
        fun _ _ _ hlabel hlabel' => Option.some.inj (hlabel.symm.trans hlabel')
      obtain rfl := List.right_unique_forall₂' hparse hnamed hnamed'
      rw [hdeps, hdeps', hkept.unique hkept']
    · next hsource =>
      rw [if_neg hsource] at hsecond
      exact hfirst.trans hsecond.symm
  exact Target.ext hlabel hkind howner hdeps hlocation

/-- A rule is read with a listing when its class carries sources. -/
theorem isSome_listing {rule : RuleEntry} (h : r.read v = .ok rule) :
    rule.listing.isSome = v.isSourceKind r.kind := by
  obtain ⟨_, _, _, hlisting, _⟩ := read_eq_ok_iff.mp h
  rw [hlisting, listing?]
  cases v.isSourceKind r.kind <;> rfl

end RuleMessage

/-- A target is what a message about a source file says. -/
structure FileMessage.Yields (report : Report) (f : FileMessage) (t : Target) : Prop where
  /-- It has the label of the file. -/
  label : Label.parse? f.name = some t.label
  /-- It is a source file. -/
  kind : t.kind = sourceFileKind
  /-- Its owner, if it has one, is the one that is declared. -/
  owner : report.Owned t.label t.owner
  /-- It has no dependencies. -/
  deps : t.deps = none
  /-- Its place, if it has one, is the one that is reported. -/
  location : f.location.map Location.parse = t.location.map Except.ok

/-- A message about a source file says one thing only: its owner is determined by
`Declaration.Owned.unique`, and its place by what is reported. -/
theorem FileMessage.Yields.unique {report : Report} {f : FileMessage} {t other : Target}
    (h : f.Yields report t) (h' : f.Yields report other) : t = other := by
  have hlabel : t.label = other.label := Option.some.inj (h.label.symm.trans h'.label)
  have hkind : t.kind = other.kind := h.kind.trans h'.kind.symm
  have howner : t.owner = other.owner := h.owner.unique (hlabel ▸ h'.owner)
  have hdeps : t.deps = other.deps := h.deps.trans h'.deps.symm
  have hlocation : t.location = other.location :=
    Option.map_injective (fun _ _ => Except.ok.inj) (h.location.symm.trans h'.location)
  exact Target.ext hlabel hkind howner hdeps hlocation

namespace Report

/-- A rule of this label is reported. -/
def HasRule (report : Report) (label : Label) : Prop :=
  ∃ r, .rule r ∈ report.messages ∧ Label.parse? r.name = some label

/-- A source file of this label is reported. -/
def HasSource (report : Report) (label : Label) : Prop :=
  ∃ f, .sourceFile f ∈ report.messages ∧ Label.parse? f.name = some label

/-- A generated file of this label is reported. -/
def HasGenerated (report : Report) (label : Label) : Prop :=
  ∃ f, .generatedFile f ∈ report.messages ∧ Label.parse? f.name = some label

/-- A target is what the messages say about a label that somebody owns, and that neither a rule nor
a source file has. -/
structure Adds (report : Report) (t : Target) : Prop where
  /-- It has the owner that is declared. -/
  owner : ∃ owner, t.owner = some owner ∧ report.Owned t.label (some owner)
  /-- No rule has its label. -/
  rule : ¬report.HasRule t.label
  /-- No source file has it. -/
  source : ¬report.HasSource t.label
  /-- It is a generated file if it is reported as one, and a source file otherwise. -/
  kind : report.HasGenerated t.label ∧ t.kind = generatedFileKind ∨
    ¬report.HasGenerated t.label ∧ t.kind = sourceFileKind
  /-- It has no dependencies. -/
  deps : t.deps = none
  /-- It has no place. -/
  location : t.location = none

/-- All that a report amounts to. -/
structure Inventory (report : Report) where
  /-- The rules. -/
  rules : List Target
  /-- The source files. -/
  sources : List Target
  /-- What is only owned. -/
  added : List Target
  /-- The generated files that nobody owns. -/
  idle : List Label
  /-- There is one rule for each message about a rule, in the same order. -/
  yields_rules : List.Forall₂ (RuleMessage.Yields report.vocabulary)
    (report.messages.filterMap Message.rule?) rules
  /-- There is one source file for each message about one, in the same order. -/
  yields_sources : List.Forall₂ (FileMessage.Yields report)
    (report.messages.filterMap Message.source?) sources
  /-- All that is only owned is there. -/
  mem_added : ∀ t, t ∈ added ↔ report.Adds t
  /-- It is strictly ascending by label. -/
  ordered_added : added.Pairwise fun t other => Text.utf8 t.label.text < Text.utf8 other.label.text
  /-- All the generated files that nobody owns are there. -/
  mem_idle : ∀ label, label ∈ idle ↔ report.HasGenerated label ∧ report.Owned label none
  /-- Each is there once. -/
  nodup_idle : idle.Nodup

namespace Inventory

variable {report : Report}

/-- The targets of an inventory. -/
def targets (inventory : report.Inventory) : List Target :=
  inventory.rules ++ inventory.sources ++ inventory.added

/-- How much an inventory has of what. -/
def tally (inventory : report.Inventory) : Tally where
  rules := inventory.rules.length
  sourceRules := (report.messages.filterMap Message.rule?).countP fun r =>
    report.vocabulary.isSourceKind r.kind
  sourceFiles := inventory.sources.length
  skipped := report.messages.count .other + inventory.idle.length

variable (inventory other : report.Inventory)

/-- The rules are the same in every inventory. -/
theorem rules_eq : inventory.rules = other.rules := by
  have hunique : Relator.RightUnique (RuleMessage.Yields report.vocabulary) :=
    fun _ _ _ => RuleMessage.Yields.unique
  exact List.right_unique_forall₂' hunique inventory.yields_rules other.yields_rules

/-- The source files are the same in every inventory. -/
theorem sources_eq : inventory.sources = other.sources := by
  have hunique : Relator.RightUnique (FileMessage.Yields report) :=
    fun _ _ _ => FileMessage.Yields.unique
  exact List.right_unique_forall₂' hunique inventory.yields_sources other.yields_sources

/-- What is only owned is the same in every inventory. -/
theorem added_eq : inventory.added = other.added :=
  eq_of_pairwise_of_mem_iff (fun _ _ => List.lt_asymm) inventory.ordered_added other.ordered_added
    fun t => (inventory.mem_added t).trans (other.mem_added t).symm

/-- **A report amounts to the same targets in every inventory.** -/
theorem targets_eq : inventory.targets = other.targets := by
  rw [targets, targets, inventory.rules_eq other, inventory.sources_eq other,
    inventory.added_eq other]

/-- **Every inventory of a report has as much of everything.** -/
theorem tally_eq : inventory.tally = other.tally := by
  have hidle : inventory.idle.Perm other.idle :=
    (List.perm_ext_iff_of_nodup inventory.nodup_idle other.nodup_idle).mpr fun label =>
      (inventory.mem_idle label).trans (other.mem_idle label).symm
  rw [tally, tally, inventory.rules_eq other, inventory.sources_eq other, hidle.length_eq]

end Inventory

end Report

/-! ### Contents -/

namespace Contents

variable {v : Vocabulary} {messages : List Message} {c : Contents} {label : Label}

/-- The labels of entries that are read one by one are those that their names write.

**Proof sketch.** Each result is read from some entry (`exists_of_mem_right`), and from each entry
some result is read (`exists_of_mem_left`), whose label is the one that the name of the entry
writes. -/
theorem mem_map_iff_of_forall₂ {α β : Type} {R : α → β → Prop} {entries : List α} {results : List β}
    {name : α → String} {key : β → Label} (h : List.Forall₂ R entries results)
    (hname : ∀ entry result, R entry result → Label.parse? (name entry) = some (key result)) :
    label ∈ results.map key ↔ ∃ entry ∈ entries, Label.parse? (name entry) = some label := by
  rw [List.mem_map]
  constructor
  · rintro ⟨result, hresult, rfl⟩
    obtain ⟨entry, hentry, hread⟩ := exists_of_mem_right h hresult
    exact ⟨entry, hentry, hname entry result hread⟩
  · rintro ⟨entry, hentry, hlabel⟩
    obtain ⟨result, hresult, hread⟩ := exists_of_mem_left h hentry
    exact ⟨result, hresult, Option.some.inj ((hname entry result hread).symm.trans hlabel)⟩

/-- The labels of the rules are those that rules are reported under. -/
theorem mem_ruleLabels_iff (h : c.Reads v messages) :
    label ∈ c.ruleLabels ↔ Report.HasRule ⟨v, messages⟩ label := by
  rw [ruleLabels, LabelSet.mem_ofList, mem_map_iff_of_forall₂ h.rules fun _ _ hread =>
    (RuleMessage.read_eq_ok_iff.mp hread).2.1]
  exact exists_congr fun _ => and_congr_left' Message.mem_filterMap_rule?

/-- The labels of the source files are those that source files are reported under. -/
theorem mem_sourceLabels_iff (h : c.Reads v messages) :
    label ∈ c.sourceLabels ↔ Report.HasSource ⟨v, messages⟩ label := by
  rw [sourceLabels, LabelSet.mem_ofList, mem_map_iff_of_forall₂ h.sources fun _ _ hread =>
    (FileMessage.readSource_eq_ok_iff.mp hread).1]
  exact exists_congr fun _ => and_congr_left' Message.mem_filterMap_source?

/-- The labels of the generated files are those that generated files are reported under. -/
theorem mem_generatedLabels_iff (h : c.Reads v messages) :
    label ∈ c.generatedLabels ↔ Report.HasGenerated ⟨v, messages⟩ label := by
  rw [generatedLabels, LabelSet.mem_ofList, ← List.map_id' c.generated,
    mem_map_iff_of_forall₂ h.generated fun _ _ hread => Label.read_eq_ok_iff.mp hread]
  exact exists_congr fun _ => and_congr_left' Message.mem_filterMap_generated?

/-- A label has an owner when one is declared, and then it has that one: what the look-up finds is
declared (`owned_owners`), and nothing else is. -/
theorem getElem?_owners_iff (h : c.Reads v messages) {owner : Option Label} :
    c.owners[label]? = owner ↔ Report.Owned ⟨v, messages⟩ label owner := by
  have howned := owned_owners h label
  exact ⟨fun heq => heq ▸ howned, fun howner => howned.unique howner⟩

/-- What is only owned is added by the messages.

**Proof sketch.** `of_mem_unreported` says the same through the contents; what labels the rules, the
source files and the generated files have, and what the owners are, is carried over to the messages
by the four lemmas before this one. -/
theorem adds_of_mem_unreported (h : c.Reads v messages) {t : Target}
    (ht : t ∈ c.unreported c.owners) : Report.Adds ⟨v, messages⟩ t := by
  obtain ⟨howner, hdeps, hlocation, hkind, hrules, hsources⟩ := of_mem_unreported ht
  obtain ⟨⟨label, owner⟩, hentry, rfl⟩ := List.mem_map.mp ht
  refine ⟨⟨owner, rfl, (getElem?_owners_iff h).mp howner.symm⟩, fun hrule => ?_, fun hsource => ?_,
    ?_, hdeps, hlocation⟩
  · obtain ⟨rule, hmem, heq⟩ := List.mem_map.mp
      (LabelSet.mem_ofList.mp ((mem_ruleLabels_iff h).mpr hrule))
    exact hrules rule hmem heq
  · obtain ⟨source, hmem, heq⟩ := List.mem_map.mp
      (LabelSet.mem_ofList.mp ((mem_sourceLabels_iff h).mpr hsource))
    exact hsources source hmem heq
  · rw [← mem_generatedLabels_iff h, ← Std.ExtTreeSet.contains_iff_mem]
    by_cases hgenerated : c.generatedLabels.contains label = true
    · exact .inl ⟨hgenerated, hkind.trans (if_pos hgenerated)⟩
    · exact .inr ⟨hgenerated, hkind.trans (if_neg hgenerated)⟩

/-- What the messages add is among what is only owned: the entry of its label is there, and passes
the filter.

**Proof sketch.** The messages report the label neither as a rule nor as a source file, and the two
sets of labels say the same (`mem_ruleLabels_iff`, `mem_sourceLabels_iff`), so the filter lets the
entry pass. The kind that is added is the one of the messages, by whether they have generated the
file (`mem_generatedLabels_iff`). -/
theorem mem_unreported_of_adds (h : c.Reads v messages) {t : Target}
    (ht : Report.Adds ⟨v, messages⟩ t) : t ∈ c.unreported c.owners := by
  obtain ⟨⟨owner, howner, howned⟩, hrule, hsource, hkind, hdeps, hlocation⟩ := ht
  obtain ⟨label, kind, _, _, _⟩ := t
  subst howner hdeps hlocation
  rw [← mem_ruleLabels_iff h, ← Std.ExtTreeSet.contains_iff_mem, Bool.not_eq_true] at hrule
  rw [← mem_sourceLabels_iff h, ← Std.ExtTreeSet.contains_iff_mem, Bool.not_eq_true] at hsource
  rw [← mem_generatedLabels_iff h, ← Std.ExtTreeSet.contains_iff_mem] at hkind
  have hentry : (label, owner) ∈ c.owners.toList :=
    Std.ExtTreeMap.mem_toList_iff_getElem?_eq_some.mpr ((getElem?_owners_iff h).mpr howned)
  refine List.mem_map.mpr ⟨(label, owner), List.mem_filter.mpr ⟨hentry, ?_⟩, ?_⟩
  · rw [hrule, hsource]
    rfl
  · rcases hkind with ⟨hgenerated, rfl⟩ | ⟨hgenerated, rfl⟩
    · simp only [if_pos hgenerated]
    · simp only [if_neg hgenerated]

/-- What is only owned is what no rule and no source file has the label of: `adds_of_mem_unreported`
one way, `mem_unreported_of_adds` the other. -/
theorem mem_unreported_iff (h : c.Reads v messages) {t : Target} :
    t ∈ c.unreported c.owners ↔ Report.Adds ⟨v, messages⟩ t :=
  ⟨adds_of_mem_unreported h, mem_unreported_of_adds h⟩

/-- What is only owned is strictly ascending by label: it is taken from the entries of a map, in
their order. -/
theorem pairwise_unreported : (c.unreported c.owners).Pairwise fun t other =>
    Text.utf8 t.label.text < Text.utf8 other.label.text := by
  refine List.Pairwise.map _ (fun _ _ => id) (List.Pairwise.filter _ ?_)
  exact Std.ExtTreeMap.ordered_keys_toList.imp fun hlt => (Label.compare_eq_lt_iff _ _).mp hlt

/-- The generated files that nobody owns. -/
theorem mem_filter_generatedLabels_iff (h : c.Reads v messages) :
    label ∈ (c.generatedLabels.filter fun label => !c.owners.contains label) ↔
      Report.HasGenerated ⟨v, messages⟩ label ∧ Report.Owned ⟨v, messages⟩ label none := by
  rw [← mem_generatedLabels_iff h, ← getElem?_owners_iff h, ← LabelMap.not_contains_iff]
  simp [← Bool.not_eq_true]

/-- All that some contents amount to. -/
def inventory (h : c.Reads v messages) : Report.Inventory ⟨v, messages⟩ where
  rules := c.rules.map RuleEntry.target
  sources := c.sources.map (SourceEntry.target c.owners)
  added := c.unreported c.owners
  idle := (c.generatedLabels.filter fun label => !c.owners.contains label).toList
  yields_rules :=
    List.forall₂_map_right_iff.mpr (h.rules.imp fun _ _ hread => RuleMessage.yields_target hread)
  yields_sources :=
    List.forall₂_map_right_iff.mpr (h.sources.imp fun _ source hread =>
      have hparts := FileMessage.readSource_eq_ok_iff.mp hread
      { label := hparts.1
        kind := rfl
        owner := owned_owners h source.label
        deps := rfl
        location := hparts.2 })
  mem_added _ := mem_unreported_iff h
  ordered_added := pairwise_unreported
  mem_idle label := by
    rw [Std.ExtTreeSet.mem_toList]
    exact mem_filter_generatedLabels_iff h
  nodup_idle := Std.ExtTreeSet.distinct_toList.imp fun hne => by
    rintro rfl
    exact hne Std.ReflCmp.compare_self

/-- Entries and what they were read to are counted alike. -/
theorem countP_eq_of_forall₂ {α β : Type} {R : α → β → Prop} {p : α → Bool} {q : β → Bool}
    {entries : List α} {results : List β} (h : List.Forall₂ R entries results)
    (hsame : ∀ entry result, R entry result → p entry = q result) :
    entries.countP p = results.countP q := by
  induction h with
  | nil => rfl
  | cons hentry _ ih => rw [List.countP_cons, List.countP_cons, ih, hsame _ _ hentry]

/-- What is counted of some contents is what their inventory has. The rules that carry sources are
counted among the rules that were read, and these are as many as the messages about such rules
(`countP_eq_of_forall₂`). -/
theorem tally_inventory (h : c.Reads v messages) (hothers : c.others = messages.count .other) :
    c.tally = (inventory h).tally := by
  have hsourceRules : c.rules.countP (fun rule => rule.listing.isSome) =
      (messages.filterMap Message.rule?).countP fun r => v.isSourceKind r.kind :=
    countP_eq_of_forall₂ h.rules.flip fun _ _ hread => RuleMessage.isSome_listing hread
  simp [tally, Report.Inventory.tally, inventory, hsourceRules, hothers]

/-- **What a query output amounts to.** The targets of an output that is read are one for each
message about a rule, then one for each message about a source file, both in the order of the
messages, then one for each label that is owned and that neither of these has, in label order. What
is counted is how many there are of these, and how much is of no use.

**Proof sketch.** The contents of the messages have an inventory (`inventory`), with these targets
and counts, and all inventories of a report are the same. -/
theorem amounts_to_inventory (v : Vocabulary) (bytes : List UInt8) (c : Contents)
    (h : readOutput v bytes = .ok c) :
    ∃ messages, decodeMessages bytes = .ok messages ∧
      Nonempty (Report.Inventory ⟨v, messages⟩) ∧
      ∀ inventory : Report.Inventory ⟨v, messages⟩,
        c.targets = inventory.targets ∧ c.tally = inventory.tally := by
  obtain ⟨messages, hmessages, hread⟩ := readOutput_eq_ok_iff.mp h
  have hreads := reads_of_read hread
  have htargets : c.targets = (inventory hreads).targets := rfl
  have htally := tally_inventory hreads (others_of_read hread)
  refine ⟨messages, hmessages, ⟨inventory hreads⟩, fun other => ⟨?_, ?_⟩⟩
  · rw [htargets, (inventory hreads).targets_eq other]
  · rw [htally, (inventory hreads).tally_eq other]

/-- A rule that lists a file group, a source file, a generated file and an empty value as sources,
and depends on one rule twice. Of two more messages nothing is made. -/
def mixedSources : List UInt8 :=
  Text.utf8 <|
    "\x7b\"type\":\"SOURCE_FILE\",\"sourceFile\":\x7b\"name\":\"//a:S.java\"\x7d\x7d" ++
    "\x7b\"type\":\"RULE\",\"rule\":\x7b\"name\":\"//a:lib\",\"ruleClass\":\"java_library\"," ++
      "\"attribute\":[\x7b\"name\":\"srcs\",\"stringListValue\":" ++
      "[\"//a:group\",\"//a:S.java\",\"\",\"//a:Z.java\"]\x7d," ++
      "\x7b\"name\":\"deps\",\"stringListValue\":[\"//b:b\",\"//b:b\"]\x7d]\x7d\x7d" ++
    "\x7b\"type\":\"RULE\",\"rule\":\x7b\"name\":\"//a:group\",\"ruleClass\":\"filegroup\"," ++
      "\"attribute\":[\x7b\"name\":\"srcs\",\"stringListValue\":[\"//a:M.java\"]\x7d]\x7d\x7d" ++
    "\x7b\"type\":\"GENERATED_FILE\",\"generatedFile\":\x7b\"name\":\"//a:Z.java\"\x7d\x7d" ++
    "\x7b\"type\":\"GENERATED_FILE\",\"generatedFile\":\x7b\"name\":\"//a:idle.txt\"\x7d\x7d" ++
    "\x7b\"type\":\"PACKAGE_GROUP\"\x7d"

/-- The inventory of the mixed sources: two rules, a source file, and two files that are only
owned. -/
theorem inventory_mixedSources : ∃ messages, decodeMessages mixedSources = .ok messages ∧
    ∃ inventory : Report.Inventory ⟨{}, messages⟩,
      inventory.tally = ⟨2, 1, 1, 2⟩ ∧
      inventory.targets.map (fun t => (t.label.text, t.kind)) =
        [("//a:lib", "java_library"), ("//a:group", "filegroup"), ("//a:S.java", "source file"),
          ("//a:M.java", "source file"), ("//a:Z.java", "generated file")] := by
  have hread : (readOutput {} mixedSources).toOption.any (fun c =>
      c.tally == ⟨2, 1, 1, 2⟩ && c.targets.map (fun t => (t.label.text, t.kind)) ==
        [("//a:lib", "java_library"), ("//a:group", "filegroup"), ("//a:S.java", "source file"),
          ("//a:M.java", "source file"), ("//a:Z.java", "generated file")]) = true := by
    decide +kernel
  obtain ⟨c, hok, hchecked⟩ := exists_ok_of_any hread
  obtain ⟨htally, htargets⟩ := Bool.and_eq_true_iff.mp hchecked
  obtain ⟨messages, hmessages, ⟨inventory⟩, hall⟩ := amounts_to_inventory {} mixedSources c hok
  rw [(hall inventory).2, beq_iff_eq] at htally
  rw [(hall inventory).1, beq_iff_eq] at htargets
  exact ⟨messages, hmessages, inventory, htally, htargets⟩

end Contents

end TargetGraph
