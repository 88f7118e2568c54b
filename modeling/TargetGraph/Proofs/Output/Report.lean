import TargetGraph.Proofs.Closure.Reach
import TargetGraph.Proofs.Draft.Union
import TargetGraph.Proofs.Output.Acceptance
import TargetGraph.Proofs.Ownership.Declared

set_option relaxedAutoImplicit false
set_option autoImplicit false

/-!
# What the snapshot of a query output holds

The collections of a snapshot, said through the messages that it was made from.

## Main definitions

* `TargetGraph.Report` — the messages of a query output, with the vocabulary that they are read in.
* `TargetGraph.Report.Enumerates`, `TargetGraph.Report.Locates`, `TargetGraph.Report.DependsOn`,
  `TargetGraph.Report.Tracks`, `TargetGraph.Report.Owned` — what the messages say about rules,
  places, dependencies, files and owners.
* `TargetGraph.Snapshot.Reflects` — a snapshot holds what the messages say.

## Main results

* `TargetGraph.Snapshot.exists_reflects_of_ofOutput` — the snapshot of a query output does.
-/

namespace TargetGraph

open Relation

/-- The messages of a query output, with the vocabulary that they are read in. -/
structure Report where
  /-- The vocabulary. -/
  vocabulary : Vocabulary
  /-- The messages, in order. -/
  messages : List Message

namespace Report

/-- A rule of this label that carries sources is reported. -/
def Enumerates (report : Report) (label : Label) : Prop :=
  ∃ r, .rule r ∈ report.messages ∧ report.vocabulary.isSourceKind r.kind = true ∧
    Label.parse? r.name = some label

/-- A source file of this label is reported with a location. -/
def Locates (report : Report) (label : Label) : Prop :=
  ∃ f, .sourceFile f ∈ report.messages ∧ Label.parse? f.name = some label ∧ f.location.isSome

/-- A rule that carries sources is reported with this dependency. -/
def DependsOn (report : Report) (rule dep : Label) : Prop :=
  ∃ r, .rule r ∈ report.messages ∧ report.vocabulary.isSourceKind r.kind = true ∧
    Label.parse? r.name = some rule ∧ dep ∈ r.dependencyLabels report.vocabulary

/-- The second label can be reached from the first along any number of dependencies. -/
def Reaches (report : Report) : Label → Label → Prop :=
  ReflTransGen report.DependsOn

/-- A source file of this label is reported at this path. -/
def Tracks (report : Report) (path : SourcePath) (source : Label) : Prop :=
  ∃ f, .sourceFile f ∈ report.messages ∧ Label.parse? f.name = some source ∧
    ∃ place, f.place? = some place ∧ (place.file == path) = true

/-- The owner of a label, if it has one, by what the messages declare. -/
def Owned (report : Report) (source : Label) (owner : Option Label) : Prop :=
  (Declaration.ofMessages report.vocabulary report.messages).Owned source owner

/-! What the messages say of single labels can be looked up in them. -/

variable (report : Report) (label rule dep : Label)

instance : Decidable (report.Enumerates label) :=
  decidable_of_iff (∃ r ∈ report.messages.filterMap Message.rule?,
    report.vocabulary.isSourceKind r.kind = true ∧ Label.parse? r.name = some label)
    (exists_congr fun _ => and_congr_left' Message.mem_filterMap_rule?)

instance : Decidable (report.Locates label) :=
  decidable_of_iff (∃ f ∈ report.messages.filterMap Message.source?,
    Label.parse? f.name = some label ∧ f.location.isSome)
    (exists_congr fun _ => and_congr_left' Message.mem_filterMap_source?)

instance : Decidable (report.DependsOn rule dep) :=
  decidable_of_iff (∃ r ∈ report.messages.filterMap Message.rule?,
    report.vocabulary.isSourceKind r.kind = true ∧ Label.parse? r.name = some rule ∧
      dep ∈ r.dependencyLabels report.vocabulary)
    (exists_congr fun _ => and_congr_left' Message.mem_filterMap_rule?)

end Report

/-- The snapshot holds what the messages say. -/
structure Snapshot.Reflects (s : Snapshot) (report : Report) : Prop where
  /-- The rules with dependencies are those that are enumerated. -/
  mem_deps : ∀ label, label ∈ s.deps ↔ report.Enumerates label
  /-- They have the dependencies that they are reported with. -/
  dependsOn : ∀ rule dep, s.DependsOn rule dep ↔ report.DependsOn rule dep
  /-- The targets with a place are those that are reported with a location. -/
  mem_locations : ∀ label, label ∈ s.locations ↔ report.Locates label
  /-- Outside the project is what is a dependency of some rule and neither enumerated nor
  placed. -/
  mem_external : ∀ label, label ∈ s.external ↔
    (∃ rule, report.DependsOn rule label) ∧ ¬report.Enumerates label ∧ ¬report.Locates label
  /-- The tracked files are those that source files are reported at. -/
  files : ∀ path source, s.files[path]? = some source ↔ report.Tracks path source
  /-- A file is tracked for the target that has its place there. -/
  placed : ∀ (path : SourcePath) (source : Label), s.files[path]? = some source ↔
    ∃ place : Location, s.locations[source]? = some place ∧ (place.file == path) = true
  /-- A target with a place has the owner that is declared. -/
  owned : ∀ source ∈ s.locations, report.Owned source s.owners[source]?
  /-- Every owner is an enumerated rule, and has the kind of one. -/
  owner : ∀ source owner : Label, s.owners[source]? = some owner → owner ∈ s.deps ∧
    ∃ kind, s.kinds[owner]? = some kind ∧ report.vocabulary.isSourceKind kind = true

/-- The owner of a file is that of the source that the file is tracked for. -/
theorem Snapshot.owner?_eq_some_iff {s : Snapshot} {path : SourcePath} {owner : Label} :
    s.owner? path = some owner ↔
      ∃ source, s.files[path]? = some source ∧ s.owners[source]? = some owner := by
  unfold Snapshot.owner?
  cases s.files[path]? <;> simp

/-! ### The targets of some messages -/

namespace Contents

variable {v : Vocabulary} {messages : List Message} {c : Contents} {t : Target}
  {deps : List Label} {place : Location} {label : Label}

/-- A target with dependencies is a rule that carries sources, with those it is reported with.

**Proof sketch.** Of the three groups of `mem_targets` only the rules have dependencies, and
`RuleEntry.deps_target_eq_some_iff` says which. -/
theorem exists_rule_of_deps (h : c.Reads v messages) (ht : t ∈ c.targets)
    (hdeps : t.deps = some deps) : ∃ r, .rule r ∈ messages ∧ v.isSourceKind r.kind = true ∧
      Label.parse? r.name = some t.label ∧ deps = firstSeen (r.dependencyLabels v) := by
  rcases mem_targets.mp ht with ⟨rule, hrule, rfl⟩ | ⟨source, _, rfl⟩ | hunreported
  · obtain ⟨r, hr, hread⟩ := h.exists_rule_message hrule
    obtain ⟨hkind, hdeps⟩ := (RuleEntry.deps_target_eq_some_iff hread).mp hdeps
    exact ⟨r, hr, hkind, (RuleMessage.read_eq_ok_iff.mp hread).2.1, hdeps⟩
  · cases hdeps
  · rw [(of_mem_unreported hunreported).2.1] at hdeps
    cases hdeps

/-- A reported rule is a target, of its class, and with its dependencies if it carries sources. -/
theorem exists_target_of_rule (h : c.Reads v messages) {r : RuleMessage} (hr : .rule r ∈ messages)
    (hlabel : Label.parse? r.name = some label) : ∃ t ∈ c.targets, t.label = label ∧
      t.kind = r.kind ∧ (v.isSourceKind r.kind = true →
        t.deps = some (firstSeen (r.dependencyLabels v))) := by
  obtain ⟨rule, hrule, hread⟩ := h.exists_rule hr
  obtain ⟨_, hname, hkind, _⟩ := RuleMessage.read_eq_ok_iff.mp hread
  refine ⟨rule.target, target_mem_of_rule hrule, ?_, hkind, fun hsource => ?_⟩
  · exact Option.some.inj (hname.symm.trans hlabel)
  · exact (RuleEntry.deps_target_eq_some_iff hread).mpr ⟨hsource, rfl⟩

/-- A target with a place is a source file, with the place that it is reported at.

**Proof sketch.** Of the three groups of `mem_targets` only the source files have a place, and it is
the one in the message (`SourceEntry.location_eq`). -/
theorem exists_source_of_location (h : c.Reads v messages) (ht : t ∈ c.targets)
    (hplace : t.location = some place) : t.kind = sourceFileKind ∧
      ∃ f, .sourceFile f ∈ messages ∧ Label.parse? f.name = some t.label ∧
        f.place? = some place := by
  rcases mem_targets.mp ht with ⟨rule, _, rfl⟩ | ⟨source, hsource, rfl⟩ | hunreported
  · cases hplace
  · obtain ⟨f, hf, hread⟩ := h.exists_source_message hsource
    refine ⟨rfl, f, hf, (FileMessage.readSource_eq_ok_iff.mp hread).1, ?_⟩
    rw [← SourceEntry.location_eq hread]
    exact hplace
  · rw [(of_mem_unreported hunreported).2.2.1] at hplace
    cases hplace

/-- A reported source file is a target, with its place and its owner. -/
theorem exists_target_of_source (h : c.Reads v messages) {f : FileMessage}
    (hf : .sourceFile f ∈ messages) (hlabel : Label.parse? f.name = some label) :
    ∃ t ∈ c.targets, t.label = label ∧ t.kind = sourceFileKind ∧ t.location = f.place? ∧
      t.owner = c.owners[label]? := by
  obtain ⟨source, hsource, hread⟩ := h.exists_source hf
  have hname : source.label = label :=
    Option.some.inj ((FileMessage.readSource_eq_ok_iff.mp hread).1.symm.trans hlabel)
  refine ⟨source.target c.owners, target_mem_of_source hsource, hname, rfl,
    SourceEntry.location_eq hread, ?_⟩
  rw [← hname]
  rfl

/-- A location that is reported is a place: the file has been read, so its location has been read as
well. -/
theorem isSome_place?_iff (h : c.Reads v messages) {f : FileMessage}
    (hf : .sourceFile f ∈ messages) : f.place?.isSome ↔ f.location.isSome := by
  obtain ⟨source, _, hread⟩ := h.exists_source hf
  obtain ⟨_, hlocation⟩ := FileMessage.readSource_eq_ok_iff.mp hread
  have hsome := congrArg Option.isSome hlocation
  rw [Option.isSome_map, Option.isSome_map] at hsome
  rw [← SourceEntry.location_eq hread, hsome]

end Contents

/-! ### Declared owners -/

/-- An owner lists something itself: the source, or the group that the owner was forwarded from. -/
theorem Declaration.Owned.exists_lister {d : Declaration} {source owner : Label}
    (h : d.Owned source (some owner)) : ∃ listed, d.lister listed = some owner := by
  cases h with
  | listed hlister => exact ⟨source, hlister⟩
  | forwarded _ _ howner => exact ⟨_, howner⟩

/-- What lists a source is a reported rule that carries sources. -/
theorem Declaration.exists_rule_of_lister {v : Vocabulary} {messages : List Message}
    {source owner : Label} (h : (Declaration.ofMessages v messages).lister source = some owner) :
    ∃ r, .rule r ∈ messages ∧ v.isSourceKind r.kind = true ∧ Label.parse? r.name = some owner := by
  obtain ⟨r, hfound, hname⟩ := Option.bind_eq_some_iff.mp h
  have hlists := List.find?_some hfound
  rw [RuleMessage.lists, Bool.and_eq_true] at hlists
  exact ⟨r, Message.mem_filterMap_rule?.mp (List.mem_of_find?_eq_some hfound), hlists.1, hname⟩

/-! ### The snapshot of some messages -/

namespace Snapshot

variable {v : Vocabulary} {bytes : List UInt8} {messages : List Message} {c : Contents}
  {s : Snapshot}

/-- The snapshot of a query output is that of the targets of its messages. -/
theorem exists_contents_of_ofOutput (h : Snapshot.ofOutput v bytes = .ok s) :
    ∃ messages c, decodeMessages bytes = .ok messages ∧ Contents.Reads v messages c ∧
      Snapshot.ofTargets c.targets = .ok s := by
  obtain ⟨c, hread, htargets⟩ := ofOutput_eq_ok_iff.mp h
  obtain ⟨messages, hmessages, hreads⟩ := Contents.reads_of_readOutput hread
  exact ⟨messages, c, hmessages, hreads, htargets⟩

namespace UnionOf

variable {rule dep label source owner : Label} {labels : LabelSet} {place : Location}
  {path : SourcePath}

/-- The dependencies in the snapshot are those that an enumerated rule is reported with.

**Proof sketch.** They are the dependencies of some target, by `UnionOf`. Such a target is a
reported rule (`Contents.exists_rule_of_deps`), and a reported rule is such a target
(`Contents.exists_target_of_rule`). -/
theorem getElem?_deps_iff (hs : s.UnionOf c.targets) (h : c.Reads v messages) :
    s.deps[rule]? = some labels ↔ ∃ r, .rule r ∈ messages ∧ v.isSourceKind r.kind = true ∧
      Label.parse? r.name = some rule ∧ ∀ label, label ∈ labels ↔ label ∈ r.dependencyLabels v := by
  rw [hs.deps]
  constructor
  · rintro ⟨t, ht, rfl, deps, hdeps, hmem⟩
    obtain ⟨r, hr, hkind, hname, rfl⟩ := Contents.exists_rule_of_deps h ht hdeps
    exact ⟨r, hr, hkind, hname, fun label => (hmem label).trans mem_firstSeen⟩
  · rintro ⟨r, hr, hkind, hname, hmem⟩
    obtain ⟨t, ht, hlabel, _, hdeps⟩ := Contents.exists_target_of_rule h hr hname
    exact ⟨t, ht, hlabel, _, hdeps hkind, fun label => (hmem label).trans mem_firstSeen.symm⟩

/-- The rules with dependencies are those that are enumerated: a rule that is enumerated has a set
of dependencies, even if it is empty. -/
theorem mem_deps_iff (hs : s.UnionOf c.targets) (h : c.Reads v messages) :
    label ∈ s.deps ↔ Report.Enumerates ⟨v, messages⟩ label := by
  rw [Std.ExtTreeMap.mem_iff_isSome_getElem?, Option.isSome_iff_exists]
  simp only [hs.getElem?_deps_iff h]
  constructor
  · rintro ⟨_, r, hr, hkind, hname, _⟩
    exact ⟨r, hr, hkind, hname⟩
  · rintro ⟨r, hr, hkind, hname⟩
    exact ⟨Std.ExtTreeSet.ofList (r.dependencyLabels v) compare, r, hr, hkind, hname,
      fun label => LabelSet.mem_ofList⟩

/-- A rule depends on what it is reported to depend on, by `getElem?_deps_iff`. -/
theorem dependsOn_iff (hs : s.UnionOf c.targets) (h : c.Reads v messages) :
    s.DependsOn rule dep ↔ Report.DependsOn ⟨v, messages⟩ rule dep := by
  unfold Snapshot.DependsOn
  simp only [hs.getElem?_deps_iff h]
  constructor
  · rintro ⟨labels, ⟨r, hr, hkind, hname, hmem⟩, hdep⟩
    exact ⟨r, hr, hkind, hname, (hmem dep).mp hdep⟩
  · rintro ⟨r, hr, hkind, hname, hdep⟩
    exact ⟨Std.ExtTreeSet.ofList (r.dependencyLabels v) compare,
      ⟨r, hr, hkind, hname, fun label => LabelSet.mem_ofList⟩, LabelSet.mem_ofList.mpr hdep⟩

/-- The places in the snapshot are those that source files are reported at.

**Proof sketch.** They are the places of targets, by `UnionOf`, and
`Contents.exists_source_of_location` and `Contents.exists_target_of_source` go from a target with a
place to its message and back. -/
theorem holds_locations_iff (hs : s.UnionOf c.targets) (h : c.Reads v messages) :
    Holds s.locations label place ↔ ∃ f, .sourceFile f ∈ messages ∧
      Label.parse? f.name = some label ∧ ∃ own, f.place? = some own ∧ (own == place) = true := by
  rw [hs.locations]
  constructor
  · rintro ⟨t, ht, rfl, own, hown, hsame⟩
    obtain ⟨_, f, hf, hname, hplace⟩ := Contents.exists_source_of_location h ht hown
    exact ⟨f, hf, hname, own, hplace, hsame⟩
  · rintro ⟨f, hf, hname, own, hown, hsame⟩
    obtain ⟨t, ht, hlabel, _, hplace, _⟩ := Contents.exists_target_of_source h hf hname
    exact ⟨t, ht, hlabel, own, hplace.trans hown, hsame⟩

/-- The targets with a place are those that are reported with a location, since a location that is
reported has been read (`Contents.isSome_place?_iff`). -/
theorem mem_locations_iff (hs : s.UnionOf c.targets) (h : c.Reads v messages) :
    label ∈ s.locations ↔ Report.Locates ⟨v, messages⟩ label := by
  rw [mem_iff_exists_holds]
  simp only [hs.holds_locations_iff h]
  constructor
  · rintro ⟨_, f, hf, hname, own, hown, _⟩
    exact ⟨f, hf, hname, (Contents.isSome_place?_iff h hf).mp (by rw [hown]; rfl)⟩
  · rintro ⟨f, hf, hname, hlocation⟩
    obtain ⟨own, hown⟩ := Option.isSome_iff_exists.mp
      ((Contents.isSome_place?_iff h hf).mpr hlocation)
    exact ⟨own, f, hf, hname, own, hown, BEq.rfl⟩

/-- The tracked files are those that source files are reported at.

**Proof sketch.** As for `holds_locations_iff`, with the kind of the target: what has a place is a
source file. -/
theorem getElem?_files_iff (hs : s.UnionOf c.targets) (h : c.Reads v messages) :
    s.files[path]? = some source ↔ Report.Tracks ⟨v, messages⟩ path source := by
  rw [hs.files]
  constructor
  · rintro ⟨t, ht, rfl, _, place, hplace, hpath⟩
    obtain ⟨_, f, hf, hname, hown⟩ := Contents.exists_source_of_location h ht hplace
    exact ⟨f, hf, hname, place, hown, hpath⟩
  · rintro ⟨f, hf, hname, place, hplace, hpath⟩
    obtain ⟨t, ht, hlabel, hkind, hown, _⟩ := Contents.exists_target_of_source h hf hname
    exact ⟨t, ht, hlabel, hkind, place, hown.trans hplace, hpath⟩

/-- A file is tracked for the target that has its place there.

**Proof sketch.** Both sides are about a message that reports the source at this path
(`getElem?_files_iff`, `holds_locations_iff`). The place in the snapshot is the same as the reported
one only up to spelling, and so is the path of its file. -/
theorem files_iff_locations (hs : s.UnionOf c.targets) (h : c.Reads v messages) :
    s.files[path]? = some source ↔
      ∃ place, s.locations[source]? = some place ∧ (place.file == path) = true := by
  rw [hs.getElem?_files_iff h]
  constructor
  · rintro ⟨f, hf, hname, own, hown, hpath⟩
    obtain ⟨place, hplace, hsame⟩ :=
      (hs.holds_locations_iff h).mpr ⟨f, hf, hname, own, hown, BEq.rfl⟩
    exact ⟨place, hplace, BEq.trans (Location.beq_iff.mp hsame).1 hpath⟩
  · rintro ⟨place, hplace, hpath⟩
    obtain ⟨f, hf, hname, own, hown, hsame⟩ :=
      (hs.holds_locations_iff h).mp ⟨place, hplace, BEq.rfl⟩
    exact ⟨f, hf, hname, own, hown, BEq.trans (Location.beq_iff.mp hsame).1 hpath⟩

/-- The owners in the snapshot are those that the messages give. -/
theorem getElem?_owners_of_targets (hs : s.UnionOf c.targets)
    (howner : s.owners[source]? = some owner) : c.owners[source]? = some owner := by
  obtain ⟨t, ht, rfl, hown⟩ := (hs.owners source owner).mp howner
  exact Contents.owner_of_mem_targets ht hown

/-- A target with a place has the owner that the messages give it: it is a source file, and these
are recorded with their owners (`Contents.exists_target_of_source`). -/
theorem getElem?_owners_of_mem_locations (hs : s.UnionOf c.targets) (h : c.Reads v messages)
    (hplace : source ∈ s.locations) : s.owners[source]? = c.owners[source]? := by
  obtain ⟨f, hf, hname, _⟩ := (hs.mem_locations_iff h).mp hplace
  obtain ⟨t, ht, hlabel, _, _, howner⟩ := Contents.exists_target_of_source h hf hname
  refine Option.ext fun owner => ⟨hs.getElem?_owners_of_targets, fun hgiven => ?_⟩
  exact (hs.owners source owner).mpr ⟨t, ht, hlabel, howner.trans hgiven⟩

/-- An owner is a rule that is reported, and carries sources.

**Proof sketch.** The owner in the snapshot is the declared one (`Contents.owned_owners`). An owner
lists something (`Declaration.Owned.exists_lister`), and what lists something is such a rule. -/
theorem exists_rule_of_owner (hs : s.UnionOf c.targets) (h : c.Reads v messages)
    (howner : s.owners[source]? = some owner) :
    ∃ r, .rule r ∈ messages ∧ v.isSourceKind r.kind = true ∧ Label.parse? r.name = some owner := by
  have howned := Contents.owned_owners h source
  rw [hs.getElem?_owners_of_targets howner] at howned
  obtain ⟨_, hlister⟩ := howned.exists_lister
  exact Declaration.exists_rule_of_lister hlister

/-- What some target names as a dependency is what some rule is reported to depend on.

**Proof sketch.** A target with dependencies comes from a message about a rule that carries sources
(`Contents.exists_rule_of_deps`), and such a message makes a target with the dependencies that it
names (`Contents.exists_target_of_rule`). -/
theorem exists_deps_iff (h : c.Reads v messages) :
    (∃ t ∈ c.targets, ∃ deps, t.deps = some deps ∧ label ∈ deps) ↔
      ∃ rule, Report.DependsOn ⟨v, messages⟩ rule label := by
  constructor
  · rintro ⟨t, ht, deps, hdeps, hmem⟩
    obtain ⟨r, hr, hkind, hname, rfl⟩ := Contents.exists_rule_of_deps h ht hdeps
    exact ⟨t.label, r, hr, hkind, hname, mem_firstSeen.mp hmem⟩
  · rintro ⟨rule, r, hr, hkind, hname, hmem⟩
    obtain ⟨t, ht, _, _, hdeps⟩ := Contents.exists_target_of_rule h hr hname
    exact ⟨t, ht, _, hdeps hkind, mem_firstSeen.mpr hmem⟩

/-- **The union of the targets of some messages holds what the messages say.**

**Proof sketch.** One lemma above for each field. What is outside the project is what some target
names as a dependency (`exists_deps_iff`) and what has neither dependencies nor a place of its own
(`mem_deps_iff`, `mem_locations_iff`). -/
theorem reflects (hs : s.UnionOf c.targets) (h : c.Reads v messages) :
    s.Reflects ⟨v, messages⟩ where
  mem_deps _ := hs.mem_deps_iff h
  dependsOn _ _ := hs.dependsOn_iff h
  mem_locations _ := hs.mem_locations_iff h
  mem_external label := by
    rw [hs.external, exists_deps_iff h, hs.mem_deps_iff h, hs.mem_locations_iff h]
  files _ _ := hs.getElem?_files_iff h
  placed _ _ := hs.files_iff_locations h
  owned source hplace := by
    rw [hs.getElem?_owners_of_mem_locations h hplace]
    exact Contents.owned_owners h source
  owner source owner howner := by
    obtain ⟨r, hr, hkind, hname⟩ := hs.exists_rule_of_owner h howner
    obtain ⟨t, ht, hlabel, hclass, _⟩ := Contents.exists_target_of_rule h hr hname
    exact ⟨(hs.mem_deps_iff h).mpr ⟨r, hr, hkind, hname⟩, r.kind,
      (hs.kinds owner r.kind).mpr ⟨t, ht, hlabel, hclass⟩, hkind⟩

end UnionOf

/-- **The snapshot of a query output holds what its messages say.** -/
theorem exists_reflects_of_ofOutput (h : Snapshot.ofOutput v bytes = .ok s) :
    ∃ messages, decodeMessages bytes = .ok messages ∧ s.Reflects ⟨v, messages⟩ := by
  obtain ⟨messages, c, hmessages, hreads, htargets⟩ := exists_contents_of_ofOutput h
  exact ⟨messages, hmessages, (unionOf_of_ofTargets htargets).reflects hreads⟩

end Snapshot

end TargetGraph
