import TargetGraph.Contents
import TargetGraph.Proofs.Contents.Sequence
import TargetGraph.Proofs.LabelSet

set_option relaxedAutoImplicit false
set_option autoImplicit false

/-!
# What is read, and when it can be

When the labels and locations of a message can be read, and what its reading yields then.

## Main definitions

* `TargetGraph.RuleMessage.sourceLabels`, `TargetGraph.RuleMessage.dependencyLabels` — the labels
  that the attributes of a rule write.
* `TargetGraph.Message.Readable` — all that has to be read of a message can be.
* `TargetGraph.Contents.Reads` — some contents are those of some messages.

## Main results

* `TargetGraph.RuleMessage.read_eq_ok_iff` — what the reading of a rule yields.
* `TargetGraph.Contents.reads_of_read` — what the reading of some messages yields.
* `TargetGraph.Contents.exists_read_iff` — messages are read when each of them can be.
-/

namespace TargetGraph

/-! ### Labels and locations -/

variable {v : Vocabulary} {raw : String} {label : Label}

/-- A label is read where the text writes one. -/
theorem Label.read_eq_ok_iff : Label.read raw = .ok label ↔ Label.parse? raw = some label := by
  unfold Label.read
  split
  · next h => simp [h]
  · next h => simp [h]

/-- A location is read where the text writes one. -/
theorem Location.read_eq_ok_iff {location : Location} :
    Location.read raw = .ok location ↔ Location.parse raw = .ok location := by
  unfold Location.read
  split
  · next h => rw [h, Except.ok.injEq, Except.ok.injEq]
  · next h => simp [h]
  · next h => simp [h]

namespace AttributeMessage

/-- The labels that the values of an attribute write. -/
def labels (a : AttributeMessage) : List Label :=
  a.values.filterMap Label.parse?

/-- Each value of an attribute writes a label. -/
def Readable (a : AttributeMessage) : Prop :=
  ∀ value ∈ a.values, (Label.parse? value).isSome

/-- The labels of an attribute are read when each value writes one.

**Proof sketch.** By induction on the values. `List.filterMap` leaves none of them out as long as
all can be read. -/
theorem readLabels_eq_ok_iff {a : AttributeMessage} {labels : List Label} :
    a.readLabels = .ok labels ↔ a.Readable ∧ labels = a.labels := by
  unfold readLabels Readable AttributeMessage.labels
  generalize a.values = values
  induction values generalizing labels with
  | nil =>
    rw [List.mapM_nil, pure_eq_ok_iff, eq_comm]
    simp
  | cons value rest ih =>
    simp only [List.mapM_cons, bind_eq_ok_iff, pure_eq_ok_iff, ih, Label.read_eq_ok_iff,
      List.forall_mem_cons, Option.isSome_iff_exists]
    constructor
    · rintro ⟨label, hlabel, _, ⟨hrest, rfl⟩, rfl⟩
      exact ⟨⟨⟨label, hlabel⟩, hrest⟩, by rw [List.filterMap_cons_some hlabel]⟩
    · rintro ⟨⟨⟨label, hlabel⟩, hrest⟩, rfl⟩
      exact ⟨label, hlabel, _, ⟨hrest, rfl⟩, by rw [List.filterMap_cons_some hlabel]⟩

end AttributeMessage

/-! ### Rules -/

/-- What is found by going on through a list: what was found before, and what is new.

**Proof sketch.** By induction on the list, with what was seen and what was kept general. A label
that was seen is not new wherever it comes again; one that was not is kept, and seen from then
on. -/
theorem mem_firstSeenFrom {labels kept : List Label} {seen : LabelSet} :
    label ∈ firstSeenFrom seen kept labels ↔ label ∈ kept ∨ label ∈ labels ∧ label ∉ seen := by
  induction labels generalizing seen kept with
  | nil => simp [firstSeenFrom]
  | cons first rest ih =>
    rw [firstSeenFrom]
    split
    · next hseen =>
      rw [ih, List.mem_cons]
      constructor
      · exact Or.imp_right fun h => ⟨.inr h.1, h.2⟩
      · rintro (h | ⟨rfl | h, hnew⟩)
        · exact .inl h
        · exact absurd (Std.ExtTreeSet.contains_iff_mem.mp hseen) hnew
        · exact .inr ⟨h, hnew⟩
    · next hseen =>
      have hnew : first ∉ seen := fun h => hseen (Std.ExtTreeSet.contains_iff_mem.mpr h)
      rw [ih, List.mem_cons, List.mem_cons, LabelSet.mem_insert_iff]
      by_cases hfirst : label = first
      · simp [hfirst, hnew]
      · simp [hfirst]

/-- No label is lost where each is kept once. -/
theorem mem_firstSeen {labels : List Label} : label ∈ firstSeen labels ↔ label ∈ labels := by
  simp [firstSeen, mem_firstSeenFrom]

namespace RuleMessage

variable {r : RuleMessage}

/-- The labels in the attributes of a rule that hold sources. -/
def sourceLabels (v : Vocabulary) (r : RuleMessage) : List Label :=
  (r.attributes.filter fun a => v.sourceAttributes.contains a.name).flatMap AttributeMessage.labels

/-- The labels in the attributes of a rule that hold dependencies. -/
def dependencyLabels (v : Vocabulary) (r : RuleMessage) : List Label :=
  (r.attributes.filter fun a => v.role a.name == .dependency).flatMap AttributeMessage.labels

/-- What a rule lists, if its class carries sources. -/
def listing? (v : Vocabulary) (r : RuleMessage) : Option Listing :=
  if v.isSourceKind r.kind then
    some { sources := r.sourceLabels v, deps := firstSeen (r.dependencyLabels v) }
  else none

/-- The members of a rule, if it is a file group. -/
def members? (v : Vocabulary) (r : RuleMessage) : Option (List Label) :=
  if r.kind = filegroupKind then some (r.sourceLabels v) else none

/-- All that has to be read of a rule can be. -/
structure Readable (v : Vocabulary) (r : RuleMessage) : Prop where
  /-- Its name is a label. -/
  name : (Label.parse? r.name).isSome
  /-- So are its sources, if it carries sources or is a file group. -/
  sources : v.isSourceKind r.kind = true ∨ r.kind = filegroupKind →
    ∀ a ∈ r.attributes, v.sourceAttributes.contains a.name = true → a.Readable
  /-- So are its dependencies, if it carries sources. -/
  dependencies : v.isSourceKind r.kind = true →
    ∀ a ∈ r.attributes, v.role a.name = .dependency → a.Readable

/-- An attribute holds sources when it is named for them. -/
theorem role_eq_source_iff {name : String} :
    v.role name = .source ↔ v.sourceAttributes.contains name = true := by
  unfold Vocabulary.role
  split
  · next h => simp only [h]
  · next h => split <;> simp only [h, reduceCtorEq]

/-- The labels of one role are those of the attributes that have it, by induction on the
attributes. -/
theorem labelsOf_map (role : Role) (hrole : role ≠ .neither) (v : Vocabulary)
    (attributes : List AttributeMessage) :
    labelsOf role ((attributes.filter fun a => v.role a.name != .neither).map
        fun a => (v.role a.name, a.labels)) =
      (attributes.filter fun a => v.role a.name == role).flatMap AttributeMessage.labels := by
  induction attributes with
  | nil => rfl
  | cons a rest ih =>
    unfold labelsOf at ih ⊢
    by_cases hneither : v.role a.name = .neither
    · simpa [hneither, Ne.symm hrole] using ih
    · by_cases heq : v.role a.name = role
      · simpa [heq, hrole] using ih
      · simpa [hneither, heq] using ih

/-- An attribute is read with its role when each of its values writes a label. -/
theorem readRole_eq_ok_iff (a : AttributeMessage) (entry : Role × List Label) :
    (do return (v.role a.name, ← a.readLabels) : Except GraphError (Role × List Label)) =
      .ok entry ↔ a.Readable ∧ entry = (v.role a.name, a.labels) := by
  simp only [bind_eq_ok_iff, pure_eq_ok_iff, AttributeMessage.readLabels_eq_ok_iff]
  constructor
  · rintro ⟨_, ⟨hreadable, rfl⟩, rfl⟩
    exact ⟨hreadable, rfl⟩
  · rintro ⟨hreadable, rfl⟩
    exact ⟨_, ⟨hreadable, rfl⟩, rfl⟩

/-- What a rule lists is read when its sources and dependencies can be.

**Proof sketch.** The attributes with a role are read one by one (`readRole_eq_ok_iff`,
`mapM_eq_ok_iff_of_iff`), and from these the labels of each role are taken, which are those of the
attributes that have it (`labelsOf_map`). -/
theorem readListing_eq_ok_iff {listing : Listing} : r.readListing v = .ok listing ↔
    (∀ a ∈ r.attributes, v.role a.name ≠ .neither → a.Readable) ∧
      listing = { sources := r.sourceLabels v, deps := firstSeen (r.dependencyLabels v) } := by
  have hsource : (fun a : AttributeMessage => v.role a.name == .source) =
      fun a => v.sourceAttributes.contains a.name := by
    funext a
    rw [Bool.eq_iff_iff, beq_iff_eq, role_eq_source_iff]
  have hsources := labelsOf_map .source nofun v r.attributes
  have hdeps := labelsOf_map .dependency nofun v r.attributes
  rw [hsource] at hsources
  simp only [readListing, readAttributes, bind_eq_ok_iff, pure_eq_ok_iff,
    mapM_eq_ok_iff_of_iff readRole_eq_ok_iff, List.mem_filter, bne_iff_ne, and_imp]
  constructor
  · rintro ⟨_, ⟨hreadable, rfl⟩, rfl⟩
    refine ⟨hreadable, ?_⟩
    rw [hsources, hdeps]
    rfl
  · rintro ⟨hreadable, rfl⟩
    refine ⟨_, ⟨hreadable, rfl⟩, ?_⟩
    rw [hsources, hdeps]
    rfl

/-- The members of a group are read when its sources can be. -/
theorem readMembers_eq_ok_iff {members : List Label} : r.readMembers v = .ok members ↔
    (∀ a ∈ r.attributes, v.sourceAttributes.contains a.name = true → a.Readable) ∧
      members = r.sourceLabels v := by
  simp only [readMembers, bind_eq_ok_iff, pure_eq_ok_iff, List.mem_filter, and_imp,
    mapM_eq_ok_iff_of_iff fun _ _ => AttributeMessage.readLabels_eq_ok_iff]
  constructor
  · rintro ⟨_, ⟨hreadable, rfl⟩, rfl⟩
    exact ⟨hreadable, (List.flatMap_def ..).symm⟩
  · rintro ⟨hreadable, rfl⟩
    exact ⟨_, ⟨hreadable, rfl⟩, (List.flatMap_def ..).symm⟩

/-- A part of a rule that is read on a condition only.

**Proof sketch.** By the condition. Where it holds, the part is read as it is read alone. Where it
fails nothing has to be readable, and there is no part. -/
theorem ite_eq_ok_iff {α : Type} {c : Prop} [Decidable c] {read : Except GraphError α}
    {P : Prop} {value : α} (h : ∀ result, read = .ok result ↔ P ∧ result = value)
    {result : Option α} :
    (if c then some <$> read else pure none) = .ok result ↔
      (c → P) ∧ result = if c then some value else none := by
  by_cases hc : c
  · simp only [if_pos hc, map_eq_ok_iff, h]
    constructor
    · rintro ⟨_, ⟨hP, rfl⟩, rfl⟩
      exact ⟨fun _ => hP, rfl⟩
    · rintro ⟨hP, rfl⟩
      exact ⟨_, ⟨hP hc, rfl⟩, rfl⟩
  · rw [if_neg hc, if_neg hc, pure_eq_ok_iff, eq_comm]
    exact ⟨fun h => ⟨fun hc' => absurd hc' hc, h⟩, And.right⟩

/-- The reading of a rule, part by part. -/
theorem read_eq : r.read v = (do
    let label ← Label.read r.name
    let listing ← (if v.isSourceKind r.kind then some <$> r.readListing v else pure none :)
    let members ← (if r.kind = filegroupKind then some <$> r.readMembers v else pure none :)
    return { label, kind := r.kind, listing, members }) := by
  unfold read
  congr 1
  funext label
  split <;> split <;> rfl

/-- All that has to be read of a rule can be when each of the parts can that are read one after
another.

**Proof sketch.** What a rule lists has a role, and an attribute has a role if it holds sources or
dependencies; the members of a group are read from the attributes that hold sources. -/
theorem readable_iff : r.Readable v ↔ (Label.parse? r.name).isSome ∧
    (v.isSourceKind r.kind = true → ∀ a ∈ r.attributes, v.role a.name ≠ .neither → a.Readable) ∧
    (r.kind = filegroupKind →
      ∀ a ∈ r.attributes, v.sourceAttributes.contains a.name = true → a.Readable) := by
  constructor
  · rintro ⟨hname, hsources, hdeps⟩
    refine ⟨hname, fun hkind a ha hrole => ?_, fun hgroup => hsources (.inr hgroup)⟩
    cases h : v.role a.name with
    | source => exact hsources (.inl hkind) a ha (role_eq_source_iff.mp h)
    | dependency => exact hdeps hkind a ha h
    | neither => exact absurd h hrole
  · rintro ⟨hname, hlisting, hgroup⟩
    refine ⟨hname, ?_, fun hkind a ha h => hlisting hkind a ha (by simp [h])⟩
    rintro (hkind | hkind) a ha h
    · exact hlisting hkind a ha (by simp [role_eq_source_iff.mpr h])
    · exact hgroup hkind a ha h

/-- **What the reading of a rule yields.**

**Proof sketch.** By `read_eq` the rule is read part by part: its name, its listing if it carries
sources, its members if it is a file group. Each part is one of `Label.read_eq_ok_iff`,
`readListing_eq_ok_iff` and `readMembers_eq_ok_iff`, and `readable_iff` puts their conditions
together. -/
theorem read_eq_ok_iff {entry : RuleEntry} : r.read v = .ok entry ↔
    r.Readable v ∧ Label.parse? r.name = some entry.label ∧ entry.kind = r.kind ∧
      entry.listing = r.listing? v ∧ entry.members = r.members? v := by
  simp only [read_eq, bind_eq_ok_iff, pure_eq_ok_iff, Label.read_eq_ok_iff, readable_iff,
    ite_eq_ok_iff fun _ => readListing_eq_ok_iff, ite_eq_ok_iff fun _ => readMembers_eq_ok_iff]
  constructor
  · rintro ⟨label, hlabel, _, ⟨hlisting, rfl⟩, _, ⟨hmembers, rfl⟩, rfl⟩
    exact ⟨⟨by simp [hlabel], hlisting, hmembers⟩, hlabel, rfl, rfl, rfl⟩
  · rintro ⟨⟨_, hlisting, hmembers⟩, hlabel, hkind, hlist, hmem⟩
    refine ⟨_, hlabel, _, ⟨hlisting, rfl⟩, _, ⟨hmembers, rfl⟩, ?_⟩
    obtain ⟨label, kind, listing, members⟩ := entry
    subst hkind hlist hmem
    rfl

/-- A rule is read when all that has to be read of it can be.

**Proof sketch.** What is read of a rule is known (`read_eq_ok_iff`), and all of it but the label is
there in any case. The label is there because the name writes one. -/
theorem exists_read_eq_ok_iff : (∃ entry, r.read v = .ok entry) ↔ r.Readable v := by
  constructor
  · rintro ⟨entry, h⟩
    exact (read_eq_ok_iff.mp h).1
  · intro h
    obtain ⟨label, hlabel⟩ := Option.isSome_iff_exists.mp h.name
    exact ⟨⟨label, r.kind, r.listing? v, r.members? v⟩,
      read_eq_ok_iff.mpr ⟨h, hlabel, rfl, rfl, rfl⟩⟩

end RuleMessage

/-! ### Files -/

namespace FileMessage

variable {f : FileMessage}

/-- All that has to be read of a source file can be. -/
structure Readable (f : FileMessage) : Prop where
  /-- Its name is a label. -/
  name : (Label.parse? f.name).isSome
  /-- Its location, if it has one, is one. -/
  location : ∀ raw, f.location = some raw → ∃ location, Location.parse raw = .ok location

/-- What the reading of a source file yields.

**Proof sketch.** The label is read in any case, and the location if there is one; where it is
missing the entry has none. -/
theorem readSource_eq_ok_iff {entry : SourceEntry} : f.readSource = .ok entry ↔
    Label.parse? f.name = some entry.label ∧
      f.location.map Location.parse = entry.location.map Except.ok := by
  unfold readSource
  cases hlocation : f.location with
  | none =>
    simp only [bind_eq_ok_iff, pure_eq_ok_iff, Label.read_eq_ok_iff]
    constructor
    · rintro ⟨label, hlabel, _, rfl, rfl⟩
      exact ⟨hlabel, rfl⟩
    · rintro ⟨hlabel, hnone⟩
      obtain ⟨label, location⟩ := entry
      obtain rfl := Option.map_eq_none_iff.mp hnone.symm
      exact ⟨label, hlabel, none, rfl, rfl⟩
  | some raw =>
    simp only [bind_eq_ok_iff, pure_eq_ok_iff, map_eq_ok_iff, Label.read_eq_ok_iff,
      Location.read_eq_ok_iff]
    constructor
    · rintro ⟨label, hlabel, _, ⟨location, hparse, rfl⟩, rfl⟩
      exact ⟨hlabel, congrArg some hparse⟩
    · rintro ⟨hlabel, hsome⟩
      obtain ⟨label, location⟩ := entry
      obtain ⟨place, rfl, hparse⟩ := Option.map_eq_some_iff.mp hsome.symm
      exact ⟨label, hlabel, some place, ⟨place, hparse.symm, rfl⟩, rfl⟩

/-- A source file is read when all that has to be read of it can be.

**Proof sketch.** What is read is known (`readSource_eq_ok_iff`): a label from the name, and a
location if the message has one. So one exists just if the name is a label and a location that there
is can be read. -/
theorem exists_readSource_eq_ok_iff : (∃ entry, f.readSource = .ok entry) ↔ f.Readable := by
  simp only [readSource_eq_ok_iff]
  constructor
  · rintro ⟨entry, hlabel, hlocation⟩
    refine ⟨by simp [hlabel], fun raw hraw => ?_⟩
    rw [hraw] at hlocation
    obtain ⟨location, _, hparse⟩ := Option.map_eq_some_iff.mp hlocation.symm
    exact ⟨location, hparse.symm⟩
  · rintro ⟨hname, hlocation⟩
    obtain ⟨label, hlabel⟩ := Option.isSome_iff_exists.mp hname
    cases h : f.location with
    | none => exact ⟨⟨label, none⟩, hlabel, rfl⟩
    | some raw =>
      obtain ⟨location, hparse⟩ := hlocation raw h
      exact ⟨⟨label, some location⟩, hlabel, congrArg some hparse⟩

end FileMessage

/-! ### Messages -/

namespace Message

/-- The rule that a message is about. -/
def rule? : Message → Option RuleMessage
  | .rule r => some r
  | _ => none

/-- The generated file that a message is about. -/
def generated? : Message → Option FileMessage
  | .generatedFile f => some f
  | _ => none

/-- The source file that a message is about. -/
def source? : Message → Option FileMessage
  | .sourceFile f => some f
  | _ => none

/-- What messages are about, where each thing has one message about it. -/
theorem mem_filterMap_of_some_iff {α : Type} {part? : Message → Option α} {about : α → Message}
    (h : ∀ message part, part? message = some part ↔ message = about part) {part : α}
    {messages : List Message} : part ∈ messages.filterMap part? ↔ about part ∈ messages := by
  simp only [List.mem_filterMap, h, exists_eq_right]

/-- A rule is among those that messages are about when there is a message about it. -/
theorem mem_filterMap_rule? {messages : List Message} {r : RuleMessage} :
    r ∈ messages.filterMap rule? ↔ .rule r ∈ messages :=
  mem_filterMap_of_some_iff fun message _ => by cases message <;> simp [rule?]

/-- A generated file is among those that messages are about when there is a message about it. -/
theorem mem_filterMap_generated? {messages : List Message} {f : FileMessage} :
    f ∈ messages.filterMap generated? ↔ .generatedFile f ∈ messages :=
  mem_filterMap_of_some_iff fun message _ => by cases message <;> simp [generated?]

/-- A source file is among those that messages are about when there is a message about it. -/
theorem mem_filterMap_source? {messages : List Message} {f : FileMessage} :
    f ∈ messages.filterMap source? ↔ .sourceFile f ∈ messages :=
  mem_filterMap_of_some_iff fun message _ => by cases message <;> simp [source?]

/-- All that has to be read of a message can be. Nothing is read of messages about other things. -/
def Readable (v : Vocabulary) : Message → Prop
  | .rule r => r.Readable v
  | .sourceFile f => f.Readable
  | .generatedFile f => (Label.parse? f.name).isSome
  | .blank | .other => True

end Message

namespace Contents

variable {messages : List Message} {c : Contents}

/-- The contents are those of the messages. -/
structure Reads (v : Vocabulary) (messages : List Message) (c : Contents) : Prop where
  /-- The rules are those of the messages about rules. -/
  rules : List.Forall₂ (fun r entry => RuleMessage.read v r = .ok entry)
    (messages.filterMap Message.rule?) c.rules
  /-- The generated files are those of the messages about generated files. -/
  generated : List.Forall₂ (fun f label => Label.read f.name = .ok label)
    (messages.filterMap Message.generated?) c.generated
  /-- The source files are those of the messages about source files. -/
  sources : List.Forall₂ (fun f entry => f.readSource = .ok entry)
    (messages.filterMap Message.source?) c.sources

/-- What is read of a message about a rule. -/
theorem Reads.exists_rule (h : c.Reads v messages) {r : RuleMessage} (hr : .rule r ∈ messages) :
    ∃ entry ∈ c.rules, r.read v = .ok entry :=
  exists_of_mem_left h.rules (Message.mem_filterMap_rule?.mpr hr)

/-- What is read of a message about a source file. -/
theorem Reads.exists_source (h : c.Reads v messages) {f : FileMessage}
    (hf : .sourceFile f ∈ messages) : ∃ entry ∈ c.sources, f.readSource = .ok entry :=
  exists_of_mem_left h.sources (Message.mem_filterMap_source?.mpr hf)

/-- The message about a rule that was read. -/
theorem Reads.exists_rule_message (h : c.Reads v messages) {entry : RuleEntry}
    (hentry : entry ∈ c.rules) : ∃ r, .rule r ∈ messages ∧ RuleMessage.read v r = .ok entry := by
  obtain ⟨r, hr, hread⟩ := exists_of_mem_right h.rules hentry
  exact ⟨r, Message.mem_filterMap_rule?.mp hr, hread⟩

/-- The message about a source file that was read. -/
theorem Reads.exists_source_message (h : c.Reads v messages) {entry : SourceEntry}
    (hentry : entry ∈ c.sources) :
    ∃ f, .sourceFile f ∈ messages ∧ FileMessage.readSource f = .ok entry := by
  obtain ⟨f, hf, hread⟩ := exists_of_mem_right h.sources hentry
  exact ⟨f, Message.mem_filterMap_source?.mp hf, hread⟩

/-- The rules and generated files of some messages, read one by one.

**Proof sketch.** By induction on the messages. One about a rule or a generated file adds an entry
to its own list; the others are read to nothing, and are left out on both sides. -/
theorem forall₂_declared {declared : List (Option Declared)}
    (h : List.Forall₂ (fun message entry => readDeclared v message = .ok entry) messages declared) :
    List.Forall₂ (fun r entry => RuleMessage.read v r = .ok entry)
        (messages.filterMap Message.rule?)
        ((declared.filterMap id).filterMap fun
          | .rule entry => some entry
          | .generated _ => none) ∧
      List.Forall₂ (fun f label => Label.read f.name = .ok label)
        (messages.filterMap Message.generated?)
        ((declared.filterMap id).filterMap fun
          | .generated label => some label
          | .rule _ => none) := by
  induction h with
  | nil => exact ⟨.nil, .nil⟩
  | @cons message entry _ _ hentry _ ih =>
    cases message with
    | rule r =>
      simp only [readDeclared, bind_eq_ok_iff, pure_eq_ok_iff] at hentry
      obtain ⟨rule, hrule, rfl⟩ := hentry
      exact ⟨.cons hrule ih.1, ih.2⟩
    | generatedFile f =>
      simp only [readDeclared, bind_eq_ok_iff, pure_eq_ok_iff] at hentry
      obtain ⟨label, hlabel, rfl⟩ := hentry
      exact ⟨ih.1, .cons hlabel ih.2⟩
    | sourceFile _ | blank | other =>
      obtain rfl := pure_eq_ok_iff.mp hentry
      exact ih

/-- The source files of some messages, read one by one; as `forall₂_declared`, for the second
reading.

**Proof sketch.** By induction on the messages. A source file is left on both sides, as the message
on one and as what was read of it on the other. Any other message is left on neither. -/
theorem forall₂_sources {sources : List (Option SourceEntry)}
    (h : List.Forall₂ (fun message entry => readSource message = .ok entry) messages sources) :
    List.Forall₂ (fun f entry => f.readSource = .ok entry) (messages.filterMap Message.source?)
      (sources.filterMap id) := by
  induction h with
  | nil => exact .nil
  | @cons message entry _ _ hentry _ ih =>
    cases message with
    | sourceFile f =>
      simp only [readSource, bind_eq_ok_iff, pure_eq_ok_iff] at hentry
      obtain ⟨source, hsource, rfl⟩ := hentry
      exact .cons hsource ih
    | rule _ | generatedFile _ | blank | other =>
      obtain rfl := pure_eq_ok_iff.mp hentry
      exact ih

/-- **What the reading of some messages yields**: what is declared in the first reading
(`forall₂_declared`), and the source files in the second (`forall₂_sources`). -/
theorem reads_of_read (h : Contents.read v messages = .ok c) : c.Reads v messages := by
  simp only [Contents.read, bind_eq_ok_iff, pure_eq_ok_iff, mapM_eq_ok_iff] at h
  obtain ⟨declared, hdeclared, sources, hsources, rfl⟩ := h
  exact ⟨(forall₂_declared hdeclared).1, (forall₂_declared hdeclared).2, forall₂_sources hsources⟩

/-- Messages about targets of other types are counted. -/
theorem others_of_read (h : Contents.read v messages = .ok c) :
    c.others = messages.count .other := by
  simp only [Contents.read, bind_eq_ok_iff, pure_eq_ok_iff] at h
  obtain ⟨_, _, _, _, rfl⟩ := h
  rfl

/-- All that has to be read of a message can be when the message can be read both times that the
messages are gone through: for what is declared, and for the source files.

**Proof sketch.** One case for each kind of message. Each kind has something to read in one of the
two readings only, and what that needs is said by `RuleMessage.exists_read_eq_ok_iff`,
`FileMessage.exists_readSource_eq_ok_iff` and `Label.read_eq_ok_iff`. The other reading passes over
it. -/
theorem readable_message_iff (message : Message) : message.Readable v ↔
    (∃ entry, readDeclared v message = .ok entry) ∧ ∃ entry, readSource message = .ok entry := by
  cases message with
  | rule r =>
    simp only [Message.Readable, readDeclared, readSource, bind_eq_ok_iff, pure_eq_ok_iff,
      exists_eq', and_true, ← RuleMessage.exists_read_eq_ok_iff]
    exact ⟨fun ⟨entry, h⟩ => ⟨_, entry, h, rfl⟩, fun ⟨_, entry, h, _⟩ => ⟨entry, h⟩⟩
  | sourceFile f =>
    simp only [Message.Readable, readDeclared, readSource, bind_eq_ok_iff, pure_eq_ok_iff,
      exists_eq', true_and, ← FileMessage.exists_readSource_eq_ok_iff]
    exact ⟨fun ⟨entry, h⟩ => ⟨_, entry, h, rfl⟩, fun ⟨_, entry, h, _⟩ => ⟨entry, h⟩⟩
  | generatedFile f =>
    simp only [Message.Readable, readDeclared, readSource, bind_eq_ok_iff, pure_eq_ok_iff,
      exists_eq', and_true, Option.isSome_iff_exists, Label.read_eq_ok_iff]
    exact ⟨fun ⟨label, h⟩ => ⟨_, label, h, rfl⟩, fun ⟨_, label, h, _⟩ => ⟨label, h⟩⟩
  | blank | other =>
    exact ⟨fun _ => ⟨⟨none, rfl⟩, none, rfl⟩, fun _ => trivial⟩

/-- **Messages are read when all that has to be read of each of them can be.**

**Proof sketch.** Both readings go through all the messages, and a list is read when each of its
entries is (`exists_mapM_eq_ok_iff`). A message can be read when it can be in both, which is
`readable_message_iff`. -/
theorem exists_read_iff :
    (∃ c, Contents.read v messages = .ok c) ↔ ∀ message ∈ messages, message.Readable v := by
  simp only [Contents.read, bind_eq_ok_iff, pure_eq_ok_iff, readable_message_iff]
  rw [forall₂_and, ← exists_mapM_eq_ok_iff, ← exists_mapM_eq_ok_iff]
  constructor
  · rintro ⟨_, declared, hdeclared, sources, hsources, _⟩
    exact ⟨⟨declared, hdeclared⟩, sources, hsources⟩
  · rintro ⟨⟨declared, hdeclared⟩, sources, hsources⟩
    exact ⟨_, declared, hdeclared, sources, hsources, rfl⟩

end Contents

end TargetGraph
