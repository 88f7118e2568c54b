import TargetGraph.Proofs.Contents.Refusal
import TargetGraph.Proofs.Draft.Targets
import TargetGraph.Publication

set_option relaxedAutoImplicit false
set_option autoImplicit false

/-!
# Which query outputs are accepted

A query output makes a snapshot when all that has to be read of its messages can be, and no two of
the messages clash.

## Main definitions

* `TargetGraph.Message.Compatible` — two messages do not clash.

## Main results

* `TargetGraph.Contents.agrees_targets_iff` — the targets of some messages agree when no two of the
  messages clash.
* `TargetGraph.Snapshot.ofOutput_accepts_iff` — which query outputs are accepted, and how the others
  are refused.

## Design

The targets come in three groups. The third, of what is only owned, is made up of labels that no
rule and no source file has, and its members have no place; so it never matters for acceptance.
-/

namespace TargetGraph

variable {v : Vocabulary} {messages : List Message} {c : Contents}

/-- The place of a source file, if it has one that can be read. -/
def FileMessage.place? (f : FileMessage) : Option Location :=
  f.location.bind fun raw => (Location.parse raw).toOption

/-- Two messages do not clash. -/
def Message.Compatible (v : Vocabulary) : Message → Message → Prop
  | .rule r, .rule r' =>
    Label.parse? r.name = Label.parse? r'.name →
      r.kind = r'.kind ∧ (v.isSourceKind r.kind = true →
        ∀ label, label ∈ r.dependencyLabels v ↔ label ∈ r'.dependencyLabels v)
  | .rule r, .sourceFile f => Label.parse? r.name = Label.parse? f.name → r.kind = sourceFileKind
  | .sourceFile f, .rule r => Label.parse? r.name = Label.parse? f.name → r.kind = sourceFileKind
  | .sourceFile f, .sourceFile f' =>
    ∀ place place', f.place? = some place → f'.place? = some place' →
      if Label.parse? f.name = Label.parse? f'.name then (place == place') = true
      else (place.file == place'.file) = false
  | _, _ => True

/-! ### Two targets of messages -/

section Pairs

variable {r r' : RuleMessage} {f f' : FileMessage} {rule rule' : RuleEntry}
  {source source' : SourceEntry} {owners : LabelMap Label}

/-- Two names that are read write the same label when they are read as one. -/
theorem label_eq_iff {name name' : String} {label label' : Label}
    (h : Label.parse? name = some label) (h' : Label.parse? name' = some label') :
    label = label' ↔ Label.parse? name = Label.parse? name' := by
  rw [h, h', Option.some.injEq]

/-- The dependencies that a rule has as a target. -/
theorem RuleEntry.deps_target (h : r.read v = .ok rule) : rule.target.deps =
    if v.isSourceKind r.kind then some (firstSeen (r.dependencyLabels v)) else none := by
  obtain ⟨_, _, _, hlisting, _⟩ := RuleMessage.read_eq_ok_iff.mp h
  rw [RuleEntry.target, hlisting, RuleMessage.listing?]
  split <;> rfl

/-- A rule has dependencies as a target if its class carries sources, and which: the reported ones,
each once. -/
theorem RuleEntry.deps_target_eq_some_iff {deps : List Label} (h : r.read v = .ok rule) :
    rule.target.deps = some deps ↔
      v.isSourceKind r.kind = true ∧ deps = firstSeen (r.dependencyLabels v) := by
  rw [RuleEntry.deps_target h, Option.ite_none_right_eq_some, Option.some.injEq]
  exact and_congr_right' eq_comm

/-- The place that a source file is read to have: reading keeps it, and `FileMessage.place?` is what
can be read of it. -/
theorem SourceEntry.location_eq (h : f.readSource = .ok source) : source.location = f.place? := by
  obtain ⟨_, hlocation⟩ := FileMessage.readSource_eq_ok_iff.mp h
  have hplace : f.place? = (f.location.map Location.parse).bind Except.toOption := by
    rw [FileMessage.place?, Option.bind_map]
    rfl
  rw [hplace, hlocation]
  cases source.location <;> rfl

/-- Two rules agree when the messages about them do not clash.

**Proof sketch.** As targets they have no owner and no place, so of `Target.Agrees` only the kind
and the dependencies say anything. The kind is the class of the rule, and the dependencies are those
of `RuleEntry.deps_target_eq_some_iff`, without repetitions, which changes nothing about which
labels they are. -/
theorem agrees_rules (h : r.read v = .ok rule) (h' : r'.read v = .ok rule') :
    rule.target.Agrees rule'.target ↔ (Message.rule r).Compatible v (.rule r') := by
  obtain ⟨_, hlabel, hkind, _⟩ := RuleMessage.read_eq_ok_iff.mp h
  obtain ⟨_, hlabel', hkind', _⟩ := RuleMessage.read_eq_ok_iff.mp h'
  have hname := label_eq_iff hlabel hlabel'
  constructor
  · intro hagrees hsame
    have heq : rule.label = rule'.label := hname.mpr hsame
    have hkinds : r.kind = r'.kind := by
      rw [← hkind, ← hkind']
      exact hagrees.kind heq
    refine ⟨hkinds, fun hsource label => ?_⟩
    have hdeps := (RuleEntry.deps_target_eq_some_iff h).mpr ⟨hsource, rfl⟩
    have hdeps' := (RuleEntry.deps_target_eq_some_iff h').mpr ⟨hkinds ▸ hsource, rfl⟩
    have hsets := hagrees.deps heq _ _ hdeps hdeps' label
    rwa [mem_firstSeen, mem_firstSeen] at hsets
  · intro hcompatible
    exact {
      kind := fun heq => by
        show rule.kind = rule'.kind
        rw [hkind, hkind']
        exact (hcompatible (hname.mp heq)).1
      owner := fun _ _ _ => nofun
      deps := fun heq deps deps' hsome hsome' label => by
        obtain ⟨hsource, rfl⟩ := (RuleEntry.deps_target_eq_some_iff h).mp hsome
        obtain ⟨_, rfl⟩ := (RuleEntry.deps_target_eq_some_iff h').mp hsome'
        rw [mem_firstSeen, mem_firstSeen]
        exact (hcompatible (hname.mp heq)).2 hsource label
      location := fun _ _ _ => nofun
      file := fun _ _ _ _ => nofun }

/-- A rule and a source file agree when the messages about them do not clash.

**Proof sketch.** The rule has neither an owner nor a place and the source file no dependencies, so
only the kind is left of `Target.Agrees`. -/
theorem agrees_rule_source (h : r.read v = .ok rule) (h' : f.readSource = .ok source) :
    rule.target.Agrees (source.target owners) ↔
      (Message.rule r).Compatible v (.sourceFile f) := by
  obtain ⟨_, hlabel, hkind, _⟩ := RuleMessage.read_eq_ok_iff.mp h
  obtain ⟨hlabel', _⟩ := FileMessage.readSource_eq_ok_iff.mp h'
  have hname := label_eq_iff hlabel hlabel'
  constructor
  · intro hagrees hsame
    rw [← hkind]
    exact hagrees.kind (hname.mpr hsame)
  · intro hcompatible
    exact {
      kind := fun heq => hkind.trans (hcompatible (hname.mp heq))
      owner := fun _ _ _ => nofun
      deps := fun _ _ _ _ => nofun
      location := fun _ _ _ => nofun
      file := fun _ _ _ _ => nofun }

/-- Two source files agree when the messages about them do not clash.

**Proof sketch.** Both have the same kind and no dependencies, and the owner is looked up by label,
so it is the same for one label. What is left are the places: for one label they have to be the
same, and for two labels they must not be in one file. These are the two branches of
`Message.Compatible`. -/
theorem agrees_sources (h : f.readSource = .ok source) (h' : f'.readSource = .ok source') :
    (source.target owners).Agrees (source'.target owners) ↔
      (Message.sourceFile f).Compatible v (.sourceFile f') := by
  obtain ⟨hlabel, _⟩ := FileMessage.readSource_eq_ok_iff.mp h
  obtain ⟨hlabel', _⟩ := FileMessage.readSource_eq_ok_iff.mp h'
  have hname := label_eq_iff hlabel hlabel'
  have hplace := SourceEntry.location_eq h
  have hplace' := SourceEntry.location_eq h'
  constructor
  · intro hagrees place place' hsome hsome'
    rw [← hplace] at hsome
    rw [← hplace'] at hsome'
    split
    · next hsame => exact hagrees.location (hname.mpr hsame) place place' hsome hsome'
    · next hother =>
      rw [Bool.eq_false_iff]
      intro hfile
      exact hother (hname.mp (hagrees.file rfl rfl place place' hsome hsome' hfile))
  · intro hcompatible
    rw [Message.Compatible, ← hplace, ← hplace'] at hcompatible
    exact {
      kind := fun _ => rfl
      owner := fun heq owner owner' howner howner' => by
        -- both owners are looked up in one map, under one label
        have hsame : owners[source.label]? = owners[source'.label]? := congrArg _ heq
        exact Option.some.inj (howner.symm.trans (hsame.trans howner'))
      deps := fun _ _ _ => nofun
      location := fun heq place place' hsome hsome' => by
        have hif := hcompatible place place' hsome hsome'
        rwa [if_pos (hname.mp heq)] at hif
      file := fun _ _ place place' hsome hsome' hfile => by
        have hif := hcompatible place place' hsome hsome'
        split at hif
        · next hsame => exact hname.mpr hsame
        · rw [hif] at hfile
          cases hfile }

end Pairs

/-! ### The targets of some messages -/

namespace Contents

variable {t other : Target}

/-- A target of some contents is a rule, a source file, or is only owned. -/
theorem mem_targets : t ∈ c.targets ↔ (∃ rule ∈ c.rules, rule.target = t) ∨
    (∃ source ∈ c.sources, source.target c.owners = t) ∨ t ∈ c.unreported c.owners := by
  simp only [targets, List.mem_append, List.mem_map, or_assoc]

/-- Every rule is a target. -/
theorem target_mem_of_rule {rule : RuleEntry} (h : rule ∈ c.rules) : rule.target ∈ c.targets :=
  mem_targets.mpr (.inl ⟨rule, h, rfl⟩)

/-- Every source file is a target, with the owner that its label has. -/
theorem target_mem_of_source {source : SourceEntry} (h : source ∈ c.sources) :
    source.target c.owners ∈ c.targets :=
  mem_targets.mpr (.inr (.inl ⟨source, h, rfl⟩))

/-- What is only owned has its owner and nothing else, and no message is about it.

**Proof sketch.** It is made of an entry of the owners that has passed the filter of `unreported`,
which asks for a label that neither a rule nor a source file has. -/
theorem of_mem_unreported (h : t ∈ c.unreported c.owners) :
    t.owner = c.owners[t.label]? ∧ t.deps = none ∧ t.location = none ∧
      t.kind = (if c.generatedLabels.contains t.label then generatedFileKind else sourceFileKind) ∧
      (∀ rule ∈ c.rules, rule.label ≠ t.label) ∧ ∀ source ∈ c.sources, source.label ≠ t.label := by
  obtain ⟨⟨label, owner⟩, hentry, rfl⟩ := List.mem_map.mp h
  obtain ⟨hmem, hfilter⟩ := List.mem_filter.mp hentry
  have howner : c.owners[label]? = some owner :=
    Std.ExtTreeMap.mem_toList_iff_getElem?_eq_some.mp hmem
  rw [Bool.and_eq_true, Bool.not_eq_true', Bool.not_eq_true', ← Bool.not_eq_true,
    ← Bool.not_eq_true, Std.ExtTreeSet.contains_iff_mem, Std.ExtTreeSet.contains_iff_mem,
    sourceLabels, ruleLabels, LabelSet.mem_ofList, LabelSet.mem_ofList] at hfilter
  refine ⟨howner.symm, rfl, rfl, rfl, fun rule hrule heq => ?_, fun source hsource heq => ?_⟩
  · exact hfilter.2 (List.mem_map.mpr ⟨rule, hrule, heq⟩)
  · exact hfilter.1 (List.mem_map.mpr ⟨source, hsource, heq⟩)

/-- What is only owned agrees with every target.

**Proof sketch.** A target of the same label is only owned too, because no message is about the
label (`of_mem_unreported`); then kind and owner are both determined by the label. There are no
dependencies and no place to disagree about. -/
theorem agrees_of_mem_unreported (h : t ∈ c.unreported c.owners) (hother : other ∈ c.targets) :
    t.Agrees other := by
  obtain ⟨howner, hdeps, hlocation, hkind, hrules, hsources⟩ := of_mem_unreported h
  have hsame : t.label = other.label → other ∈ c.unreported c.owners := by
    intro heq
    rcases mem_targets.mp hother with ⟨rule, hrule, rfl⟩ | ⟨source, hsource, rfl⟩ | hother
    · exact absurd heq.symm (hrules rule hrule)
    · exact absurd heq.symm (hsources source hsource)
    · exact hother
  exact {
    kind := fun heq => by
      obtain ⟨_, _, _, hkind', _⟩ := of_mem_unreported (hsame heq)
      rw [hkind, hkind', heq]
    owner := fun heq rule rule' hrule hrule' => by
      obtain ⟨howner', _⟩ := of_mem_unreported (hsame heq)
      rw [howner, heq, ← howner', hrule'] at hrule
      exact (Option.some.inj hrule).symm
    deps := fun _ deps _ hsome => by
      rw [hdeps] at hsome
      cases hsome
    location := fun _ place _ hsome => by
      rw [hlocation] at hsome
      cases hsome
    file := fun _ _ place _ hsome => by
      rw [hlocation] at hsome
      cases hsome }

/-- Messages do not clash where the targets that are read from them agree.

**Proof sketch.** Every message about a rule or a source file has been read to a target. The pair is
one of `agrees_rules`, `agrees_rule_source` (either way round) and `agrees_sources`; messages about
anything else never clash. -/
theorem compatible_of_agrees (h : c.Reads v messages)
    (hagrees : ∀ t ∈ c.targets, ∀ other ∈ c.targets, t.Agrees other) {message message' : Message}
    (hmessage : message ∈ messages) (hmessage' : message' ∈ messages) :
    message.Compatible v message' := by
  cases message with
  | rule r =>
    obtain ⟨rule, hmem, hread⟩ := h.exists_rule hmessage
    cases message' with
    | rule r' =>
      obtain ⟨rule', hmem', hread'⟩ := h.exists_rule hmessage'
      exact (agrees_rules hread hread').mp
        (hagrees _ (target_mem_of_rule hmem) _ (target_mem_of_rule hmem'))
    | sourceFile f =>
      obtain ⟨source, hmem', hread'⟩ := h.exists_source hmessage'
      exact (agrees_rule_source hread hread').mp
        (hagrees _ (target_mem_of_rule hmem) _ (target_mem_of_source hmem'))
    | _ => trivial
  | sourceFile f =>
    obtain ⟨source, hmem, hread⟩ := h.exists_source hmessage
    cases message' with
    | rule r =>
      obtain ⟨rule, hmem', hread'⟩ := h.exists_rule hmessage'
      exact (agrees_rule_source hread' hread).mp
        (hagrees _ (target_mem_of_rule hmem') _ (target_mem_of_source hmem))
    | sourceFile f' =>
      obtain ⟨source', hmem', hread'⟩ := h.exists_source hmessage'
      exact (agrees_sources hread hread').mp
        (hagrees _ (target_mem_of_source hmem) _ (target_mem_of_source hmem'))
    | _ => trivial
  | _ => trivial

/-- Targets agree where no two of the messages that they are read from clash.

**Proof sketch.** Each of the two targets belongs to one of three groups (`mem_targets`). For two
reported ones their messages decide, as in `compatible_of_agrees`; what is only owned agrees with
everything (`agrees_of_mem_unreported`). `Target.Agrees.symm` takes care of the order. -/
theorem agrees_of_compatible (h : c.Reads v messages)
    (hcompatible : ∀ message ∈ messages, ∀ message' ∈ messages, message.Compatible v message')
    (ht : t ∈ c.targets) (hother : other ∈ c.targets) : t.Agrees other := by
  rcases mem_targets.mp ht with ⟨rule, hmem, rfl⟩ | ⟨source, hmem, rfl⟩ | hunreported
  · obtain ⟨r, hr, hread⟩ := h.exists_rule_message hmem
    rcases mem_targets.mp hother with ⟨rule', hmem', rfl⟩ | ⟨source, hmem', rfl⟩ | hunreported
    · obtain ⟨r', hr', hread'⟩ := h.exists_rule_message hmem'
      exact (agrees_rules hread hread').mpr (hcompatible _ hr _ hr')
    · obtain ⟨f, hf, hread'⟩ := h.exists_source_message hmem'
      exact (agrees_rule_source hread hread').mpr (hcompatible _ hr _ hf)
    · exact (agrees_of_mem_unreported hunreported ht).symm
  · obtain ⟨f, hf, hread⟩ := h.exists_source_message hmem
    rcases mem_targets.mp hother with ⟨rule, hmem', rfl⟩ | ⟨source', hmem', rfl⟩ | hunreported
    · obtain ⟨r, hr, hread'⟩ := h.exists_rule_message hmem'
      exact ((agrees_rule_source hread' hread).mpr (hcompatible _ hr _ hf)).symm
    · obtain ⟨f', hf', hread'⟩ := h.exists_source_message hmem'
      exact (agrees_sources hread hread').mpr (hcompatible _ hf _ hf')
    · exact (agrees_of_mem_unreported hunreported ht).symm
  · exact agrees_of_mem_unreported hunreported hother

/-- **The targets of some messages agree when no two of the messages clash**: `compatible_of_agrees`
one way, `agrees_of_compatible` the other. -/
theorem agrees_targets_iff (h : c.Reads v messages) :
    (∀ t ∈ c.targets, ∀ other ∈ c.targets, t.Agrees other) ↔
      ∀ message ∈ messages, ∀ message' ∈ messages, message.Compatible v message' :=
  ⟨fun hagrees _ hmessage _ hmessage' => compatible_of_agrees h hagrees hmessage hmessage',
    fun hcompatible _ ht _ hother => agrees_of_compatible h hcompatible ht hother⟩

/-- The owners of all targets come from one assignment: a rule has no owner, and the owner of any
other target is looked up by its label. -/
theorem owner_of_mem_targets (h : t ∈ c.targets) {owner : Label} (howner : t.owner = some owner) :
    c.owners[t.label]? = some owner := by
  rcases mem_targets.mp h with ⟨rule, _, rfl⟩ | ⟨source, _, rfl⟩ | hunreported
  · cases howner
  · exact howner
  · rw [← (of_mem_unreported hunreported).1, howner]

end Contents

namespace Snapshot

variable {bytes : List UInt8}

/-- The snapshot of a query output is that of the targets of its messages. -/
theorem ofOutput_eq (hmessages : decodeMessages bytes = .ok messages)
    (hread : Contents.read v messages = .ok c) :
    Snapshot.ofOutput v bytes = (Snapshot.ofTargets c.targets).mapError SyncError.graph := by
  rw [Snapshot.ofOutput, readOutput, hmessages]
  simp only [hread]
  cases Snapshot.ofTargets c.targets <;> rfl

/-- A query output makes a snapshot when its contents do. -/
theorem ofOutput_eq_ok_iff {s : Snapshot} : Snapshot.ofOutput v bytes = .ok s ↔
    ∃ c, readOutput v bytes = .ok c ∧ Snapshot.ofTargets c.targets = .ok s := by
  unfold Snapshot.ofOutput
  cases readOutput v bytes with
  | error cause => simp
  | ok c => cases htargets : Snapshot.ofTargets c.targets <;> simp [htargets]

/-- A query output whose messages cannot be read is refused for that. -/
theorem ofOutput_eq_error {cause : GraphError} (hmessages : decodeMessages bytes = .ok messages)
    (hread : Contents.read v messages = .error cause) :
    Snapshot.ofOutput v bytes = .error (.output (.graph cause)) := by
  rw [Snapshot.ofOutput, readOutput, hmessages]
  simp only [hread]

/-- Messages that cannot be read make no snapshot, and messages that can be read make one when no
two of them clash. If two do, a key has two values.

**Proof sketch.** Messages that can be read have contents (`Contents.exists_read_iff`). The targets
of these make a snapshot when every two of them agree (`exists_ofTargets_iff`), which is when no two
messages clash (`Contents.agrees_targets_iff`). -/
theorem accepts_iff_of_messages (hmessages : decodeMessages bytes = .ok messages) :
    ((∃ s, Snapshot.ofOutput v bytes = .ok s) ↔ (∀ message ∈ messages, message.Readable v) ∧
      ∀ message ∈ messages, ∀ message' ∈ messages, message.Compatible v message') ∧
    ((∀ message ∈ messages, message.Readable v) →
      (¬∀ message ∈ messages, ∀ message' ∈ messages, message.Compatible v message') →
      ∃ slot, Snapshot.ofOutput v bytes = .error (.graph (.duplicate slot))) := by
  cases hread : Contents.read v messages with
  | error cause =>
    have hunreadable : ¬∀ message ∈ messages, message.Readable v := by
      rw [← Contents.exists_read_iff, hread]
      exact nofun
    rw [ofOutput_eq_error hmessages hread]
    exact ⟨⟨nofun, fun h => absurd h.1 hunreadable⟩, fun h => absurd h hunreadable⟩
  | ok c =>
    have hreadable : ∀ message ∈ messages, message.Readable v :=
      Contents.exists_read_iff.mp ⟨c, hread⟩
    have haccepted := exists_ofTargets_iff.trans
      (Contents.agrees_targets_iff (Contents.reads_of_read hread))
    rw [ofOutput_eq hmessages hread]
    -- the contents are refused only for a second value of a key
    cases htargets : Snapshot.ofTargets c.targets with
    | ok s =>
      have hcompatible := haccepted.mp ⟨s, htargets⟩
      exact ⟨⟨fun _ => ⟨hreadable, hcompatible⟩, fun _ => ⟨s, rfl⟩⟩,
        fun _ hclash => absurd hcompatible hclash⟩
    | error cause =>
      obtain ⟨slot, rfl⟩ := exists_duplicate_of_ofTargets htargets
      refine ⟨⟨nofun, fun h => ?_⟩, fun _ _ => ⟨slot, rfl⟩⟩
      obtain ⟨s, hs⟩ := haccepted.mpr h.2
      rw [htargets] at hs
      cases hs

/-- No query output is refused because a source would get a second owner.

**Proof sketch.** If a message cannot be read, it is a text of it that is at fault
(`Contents.noDuplicate_read`). The targets that are made of messages name owners from one map, so
they never name two for a source (`ofTargets_ne_owner`). -/
theorem ofOutput_ne_owner (v : Vocabulary) (bytes : List UInt8) (source : Label) :
    Snapshot.ofOutput v bytes ≠ .error (.graph (.duplicate (.owner source))) ∧
      Snapshot.ofOutput v bytes ≠ .error (.output (.graph (.duplicate (.owner source)))) := by
  cases hmessages : decodeMessages bytes with
  | error offset =>
    rw [Snapshot.ofOutput, readOutput, hmessages]
    exact ⟨nofun, nofun⟩
  | ok messages =>
    cases hread : Contents.read v messages with
    | error cause =>
      rw [ofOutput_eq_error hmessages hread]
      refine ⟨nofun, fun h => ?_⟩
      cases h
      exact Contents.noDuplicate_read v messages _ hread
    | ok c =>
      rw [ofOutput_eq hmessages hread]
      have howner := ofTargets_ne_owner (fun source => c.owners[source]?)
        (fun t ht _ howner => Contents.owner_of_mem_targets ht howner) source
      cases htargets : Snapshot.ofTargets c.targets with
      | error cause =>
        refine ⟨fun h => ?_, nofun⟩
        cases h
        exact howner htargets
      | ok s => exact ⟨nofun, nofun⟩

/-- **Which query outputs are accepted, and how others are refused.** An output is accepted when
everything that has to be read of its messages can be, and no two of them clash. If only the latter
fails, some key would get a second value. That is never the owner of a source, for any output.

**Proof sketch.** Messages that can be read have contents, and the targets of these make a snapshot
when no two messages clash (`accepts_iff_of_messages`). Owners come from one map, and reading fails
for texts only (`ofOutput_ne_owner`). -/
theorem ofOutput_accepts_iff (v : Vocabulary) (bytes : List UInt8) :
    (∀ messages, decodeMessages bytes = .ok messages →
      ((∃ s, Snapshot.ofOutput v bytes = .ok s) ↔ (∀ message ∈ messages, message.Readable v) ∧
        ∀ message ∈ messages, ∀ message' ∈ messages, message.Compatible v message') ∧
      ((∀ message ∈ messages, message.Readable v) →
        (¬∀ message ∈ messages, ∀ message' ∈ messages, message.Compatible v message') →
        ∃ slot, Snapshot.ofOutput v bytes = .error (.graph (.duplicate slot)))) ∧
    ∀ source,
      Snapshot.ofOutput v bytes ≠ .error (.graph (.duplicate (.owner source))) ∧
      Snapshot.ofOutput v bytes ≠ .error (.output (.graph (.duplicate (.owner source)))) := by
  constructor
  · intro messages hmessages
    exact accepts_iff_of_messages hmessages
  · intro source
    exact ofOutput_ne_owner v bytes source

/-- A library that lists a source and a dependency, with empty texts among the values, and the file
that is its source. -/
def library : List UInt8 :=
  Text.utf8 <|
    "\x7b\"type\":\"RULE\",\"rule\":\x7b\"name\":\"//a:a\",\"ruleClass\":\"java_library\"," ++
      "\"attribute\":[\x7b\"name\":\"srcs\",\"stringListValue\":[\"//a:A.java\",\"\"]\x7d," ++
      "\x7b\"name\":\"deps\",\"stringValue\":\"//b\"\x7d]\x7d\x7d" ++
    "\x7b\"type\":\"SOURCE_FILE\",\"sourceFile\":\x7b\"name\":\"//a:A.java\"," ++
      "\"location\":\"a/A.java:1:1\"\x7d\x7d"

/-- The library, and behind it a message that names another class for the same rule. -/
def twoClasses : List UInt8 :=
  library ++ Text.utf8
    "\x7b\"type\":\"RULE\",\"rule\":\x7b\"name\":\"//a:a\",\"ruleClass\":\"alias\"\x7d\x7d"

/-- The messages about the library. -/
def libraryMessages : List Message :=
  [.rule ⟨"//a:a", "java_library", [⟨"srcs", none, ["//a:A.java", ""]⟩, ⟨"deps", some "//b", []⟩]⟩,
    .sourceFile ⟨"//a:A.java", some "a/A.java:1:1"⟩]

/-- All that has to be read of the library can be; its empty values need not be. -/
theorem readable_library : ∀ message ∈ libraryMessages, message.Readable {} := by
  have hattributes : ∀ a ∈ [⟨"srcs", none, ["//a:A.java", ""]⟩, ⟨"deps", some "//b", []⟩],
      ∀ value ∈ AttributeMessage.values a, (Label.parse? value).isSome := by
    decide +kernel
  have hplace : (Location.parse "a/A.java:1:1").toOption.any (fun _ => true) = true := by
    decide +kernel
  intro message hmessage
  rcases List.mem_pair.mp hmessage with rfl | rfl
  · exact ⟨show (Label.parse? "//a:a").isSome by decide +kernel,
      fun _ a ha _ => hattributes a ha, fun _ a ha _ => hattributes a ha⟩
  · refine ⟨show (Label.parse? "//a:A.java").isSome by decide +kernel, ?_⟩
    rintro raw ⟨⟩
    obtain ⟨place, hparse, _⟩ := exists_ok_of_any hplace
    exact ⟨place, hparse⟩

/-- The library is accepted. With a second class for its rule it is refused, for a second value of a
key. -/
theorem duplicate_of_twoClasses :
    decodeMessages library = .ok libraryMessages ∧
    (∃ s, Snapshot.ofOutput {} library = .ok s) ∧
    decodeMessages twoClasses = .ok (libraryMessages ++ [.rule ⟨"//a:a", "alias", []⟩]) ∧
    ∃ slot, Snapshot.ofOutput {} twoClasses = .error (.graph (.duplicate slot)) := by
  have hlibrary : decodeMessages library = .ok libraryMessages := by decide +kernel
  have htwice : decodeMessages twoClasses =
      .ok (libraryMessages ++ [.rule ⟨"//a:a", "alias", []⟩]) := by
    decide +kernel
  have hnames : Label.parse? "//a:a" ≠ Label.parse? "//a:A.java" := by decide +kernel
  refine ⟨hlibrary, ?_, htwice, ((ofOutput_accepts_iff {} twoClasses).1 _ htwice).2 ?_ ?_⟩
  · refine ((ofOutput_accepts_iff {} library).1 _ hlibrary).1.mpr ⟨readable_library, ?_⟩
    intro message hmessage message' hmessage'
    rcases List.mem_pair.mp hmessage with rfl | rfl <;>
      rcases List.mem_pair.mp hmessage' with rfl | rfl
    · exact fun _ => ⟨rfl, fun _ _ => Iff.rfl⟩
    · exact fun hsame => absurd hsame hnames
    · exact fun hsame => absurd hsame hnames
    · intro place place' hplace hplace'
      rw [if_pos rfl, Option.some.inj (hplace.symm.trans hplace')]
      exact BEq.rfl
  · intro message hmessage
    rcases List.mem_append.mp hmessage with hmessage | hmessage
    · exact readable_library message hmessage
    · rw [List.mem_singleton.mp hmessage]
      exact ⟨show (Label.parse? "//a:a").isSome by decide +kernel, fun _ _ => nofun,
        fun _ _ => nofun⟩
  · intro hcompatible
    have hkinds := hcompatible _ (List.mem_append_left _ (List.mem_pair.mpr (.inl rfl)))
      _ (List.mem_append_right _ (List.mem_singleton.mpr rfl)) rfl
    exact absurd hkinds.1 (by decide)

end Snapshot

end TargetGraph
