import TargetGraph.Inventory
import TargetGraph.Proofs.Contents.Reading
import TargetGraph.Proofs.Ownership.Forward

set_option relaxedAutoImplicit false
set_option autoImplicit false

/-!
# Owners of the reported files

The owner that a query output gives to a source is the one that its messages declare.

## Main definitions

* `TargetGraph.Declaration.ofMessages` — what some messages declare about sources.

## Main results

* `TargetGraph.Contents.owned_owners` — every label has the owner that the messages declare.
* `TargetGraph.Contents.files_owned_as_declared` — so has every file that is reported or added,
  forwarding ends, and the order of the members of a group does not matter.
-/

namespace TargetGraph

variable {v : Vocabulary} {messages : List Message} {c : Contents}

/-- A rule carries sources, and a label is one of them. -/
def RuleMessage.lists (v : Vocabulary) (r : RuleMessage) (source : Label) : Bool :=
  v.isSourceKind r.kind && (r.sourceLabels v).contains source

/-- A rule is a file group of some name. -/
def RuleMessage.isGroup (r : RuleMessage) (group : Label) : Bool :=
  r.kind = filegroupKind && Label.parse? r.name = some group

/-- What some rules declare about sources: the first rule that lists a label, and the sources of the
last group of a name. -/
def Declaration.ofRules (v : Vocabulary) (rules : List RuleMessage) : Declaration where
  lister source := (rules.find? fun r => r.lists v source).bind fun r => Label.parse? r.name
  members group := (rules.reverse.find? fun r => r.isGroup group).map fun r => r.sourceLabels v

/-- What some messages declare about sources. -/
def Declaration.ofMessages (v : Vocabulary) (messages : List Message) : Declaration :=
  .ofRules v (messages.filterMap Message.rule?)

/-- After a claim, a label has the owner it had, or is one of those claimed.

**Proof sketch.** By induction on the claimed sources: each is inserted only if it has no owner yet,
so the first claim of a label is the one that counts, and all of them are for the same owner. -/
theorem getElem?_claim {owners : LabelMap Label} {owner source : Label} {sources : List Label} :
    (claim owners owner sources)[source]? =
      owners[source]?.or (if source ∈ sources then some owner else none) := by
  unfold claim
  induction sources generalizing owners with
  | nil => simp
  | cons first others ih =>
    rw [List.foldl_cons, ih, Std.ExtTreeMap.getElem?_insertIfNew]
    by_cases hfirst : first = source
    · subst hfirst
      cases howner : owners[first]? with
      | some _ => simp [Std.ExtTreeMap.mem_iff_isSome_getElem?, howner]
      | none => simp [Std.ExtTreeMap.mem_iff_isSome_getElem?, howner]
    · have hne : ¬source = first := fun h => hfirst h.symm
      simp [hfirst, hne]

/-- A label that is claimed by the sources of some rules has the owner it had, or is listed by the
first of them.

**Proof sketch.** By induction on the rules, with the owners before them general. A rule that
carries sources claims those that it lists, which is `getElem?_claim` for its label; any other rule
claims nothing and lists nothing. `List.find?` goes through the rules in the same order. -/
theorem getElem?_foldl_claimSources {rules : List RuleMessage} {entries : List RuleEntry}
    (h : List.Forall₂ (fun r entry => RuleMessage.read v r = .ok entry) rules entries)
    (owners : LabelMap Label) (source : Label) :
    (entries.foldl RuleEntry.claimSources owners)[source]? =
      owners[source]?.or ((Declaration.ofRules v rules).lister source) := by
  induction h generalizing owners with
  | nil => simp [Declaration.ofRules]
  | @cons r entry _ _ hread _ ih =>
    obtain ⟨_, hlabel, _, hlisting, _⟩ := RuleMessage.read_eq_ok_iff.mp hread
    rw [List.foldl_cons, ih]
    simp only [RuleEntry.claimSources, hlisting, Declaration.ofRules, List.find?_cons]
    by_cases hkind : v.isSourceKind r.kind = true
    · simp only [RuleMessage.listing?, if_pos hkind, getElem?_claim, Option.or_assoc]
      congr 1
      by_cases hsource : source ∈ r.sourceLabels v
      · have hlists : r.lists v source = true := by simp [RuleMessage.lists, hkind, hsource]
        simp [hlists, hsource, hlabel]
      · have hlists : r.lists v source = false := by simp [RuleMessage.lists, hsource]
        simp [hlists, hsource]
    · have hlists : r.lists v source = false := by simp [RuleMessage.lists, hkind]
      simp only [RuleMessage.listing?, if_neg hkind, hlists]

/-- The members of a group, some rules later, are those of the last group of its name among the
rules, or those that it had.

**Proof sketch.** By induction on the rules, with the groups before them general. A later group of
the same name replaces an earlier one, so the search goes through the rules from the end. -/
theorem getElem?_foldl_addMembers {rules : List RuleMessage} {entries : List RuleEntry}
    (h : List.Forall₂ (fun r entry => RuleMessage.read v r = .ok entry) rules entries)
    (groups : LabelMap (List Label)) (group : Label) :
    (entries.foldl RuleEntry.addMembers groups)[group]? =
      ((Declaration.ofRules v rules).members group).or groups[group]? := by
  induction h generalizing groups with
  | nil => simp [Declaration.ofRules]
  | @cons r entry _ _ hread _ ih =>
    obtain ⟨_, hlabel, _, _, hmembers⟩ := RuleMessage.read_eq_ok_iff.mp hread
    rw [List.foldl_cons, ih]
    simp only [RuleEntry.addMembers, hmembers, Declaration.ofRules, List.reverse_cons,
      List.find?_append, Option.map_or, Option.or_assoc]
    congr 1
    by_cases hkind : r.kind = filegroupKind
    · simp only [RuleMessage.members?, if_pos hkind, LabelMap.getElem?_insert]
      by_cases hgroup : entry.label = group
      · have his : r.isGroup group = true := by simp [RuleMessage.isGroup, hkind, hlabel, hgroup]
        simp [his, hgroup]
      · have his : r.isGroup group = false := by simp [RuleMessage.isGroup, hlabel, hgroup]
        simp [his, hgroup]
    · have his : r.isGroup group = false := by simp [RuleMessage.isGroup, hkind]
      simp [RuleMessage.members?, hkind, his]

namespace Contents

/-- A query output has contents when it is a stream of messages that have some. -/
theorem readOutput_eq_ok_iff {bytes : List UInt8} : readOutput v bytes = .ok c ↔
    ∃ messages, decodeMessages bytes = .ok messages ∧ Contents.read v messages = .ok c := by
  unfold readOutput
  cases decodeMessages bytes with
  | error offset => simp
  | ok messages => cases hread : Contents.read v messages <;> simp [hread]

/-- The contents of a query output are those of its messages. -/
theorem reads_of_readOutput {bytes : List UInt8} (h : readOutput v bytes = .ok c) :
    ∃ messages, decodeMessages bytes = .ok messages ∧ c.Reads v messages := by
  obtain ⟨messages, hmessages, hread⟩ := readOutput_eq_ok_iff.mp h
  exact ⟨messages, hmessages, reads_of_read hread⟩

/-- The maps that forwarding works on hold what the messages declare: `getElem?_foldl_claimSources`
and `getElem?_foldl_addMembers`, both from empty maps. -/
theorem ofMaps_eq (h : c.Reads v messages) :
    Declaration.ofMaps c.filegroups c.directOwners = .ofMessages v messages := by
  have hlister : (fun source => c.directOwners[source]?) =
      (Declaration.ofMessages v messages).lister := by
    funext source
    rw [directOwners, getElem?_foldl_claimSources h.rules, Std.ExtTreeMap.getElem?_empty,
      Option.none_or, Declaration.ofMessages]
  have hmembers : (fun group => c.filegroups[group]?) =
      (Declaration.ofMessages v messages).members := by
    funext group
    rw [filegroups, getElem?_foldl_addMembers h.rules, Std.ExtTreeMap.getElem?_empty,
      Option.or_none, Declaration.ofMessages]
  rw [Declaration.ofMaps, hlister, hmembers]

/-- **Every label has the owner that the messages declare.** -/
theorem owned_owners (h : c.Reads v messages) (source : Label) :
    (Declaration.ofMessages v messages).Owned source c.owners[source]? := by
  rw [← ofMaps_eq h]
  exact owned_forward c.filegroups c.directOwners source

/-- Messages that declare the same, but for the order of the members of groups, give the same
owners.

**Proof sketch.** Owners are the declared ones on both sides (`owned_owners`), the order of
members does not change what is declared (`Declaration.Owned.of_perm`), and a label has one owner
at most. -/
theorem owners_eq_of_perm {messages' : List Message} {c' : Contents} (h : c.Reads v messages)
    (h' : c'.Reads v messages')
    (hlister : (Declaration.ofMessages v messages).lister =
      (Declaration.ofMessages v messages').lister)
    (hmembers : ∀ group, Option.Rel List.Perm ((Declaration.ofMessages v messages).members group)
      ((Declaration.ofMessages v messages').members group)) :
    c.owners = c'.owners := by
  refine Std.ExtTreeMap.ext_getElem? fun source => ?_
  exact ((owned_owners h source).of_perm hlister hmembers).unique (owned_owners h' source)

/-- The source files that messages are about, with their owners. -/
theorem forall₂_reported (h : c.Reads v messages) :
    List.Forall₂ (fun f t => Label.parse? f.name = some t.label ∧
        (Declaration.ofMessages v messages).Owned t.label t.owner)
      (messages.filterMap Message.source?) (c.sources.map (SourceEntry.target c.owners)) := by
  rw [List.forall₂_map_right_iff]
  refine h.sources.imp fun f entry hread => ?_
  exact ⟨(FileMessage.readSource_eq_ok_iff.mp hread).1, owned_owners h entry.label⟩

/-- A file that no message is about is owned as declared: its entry is one of the owners. -/
theorem owned_of_mem_unreported (h : c.Reads v messages) {t : Target}
    (ht : t ∈ c.unreported c.owners) :
    (Declaration.ofMessages v messages).Owned t.label t.owner := by
  obtain ⟨⟨label, owner⟩, hentry, rfl⟩ := List.mem_map.mp ht
  have howner : c.owners[label]? = some owner :=
    Std.ExtTreeMap.mem_toList_iff_getElem?_eq_some.mp (List.mem_filter.mp hentry).1
  have howned := owned_owners h label
  rw [howner] at howned
  exact howned

/-- **Every file that a query output reports, or that is added to it, is owned as declared**: by the
first rule that lists it; else by the rule that lists the least group which leads to it; else by
nobody. Forwarding ends with nothing pending, and another output that declares the same, but for the
order of the members of groups, gives the same owners.

**Proof sketch.** The two maps that forwarding starts from hold what the messages declare
(`ofMaps_eq`), and forwarding gives every label its declared owner (`owned_forward`). A label has
one owner at most, and that is not changed by the order of members. -/
theorem files_owned_as_declared (v : Vocabulary) (bytes : List UInt8) (c : Contents)
    (h : readOutput v bytes = .ok c) :
    ∃ messages, decodeMessages bytes = .ok messages ∧
      c.targets = c.rules.map RuleEntry.target ++ c.sources.map (SourceEntry.target c.owners) ++
        c.unreported c.owners ∧
      List.Forall₂ (fun f t => Label.parse? f.name = some t.label ∧
          (Declaration.ofMessages v messages).Owned t.label t.owner)
        (messages.filterMap Message.source?) (c.sources.map (SourceEntry.target c.owners)) ∧
      (∀ t ∈ c.unreported c.owners, (Declaration.ofMessages v messages).Owned t.label t.owner) ∧
      (Forwarding.finish c.filegroups c.directOwners).pending = [] ∧
      ∀ bytes' messages' c', decodeMessages bytes' = .ok messages' → readOutput v bytes' = .ok c' →
        (Declaration.ofMessages v messages).lister = (Declaration.ofMessages v messages').lister →
        (∀ group, Option.Rel List.Perm ((Declaration.ofMessages v messages).members group)
          ((Declaration.ofMessages v messages').members group)) →
        c.owners = c'.owners := by
  obtain ⟨messages, hmessages, hreads⟩ := reads_of_readOutput h
  refine ⟨messages, hmessages, rfl, forall₂_reported hreads,
    fun t ht => owned_of_mem_unreported hreads ht, Forwarding.pending_finish _ _, ?_⟩
  intro bytes' messages' c' hmessages' hread'
  obtain ⟨decoded, hdecoded, hreads'⟩ := reads_of_readOutput hread'
  obtain rfl : messages' = decoded := Except.ok.inj (hmessages'.symm.trans hdecoded)
  exact owners_eq_of_perm hreads hreads'

/-- A rule that lists a group. A member of that group is a group too, which has the first group and
a source among its members. -/
def nestedGroups : List UInt8 :=
  Text.utf8 <|
    "\x7b\"type\":\"RULE\",\"rule\":\x7b\"name\":\"//a:lib\",\"ruleClass\":\"java_library\"," ++
      "\"attribute\":[\x7b\"name\":\"srcs\",\"stringListValue\":[\"//a:outer\"]\x7d]\x7d\x7d" ++
    "\x7b\"type\":\"RULE\",\"rule\":\x7b\"name\":\"//a:outer\",\"ruleClass\":\"filegroup\"," ++
      "\"attribute\":[\x7b\"name\":\"srcs\",\"stringListValue\":[\"//a:inner\"]\x7d]\x7d\x7d" ++
    "\x7b\"type\":\"RULE\",\"rule\":\x7b\"name\":\"//a:inner\",\"ruleClass\":\"filegroup\"," ++
      "\"attribute\":[\x7b\"name\":\"srcs\"," ++
      "\"stringListValue\":[\"//a:outer\",\"//a:S.java\"]\x7d]\x7d\x7d"

/-- The source in the nested groups is owned by the rule that lists the outer one. -/
theorem owned_nestedGroups : ∃ c messages, readOutput {} nestedGroups = .ok c ∧
    decodeMessages nestedGroups = .ok messages ∧
    (Declaration.ofMessages {} messages).Owned ⟨"//a:S.java"⟩ (some ⟨"//a:lib"⟩) := by
  have hread : (readOutput {} nestedGroups).toOption.any (fun c =>
      (c.unreported c.owners).any fun t =>
        t.label == ⟨"//a:S.java"⟩ && t.owner == some ⟨"//a:lib"⟩) = true := by
    decide +kernel
  cases hok : readOutput {} nestedGroups with
  | error e =>
    rw [hok] at hread
    cases hread
  | ok c =>
    rw [hok] at hread
    obtain ⟨t, ht, hsource⟩ := List.any_eq_true.mp hread
    simp only [Bool.and_eq_true, beq_iff_eq] at hsource
    obtain ⟨messages, hmessages, _, _, hadded, _⟩ := files_owned_as_declared {} nestedGroups c hok
    have howned := hadded t ht
    rw [hsource.1, hsource.2] at howned
    exact ⟨c, messages, rfl, hmessages, howned⟩

end Contents

end TargetGraph
