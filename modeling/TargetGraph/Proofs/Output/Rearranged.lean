import Mathlib.Data.List.Perm.Basic
import TargetGraph.Proofs.Draft.Union
import TargetGraph.Proofs.Output.Acceptance
import TargetGraph.Proofs.Ownership.Declared

set_option relaxedAutoImplicit false
set_option autoImplicit false

/-!
# The order of messages

Of the order of messages it matters only in which order the rules are reported. Wherever the files
stand among them, a query output is read to the same targets, and makes the same snapshot.

## Main definitions

* `TargetGraph.Message.Rearranged` — the same messages, with the rules in the same order.
* `TargetGraph.Contents.Rearranged` — the same contents, with the rules in the same order.

## Main results

* `TargetGraph.Contents.Rearranged.of_messages` — rearranged messages have rearranged contents.
* `TargetGraph.Contents.Rearranged.tally_eq`, `TargetGraph.Contents.Rearranged.targets_perm` — as
  much of everything, and the same targets.
* `TargetGraph.Snapshot.rearranged_output` — rearranged query outputs come to the same.

## Design

Only owners depend on an order at all, and they come from the rules alone: the files are looked at
when all owners are known. So the contents are compared part by part.
-/

namespace TargetGraph

/-- The second list has the messages of the first, and the rules among them in the same order. -/
structure Message.Rearranged (messages messages' : List Message) : Prop where
  /-- The messages are the same. -/
  perm : messages.Perm messages'
  /-- The rules stand in the same order. -/
  rules : messages.filterMap Message.rule? = messages'.filterMap Message.rule?

/-- Messages that are put back are rearranged too. -/
theorem Message.Rearranged.symm {messages messages' : List Message}
    (h : Message.Rearranged messages messages') : Message.Rearranged messages' messages :=
  ⟨h.perm.symm, h.rules.symm⟩

/-- The second contents are those of the first, and the rules among them in the same order. -/
structure Contents.Rearranged (c c' : Contents) : Prop where
  /-- The rules are the same, in the same order. -/
  rules : c.rules = c'.rules
  /-- The generated files are the same. -/
  generated : c.generated.Perm c'.generated
  /-- The source files are the same. -/
  sources : c.sources.Perm c'.sources
  /-- There are as many messages about targets of other types. -/
  others : c.others = c'.others

/-- Entries that are read one by one are read to the same when they are read in another order.

**Proof sketch.** `List.perm_comp_forall₂` puts the results into the order of the first entries;
read in that order they are the first results, since reading has one result for each entry. -/
theorem perm_of_forall₂_ok {ε α β : Type} {read : α → Except ε β} {entries entries' : List α}
    {results results' : List β} (hperm : entries.Perm entries')
    (h : List.Forall₂ (fun entry result => read entry = .ok result) entries results)
    (h' : List.Forall₂ (fun entry result => read entry = .ok result) entries' results') :
    results.Perm results' := by
  obtain ⟨reordered, hreordered, hresults⟩ := List.perm_comp_forall₂ hperm h'
  rwa [eq_of_forall₂_ok h hreordered]

namespace Contents

variable {v : Vocabulary} {messages messages' : List Message} {c c' : Contents}

namespace Rearranged

/-- **Rearranged messages have rearranged contents**, where they have any.

**Proof sketch.** Rules are read from the same list in the same order (`eq_of_forall₂_ok`), files
from lists that are the same up to order (`perm_of_forall₂_ok`), and of the other messages only
their number is kept. -/
theorem of_messages (h : Message.Rearranged messages messages')
    (hread : Contents.read v messages = .ok c) (hread' : Contents.read v messages' = .ok c') :
    c.Rearranged c' where
  rules := by
    have hrules := (reads_of_read hread).rules
    rw [h.rules] at hrules
    exact eq_of_forall₂_ok hrules (reads_of_read hread').rules
  generated := perm_of_forall₂_ok (h.perm.filterMap Message.generated?)
    (reads_of_read hread).generated (reads_of_read hread').generated
  sources := perm_of_forall₂_ok (h.perm.filterMap Message.source?)
    (reads_of_read hread).sources (reads_of_read hread').sources
  others := by rw [others_of_read hread, others_of_read hread', h.perm.count_eq]

/-- The owners come from the rules. -/
theorem owners_eq (h : c.Rearranged c') : c.owners = c'.owners := by
  unfold owners filegroups directOwners
  rw [h.rules]

/-- The rules have the same labels. -/
theorem ruleLabels_eq (h : c.Rearranged c') : c.ruleLabels = c'.ruleLabels := by
  rw [ruleLabels, ruleLabels, h.rules]

/-- The source files have the same labels. -/
theorem sourceLabels_eq (h : c.Rearranged c') : c.sourceLabels = c'.sourceLabels :=
  Std.ExtTreeSet.ext_mem fun label => by
    rw [sourceLabels, sourceLabels, LabelSet.mem_ofList, LabelSet.mem_ofList,
      (h.sources.map SourceEntry.label).mem_iff]

/-- The generated files have the same labels. -/
theorem generatedLabels_eq (h : c.Rearranged c') : c.generatedLabels = c'.generatedLabels :=
  Std.ExtTreeSet.ext_mem fun label => by
    rw [generatedLabels, generatedLabels, LabelSet.mem_ofList, LabelSet.mem_ofList,
      h.generated.mem_iff]

/-- The same targets are only owned, and they are listed in the same order. -/
theorem unreported_eq (h : c.Rearranged c') :
    c.unreported c.owners = c'.unreported c'.owners := by
  unfold unreported
  rw [h.owners_eq, h.ruleLabels_eq, h.sourceLabels_eq, h.generatedLabels_eq]

/-- **Rearranged contents have as much of everything.** -/
theorem tally_eq (h : c.Rearranged c') : c.tally = c'.tally := by
  unfold tally
  rw [h.rules, h.others, h.owners_eq, h.generatedLabels_eq, h.sources.length_eq]

/-- **Rearranged contents have the same targets.**

**Proof sketch.** The rules are the same, what is only owned is the same (`unreported_eq`), and the
source files between the two are the same up to order, each with the same owner because the owners
come from the rules (`owners_eq`). -/
theorem targets_perm (h : c.Rearranged c') : c.targets.Perm c'.targets := by
  have hsources : (c.sources.map (SourceEntry.target c.owners)).Perm
      (c'.sources.map (SourceEntry.target c'.owners)) := by
    rw [h.owners_eq]
    exact h.sources.map _
  show (c.rules.map RuleEntry.target ++ c.sources.map (SourceEntry.target c.owners) ++
      c.unreported c.owners).Perm (c'.rules.map RuleEntry.target ++
    c'.sources.map (SourceEntry.target c'.owners) ++ c'.unreported c'.owners)
  rw [h.rules, h.unreported_eq]
  exact (hsources.append_left _).append_right _

end Rearranged

/-- Rearranged messages are read if the messages are: whether they can be read is asked of each
message alone (`exists_read_iff`). -/
theorem exists_read_of_rearranged (h : Message.Rearranged messages messages')
    (hread : Contents.read v messages = .ok c) :
    ∃ c', Contents.read v messages' = .ok c' ∧ c.Rearranged c' := by
  have hreadable := exists_read_iff.mp ⟨c, hread⟩
  obtain ⟨c', hread'⟩ := exists_read_iff.mpr fun message hmessage =>
    hreadable message (h.perm.mem_iff.mpr hmessage)
  exact ⟨c', hread', .of_messages h hread hread'⟩

/-- A query output with rearranged messages is read if the output is. -/
theorem exists_readOutput_of_rearranged {bytes bytes' : List UInt8}
    (hmessages : decodeMessages bytes = .ok messages)
    (hmessages' : decodeMessages bytes' = .ok messages')
    (h : Message.Rearranged messages messages') (hread : readOutput v bytes = .ok c) :
    ∃ c', readOutput v bytes' = .ok c' ∧ c.Rearranged c' := by
  obtain ⟨decoded, hdecoded, hread⟩ := readOutput_eq_ok_iff.mp hread
  obtain rfl : messages = decoded := Except.ok.inj (hmessages.symm.trans hdecoded)
  obtain ⟨c', hread', hrearranged⟩ := exists_read_of_rearranged h hread
  exact ⟨c', readOutput_eq_ok_iff.mpr ⟨messages', hmessages', hread'⟩, hrearranged⟩

end Contents

namespace Snapshot

variable {v : Vocabulary} {bytes bytes' : List UInt8} {messages messages' : List Message}
  {s : Snapshot}

/-- A query output with rearranged messages makes the same snapshot as the output.

**Proof sketch.** It is read to contents with the same targets (`exists_readOutput_of_rearranged`,
`targets_perm`). Whether targets agree and what their union holds depend only on which targets there
are (`exists_ofTargets_iff`, `UnionOf.same`). -/
theorem exists_same_of_rearranged (hmessages : decodeMessages bytes = .ok messages)
    (hmessages' : decodeMessages bytes' = .ok messages')
    (h : Message.Rearranged messages messages') (hs : Snapshot.ofOutput v bytes = .ok s) :
    ∃ s', Snapshot.ofOutput v bytes' = .ok s' ∧ s'.Same s := by
  obtain ⟨c, hread, htargets⟩ := ofOutput_eq_ok_iff.mp hs
  obtain ⟨c', hread', hrearranged⟩ :=
    Contents.exists_readOutput_of_rearranged hmessages hmessages' h hread
  have hmem : ∀ t, t ∈ c'.targets ↔ t ∈ c.targets := fun t =>
    hrearranged.targets_perm.symm.mem_iff
  have hagree : ∀ t ∈ c.targets, ∀ other ∈ c.targets, t.Agrees other :=
    exists_ofTargets_iff.mp ⟨s, htargets⟩
  obtain ⟨s', htargets'⟩ := exists_ofTargets_iff.mpr fun t ht other hother =>
    hagree t ((hmem t).mp ht) other ((hmem other).mp hother)
  exact ⟨s', ofOutput_eq_ok_iff.mpr ⟨c', hread', htargets'⟩,
    (unionOf_of_ofTargets htargets').same (unionOf_of_ofTargets htargets) hmem⟩

/-- **Of the order of messages it matters only in which order the rules are reported.** Of two query
outputs with the same messages and the same order of rules both are read or neither is, with as much
of everything and the same targets; and both make a snapshot or neither does, and then they make the
same one, up to the spelling of paths.

**Proof sketch.** What a message is read to does not depend on the others, so both outputs have the
same contents but for the order of files. Owners come from the rules alone, so they are the same,
and with them all targets. Whether targets agree, and what their union is, does not depend on their
order. -/
theorem rearranged_output (v : Vocabulary) (bytes bytes' : List UInt8)
    (messages messages' : List Message) (hmessages : decodeMessages bytes = .ok messages)
    (hmessages' : decodeMessages bytes' = .ok messages')
    (h : Message.Rearranged messages messages') :
    ((∃ c, readOutput v bytes = .ok c) ↔ ∃ c', readOutput v bytes' = .ok c') ∧
    (∀ c c', readOutput v bytes = .ok c → readOutput v bytes' = .ok c' →
      c.tally = c'.tally ∧ c.targets.Perm c'.targets) ∧
    ((∃ s, Snapshot.ofOutput v bytes = .ok s) ↔ ∃ s', Snapshot.ofOutput v bytes' = .ok s') ∧
    ∀ s s', Snapshot.ofOutput v bytes = .ok s → Snapshot.ofOutput v bytes' = .ok s' →
      s'.Same s := by
  refine ⟨⟨?_, ?_⟩, fun c c' hread hread' => ?_, ⟨?_, ?_⟩, fun s s' hs hs' => ?_⟩
  · rintro ⟨c, hread⟩
    obtain ⟨c', hread', _⟩ := Contents.exists_readOutput_of_rearranged hmessages hmessages' h hread
    exact ⟨c', hread'⟩
  · rintro ⟨c', hread'⟩
    obtain ⟨c, hread, _⟩ :=
      Contents.exists_readOutput_of_rearranged hmessages' hmessages h.symm hread'
    exact ⟨c, hread⟩
  · obtain ⟨found, hfound, hrearranged⟩ :=
      Contents.exists_readOutput_of_rearranged hmessages hmessages' h hread
    obtain rfl : c' = found := Except.ok.inj (hread'.symm.trans hfound)
    exact ⟨hrearranged.tally_eq, hrearranged.targets_perm⟩
  · rintro ⟨s, hs⟩
    obtain ⟨s', hs', _⟩ := exists_same_of_rearranged hmessages hmessages' h hs
    exact ⟨s', hs'⟩
  · rintro ⟨s', hs'⟩
    obtain ⟨s, hs, _⟩ := exists_same_of_rearranged hmessages' hmessages h.symm hs'
    exact ⟨s, hs⟩
  · obtain ⟨made, hmade, hsame⟩ := exists_same_of_rearranged hmessages hmessages' h hs
    obtain rfl : s' = made := Except.ok.inj (hs'.symm.trans hmade)
    exact hsame

/-- A source file, as a message writes it. -/
def sourceText : String :=
  "\x7b\"type\":\"SOURCE_FILE\",\"sourceFile\":\x7b\"name\":\"//a:S.java\"," ++
    "\"location\":\"a/S.java:1:1\"\x7d\x7d"

/-- Two rules that list the source file and a generated file, as messages write them. -/
def listersText : String :=
  "\x7b\"type\":\"RULE\",\"rule\":\x7b\"name\":\"//a:first\",\"ruleClass\":\"java_library\"," ++
    "\"attribute\":[\x7b\"name\":\"srcs\"," ++
    "\"stringListValue\":[\"//a:S.java\",\"//a:G.java\"]\x7d]\x7d\x7d" ++
  "\x7b\"type\":\"RULE\",\"rule\":\x7b\"name\":\"//a:second\",\"ruleClass\":\"java_library\"," ++
    "\"attribute\":[\x7b\"name\":\"srcs\",\"stringListValue\":[\"//a:S.java\"]\x7d]\x7d\x7d"

/-- The generated file, as a message writes it. -/
def generatedText : String :=
  "\x7b\"type\":\"GENERATED_FILE\",\"generatedFile\":\x7b\"name\":\"//a:G.java\"\x7d\x7d"

/-- The message about the source file. -/
def sourceMessage : Message :=
  .sourceFile ⟨"//a:S.java", some "a/S.java:1:1"⟩

/-- The message about the generated file. -/
def generatedMessage : Message :=
  .generatedFile ⟨"//a:G.java", none⟩

/-- The messages about the two rules. -/
def listerMessages : List Message :=
  [.rule ⟨"//a:first", "java_library", [⟨"srcs", none, ["//a:S.java", "//a:G.java"]⟩]⟩,
    .rule ⟨"//a:second", "java_library", [⟨"srcs", none, ["//a:S.java"]⟩]⟩]

/-- Files that stand before the rules that list them, or behind them, make the same snapshot. -/
theorem same_of_moved_files : ∃ s s',
    Snapshot.ofOutput {} (Text.utf8 (sourceText ++ generatedText ++ listersText)) = .ok s ∧
    Snapshot.ofOutput {} (Text.utf8 (listersText ++ generatedText ++ sourceText)) = .ok s' ∧
    s'.Same s := by
  have hmessages : decodeMessages (Text.utf8 (sourceText ++ generatedText ++ listersText)) =
      .ok ([sourceMessage, generatedMessage] ++ listerMessages) := by
    decide +kernel
  have hmessages' : decodeMessages (Text.utf8 (listersText ++ generatedText ++ sourceText)) =
      .ok (listerMessages ++ [generatedMessage, sourceMessage]) := by
    decide +kernel
  have hrearranged := rearranged_output {} _ _ _ _ hmessages hmessages' ⟨by decide, rfl⟩
  have hmade : (Snapshot.ofOutput {}
      (Text.utf8 (sourceText ++ generatedText ++ listersText))).toOption.any (fun _ => true) := by
    decide +kernel
  obtain ⟨s, hs, _⟩ := exists_ok_of_any hmade
  obtain ⟨s', hs'⟩ := hrearranged.2.2.1.mp ⟨s, hs⟩
  exact ⟨s, s', hs, hs', hrearranged.2.2.2 s s' hs hs'⟩

end Snapshot

end TargetGraph
