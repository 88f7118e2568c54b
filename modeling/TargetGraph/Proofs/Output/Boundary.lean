import TargetGraph.Proofs.Closure.History
import TargetGraph.Proofs.Output.Report

set_option relaxedAutoImplicit false
set_option autoImplicit false

/-!
# The boundary of the project

Closures of the snapshot of a query output, said through its messages. They go along the reported
dependencies and end at the labels that are neither enumerated rules nor located source files.

## Main results

* `TargetGraph.Snapshot.Reflects.needs_iff_of_enumerates`,
  `TargetGraph.Snapshot.Reflects.needs_iff_of_not_enumerates` — what an enumerated rule needs, and
  what any other label does.
* `TargetGraph.Snapshot.closures_end_at_boundary` — the closures of labels and of files, whatever
  was asked before.
-/

namespace TargetGraph

open Relation

namespace Snapshot

variable {s : Snapshot} {report : Report} {target label : Label} {path : SourcePath}

namespace Reflects

/-- Outside the project there is neither an enumerated rule nor a located source file. -/
theorem not_enumerates_of_mem_external (h : s.Reflects report) (hlabel : label ∈ s.external) :
    ¬report.Enumerates label ∧ ¬report.Locates label :=
  ((h.mem_external label).mp hlabel).2

/-- What is reached in the snapshot is reached along the reported dependencies: the edges are the
same. -/
theorem reaches_iff (h : s.Reflects report) :
    s.Reaches target label ↔ report.Reaches target label := by
  have hedges : s.DependsOn = report.DependsOn := by
    funext rule dep
    exact propext (h.dependsOn rule dep)
  rw [Snapshot.Reaches, Report.Reaches, hedges]

/-- There are no cycles where some number grows along every reported dependency. -/
theorem acyclic_of_rank (h : s.Reflects report) (rank : Label → Nat)
    (hrank : ∀ r ∈ report.messages.filterMap Message.rule?, ∀ rule ∈ Label.parse? r.name,
      ∀ dep ∈ r.dependencyLabels report.vocabulary, rank rule < rank dep) : s.Acyclic := by
  refine Snapshot.acyclic_of_rank rank fun rule dep hdep => ?_
  obtain ⟨r, hr, _, hname, hmem⟩ := (h.dependsOn rule dep).mp hdep
  exact hrank r (Message.mem_filterMap_rule?.mpr hr) rule hname dep hmem

/-- The leaves of the snapshot are the labels that are not enumerated. -/
theorem getElem?_deps_eq_none_iff (h : s.Reflects report) :
    s.deps[label]? = none ↔ ¬report.Enumerates label := by
  rw [← h.mem_deps, Std.ExtTreeMap.mem_iff_isSome_getElem?, Option.not_isSome_iff_eq_none]

/-- **An enumerated rule needs what it reaches and what is neither enumerated nor located.**

**Proof sketch.** `Needs` asks for a leaf that is outside the project. A leaf is a label that is not
enumerated. That it is named as a dependency, which being outside the project asks for too, follows
from its being reached: it is not the rule itself, so the last edge to it names it. -/
theorem needs_iff_of_enumerates (h : s.Reflects report) (hrule : report.Enumerates target) :
    s.Needs target label ↔
      report.Reaches target label ∧ ¬report.Enumerates label ∧ ¬report.Locates label := by
  rw [Needs, h.mem_external, h.getElem?_deps_eq_none_iff, h.reaches_iff]
  constructor
  · rintro ⟨⟨_, hnew, hunplaced⟩, _, hreach⟩
    exact ⟨hreach, hnew, hunplaced⟩
  · rintro ⟨hreach, hnew, hunplaced⟩
    refine ⟨⟨?_, hnew, hunplaced⟩, hnew, hreach⟩
    -- the label is not the rule itself, so the last edge to it names it as a dependency
    rcases ReflTransGen.cases_tail hreach with heq | ⟨rule, _, hdep⟩
    · exact absurd (heq ▸ hrule) hnew
    · exact ⟨rule, hdep⟩

/-- **A label that is not enumerated needs itself at most**: if it is a dependency of some rule and
has no location.

**Proof sketch.** Such a label has no dependencies, so it reaches only itself. -/
theorem needs_iff_of_not_enumerates (h : s.Reflects report) (hleaf : ¬report.Enumerates target) :
    s.Needs target label ↔
      label = target ∧ (∃ rule, report.DependsOn rule target) ∧ ¬report.Locates target := by
  rw [Needs, h.mem_external, h.getElem?_deps_eq_none_iff, h.reaches_iff]
  constructor
  · rintro ⟨⟨hnamed, _, hunplaced⟩, _, hreach⟩
    rcases ReflTransGen.cases_head hreach with rfl | ⟨dep, ⟨r, hr, hkind, hname, _⟩, _⟩
    · exact ⟨rfl, hnamed, hunplaced⟩
    · exact absurd ⟨r, hr, hkind, hname⟩ hleaf
  · rintro ⟨rfl, hnamed, hunplaced⟩
    exact ⟨⟨hnamed, hleaf, hunplaced⟩, hleaf, ReflTransGen.refl⟩

/-- The owner of a file is the declared owner of the source that is reported there.

**Proof sketch.** The owner is looked up for the source that the file is tracked for. That source
has a place, so its owner in the snapshot is the declared one, and a source has one declared owner
at most (`Declaration.Owned.unique`). -/
theorem owner?_eq_some_iff_owned (h : s.Reflects report) {owner : Label} :
    s.owner? path = some owner ↔
      ∃ source, report.Tracks path source ∧ report.Owned source (some owner) := by
  simp only [owner?_eq_some_iff, ← h.files]
  refine exists_congr fun source => and_congr_right fun hfile => ?_
  obtain ⟨place, hplace, _⟩ := (h.placed path source).mp hfile
  have howned := h.owned source (by
    rw [Std.ExtTreeMap.mem_iff_isSome_getElem?, hplace]
    rfl)
  constructor
  · intro howner
    rwa [howner] at howned
  · exact howned.unique

end Reflects

/-! ### Closures of files -/

variable {o : s.Traversal} {m : Memo}

/-- A file needs what its owner needs. -/
theorem fileClosure_of_owner {owner : Label} (h : s.owner? path = some owner) :
    o.fileClosure path m = o.closure owner m := by
  rw [Traversal.fileClosure, h]

/-- A file without an owner needs nothing. -/
theorem fileClosure_of_no_owner (h : s.owner? path = none) : o.fileClosure path m = (∅, m) := by
  rw [Traversal.fileClosure, h]
  rfl

/-- **Closures go along the reported dependencies and end at the boundary of the project.** Nothing
outside the project is an enumerated rule or a located source file. Whatever was asked before, the
closure of an enumerated rule has what the rule reaches and what is neither of the two; that of any
other label has the label itself, if it is a dependency of some rule and has no location, and else
nothing; and that of a file is the closure of its owner, or empty without one.

**Proof sketch.** The snapshot holds what the messages say (`exists_reflects_of_ofOutput`), and a
closure is what its label needs (`mem_closure_iff`). What is reached from a rule and is no rule has
been named as a dependency by the last edge that leads to it, so it is outside the project unless it
has a place. -/
theorem closures_end_at_boundary (v : Vocabulary) (bytes : List UInt8) (s : Snapshot)
    (h : Snapshot.ofOutput v bytes = .ok s) (hacyclic : s.Acyclic) :
    ∃ messages, decodeMessages bytes = .ok messages ∧
      let report : Report := ⟨v, messages⟩
      (∀ label ∈ s.external, ¬report.Enumerates label ∧ ¬report.Locates label) ∧
      ∀ (history : List (s.Traversal × Inquiry)) (o : s.Traversal),
        let memo := s.memoAfter history
        let closure := fun target => (o.closure target memo).1
        (∀ rule, report.Enumerates rule → ∀ label, label ∈ closure rule ↔
          report.Reaches rule label ∧ ¬report.Enumerates label ∧ ¬report.Locates label) ∧
        (∀ target, ¬report.Enumerates target →
          ((∃ rule, report.DependsOn rule target) ∧ ¬report.Locates target →
            closure target = {target}) ∧
          (¬((∃ rule, report.DependsOn rule target) ∧ ¬report.Locates target) →
            closure target = ∅)) ∧
        ∀ path,
          (∀ owner, s.owner? path = some owner ↔
            ∃ source, report.Tracks path source ∧ report.Owned source (some owner)) ∧
          (∀ owner, s.owner? path = some owner → (o.fileClosure path memo).1 = closure owner) ∧
          (s.owner? path = none → (o.fileClosure path memo).1 = ∅) := by
  obtain ⟨messages, hmessages, hreflects⟩ := exists_reflects_of_ofOutput h
  refine ⟨messages, hmessages, fun _ => hreflects.not_enumerates_of_mem_external,
    fun history o => ⟨?_, ?_, ?_⟩⟩
  · intro rule hrule label
    exact (mem_closure_iff hacyclic history o rule).trans (hreflects.needs_iff_of_enumerates hrule)
  · -- a label that is not enumerated needs itself or nothing
    intro target hleaf
    refine ⟨fun hout => Std.ExtTreeSet.ext_mem fun label => ?_,
      fun hin => Std.ExtTreeSet.ext_mem fun label => ?_⟩
    · rw [mem_closure_iff hacyclic history o, hreflects.needs_iff_of_not_enumerates hleaf,
        LabelSet.mem_singleton]
      exact and_iff_left hout
    · rw [mem_closure_iff hacyclic history o, hreflects.needs_iff_of_not_enumerates hleaf]
      exact iff_of_false (fun hneeds => hin hneeds.2) Std.ExtTreeSet.not_mem_empty
  · intro path
    refine ⟨fun _ => hreflects.owner?_eq_some_iff_owned, fun owner howner => ?_, fun hnone => ?_⟩
    · exact congrArg Prod.fst (fileClosure_of_owner howner)
    · exact congrArg Prod.fst (fileClosure_of_no_owner hnone)

/-- A rule that depends on another one and on a source file. The other one depends on a label that
no message is about. -/
def crossing : List UInt8 :=
  Text.utf8 <|
    "\x7b\"type\":\"RULE\",\"rule\":\x7b\"name\":\"//a:app\",\"ruleClass\":\"java_library\"," ++
      "\"attribute\":[\x7b\"name\":\"srcs\",\"stringListValue\":[\"//a:Main.java\"]\x7d," ++
      "\x7b\"name\":\"deps\",\"stringListValue\":[\"//b:lib\",\"//a:data\"]\x7d]\x7d\x7d" ++
    "\x7b\"type\":\"RULE\",\"rule\":\x7b\"name\":\"//b:lib\",\"ruleClass\":\"java_library\"," ++
      "\"attribute\":[\x7b\"name\":\"exports\",\"stringValue\":\"@m//:guava\"\x7d]\x7d\x7d" ++
    "\x7b\"type\":\"SOURCE_FILE\",\"sourceFile\":\x7b\"name\":\"//a:Main.java\"," ++
      "\"location\":\"a/Main.java:1:1\"\x7d\x7d" ++
    "\x7b\"type\":\"SOURCE_FILE\",\"sourceFile\":\x7b\"name\":\"//a:data\"," ++
      "\"location\":\"a/data:1:1\"\x7d\x7d"

/-- The first rule of the crossing. -/
def crossingApp : RuleMessage :=
  ⟨"//a:app", "java_library",
    [⟨"srcs", none, ["//a:Main.java"]⟩, ⟨"deps", none, ["//b:lib", "//a:data"]⟩]⟩

/-- The second rule of the crossing. -/
def crossingLib : RuleMessage :=
  ⟨"//b:lib", "java_library", [⟨"exports", some "@m//:guava", []⟩]⟩

/-- What is reported for the crossing. -/
def crossingReport : Report where
  vocabulary := {}
  messages := [.rule crossingApp, .rule crossingLib,
    .sourceFile ⟨"//a:Main.java", some "a/Main.java:1:1"⟩,
    .sourceFile ⟨"//a:data", some "a/data:1:1"⟩]

/-- The messages of the crossing. -/
theorem decodeMessages_crossing : decodeMessages crossing = .ok crossingReport.messages := by
  decide +kernel

/-- In the crossing, the dependencies of the second rule come after those of the first one. -/
theorem acyclic_crossing (h : s.Reflects crossingReport) : s.Acyclic :=
  h.acyclic_of_rank
    (fun label => if label = ⟨"//a:app"⟩ then 0 else if label = ⟨"//b:lib"⟩ then 1 else 2)
    (by decide +kernel)

/-- The first rule of the crossing reaches what is outside the project, through the second one. Its
other dependency has a location, and is not in the closure. -/
theorem closure_crossing : ∃ s, Snapshot.ofOutput {} crossing = .ok s ∧ s.Acyclic ∧
    ⟨"@m//:guava"⟩ ∈ (s.inOrder.closure ⟨"//a:app"⟩ (s.memoAfter [(s.inOrder, .prefetch)])).1 ∧
    ⟨"//a:data"⟩ ∉ (s.inOrder.closure ⟨"//a:app"⟩ (s.memoAfter [(s.inOrder, .prefetch)])).1 := by
  have hok : (Snapshot.ofOutput {} crossing).toOption.isSome = true := by
    decide +kernel
  cases hs : Snapshot.ofOutput {} crossing with
  | error e =>
    rw [hs] at hok
    cases hok
  | ok s =>
    have hmessages : ∀ messages, decodeMessages crossing = .ok messages →
        (⟨{}, messages⟩ : Report) = crossingReport := by
      intro messages hdecoded
      rw [decodeMessages_crossing] at hdecoded
      rw [← Except.ok.inj hdecoded]
      rfl
    obtain ⟨messages, hdecoded, hreflects⟩ := exists_reflects_of_ofOutput hs
    have hacyclic : s.Acyclic := acyclic_crossing (hmessages messages hdecoded ▸ hreflects)
    obtain ⟨messages', hdecoded', _, hclosures⟩ :=
      closures_end_at_boundary {} crossing s hs hacyclic
    rw [hmessages messages' hdecoded'] at hclosures
    have hrule := (hclosures [(s.inOrder, .prefetch)] s.inOrder).1 ⟨"//a:app"⟩ (by decide +kernel)
    have hfirst : crossingReport.DependsOn ⟨"//a:app"⟩ ⟨"//b:lib"⟩ := by
      decide +kernel
    have hsecond : crossingReport.DependsOn ⟨"//b:lib"⟩ ⟨"@m//:guava"⟩ := by
      decide +kernel
    have hout : ¬crossingReport.Enumerates ⟨"@m//:guava"⟩ ∧
        ¬crossingReport.Locates ⟨"@m//:guava"⟩ ∧ crossingReport.Locates ⟨"//a:data"⟩ := by
      decide +kernel
    exact ⟨s, rfl, hacyclic,
      (hrule _).mpr ⟨(ReflTransGen.single hfirst).tail hsecond, hout.1, hout.2.1⟩,
      fun hmem => ((hrule _).mp hmem).2.2 hout.2.2⟩

end Snapshot

end TargetGraph
