import TargetGraph.Message.Stream
import TargetGraph.Ownership

set_option relaxedAutoImplicit false
set_option autoImplicit false

/-!
# From messages to reported targets

A query output yields one target for each rule, one for each source file, and one for each label
that somebody owns and no message is about.

## Main definitions

* `TargetGraph.Contents.targets` — the targets, in that order.
* `TargetGraph.Tally`, `TargetGraph.Contents.tally` — how much of what was seen.
* `TargetGraph.OutputError` — why a query output is refused.
* `TargetGraph.readOutput` — the contents of a query output.
-/

namespace TargetGraph

/-- The target that a rule is. -/
def RuleEntry.target (rule : RuleEntry) : Target :=
  { label := rule.label, kind := rule.kind, deps := rule.listing.map Listing.deps }

/-- The target that a source file is. -/
def SourceEntry.target (owners : LabelMap Label) (source : SourceEntry) : Target :=
  { label := source.label, kind := sourceFileKind, owner := owners[source.label]?,
    location := source.location }

/-- How much of what a query output holds. -/
structure Tally where
  /-- Rules. -/
  rules : Nat
  /-- Rules whose class carries sources. -/
  sourceRules : Nat
  /-- Source files. -/
  sourceFiles : Nat
  /-- Targets that are of no use: of other types, or generated for nobody. -/
  skipped : Nat
  deriving DecidableEq, Repr

namespace Contents

/-- The labels of the rules. -/
def ruleLabels (c : Contents) : LabelSet :=
  Std.ExtTreeSet.ofList (c.rules.map RuleEntry.label) compare

/-- The labels of the source files. -/
def sourceLabels (c : Contents) : LabelSet :=
  Std.ExtTreeSet.ofList (c.sources.map SourceEntry.label) compare

/-- The labels of the generated files. -/
def generatedLabels (c : Contents) : LabelSet :=
  Std.ExtTreeSet.ofList c.generated compare

/-- The targets that are owned without a message of their own, in label order. -/
def unreported (c : Contents) (owners : LabelMap Label) : List Target :=
  let rules := c.ruleLabels
  let sources := c.sourceLabels
  let generated := c.generatedLabels
  (owners.toList.filter fun entry => !sources.contains entry.1 && !rules.contains entry.1).map
    fun (label, owner) =>
      { label
        kind := if generated.contains label then generatedFileKind else sourceFileKind
        owner := some owner }

/-- The targets of a query output: the rules, the source files, then what is only owned. -/
def targets (c : Contents) : List Target :=
  let owners := c.owners
  c.rules.map RuleEntry.target ++ c.sources.map (SourceEntry.target owners) ++ c.unreported owners

/-- How much of what there is. -/
def tally (c : Contents) : Tally :=
  let owners := c.owners
  { rules := c.rules.length
    sourceRules := c.rules.countP fun rule => rule.listing.isSome
    sourceFiles := c.sources.length
    skipped := c.others + (c.generatedLabels.filter fun label => !owners.contains label).size }

end Contents

/-- Why a query output is refused. -/
inductive OutputError where
  /-- It is no stream of messages; the offset is the end of the last good message. -/
  | malformed (offset : Nat)
  /-- A label or a location in it cannot be read. -/
  | graph (cause : GraphError)
  deriving Repr

/-- The wording of a refusal. What the JSON reader has to say about it is not repeated. -/
def OutputError.message : OutputError → String
  | .malformed offset => "Malformed query output at byte " ++ toString offset ++ ": <json>"
  | .graph cause => cause.message

/-- The contents of a query output. -/
def readOutput (v : Vocabulary) (bytes : List UInt8) : Except OutputError Contents :=
  match decodeMessages bytes with
  | .error offset => .error (.malformed offset)
  | .ok messages =>
    match Contents.read v messages with
    | .error cause => .error (.graph cause)
    | .ok contents => .ok contents

end TargetGraph
