import TargetGraph.GraphError
import TargetGraph.Message
import TargetGraph.Target
import TargetGraph.Vocabulary

set_option relaxedAutoImplicit false
set_option autoImplicit false

/-!
# Contents of a query output

What the messages of a query output say, once the labels and locations in them are read. Reading is
where a message can be refused; everything after it cannot fail.

## Main definitions

* `TargetGraph.RuleEntry`, `TargetGraph.SourceEntry`, `TargetGraph.Contents` — what was read.
* `TargetGraph.Contents.read` — the contents of some messages.
-/

namespace TargetGraph

/-- The class of rules that hand their sources to whoever lists them. -/
def filegroupKind : String := "filegroup"

/-- What a rule that carries sources lists. -/
structure Listing where
  /-- Its sources, as often as they are listed. -/
  sources : List Label
  /-- Its dependencies, each once, in the order in which they are first listed. -/
  deps : List Label
  deriving DecidableEq, Repr

/-- What a message says about a rule. -/
structure RuleEntry where
  /-- The rule's label. -/
  label : Label
  /-- Its class. -/
  kind : String
  /-- What it lists, if its class carries sources. -/
  listing : Option Listing
  /-- Its members, if it is a file group. -/
  members : Option (List Label)
  deriving DecidableEq, Repr

/-- What a message says about a source file. -/
structure SourceEntry where
  /-- The file's label. -/
  label : Label
  /-- Its place. -/
  location : Option Location
  deriving Repr

/-- What the messages of a query output say. -/
structure Contents where
  /-- The rules, in order. -/
  rules : List RuleEntry
  /-- The labels of the generated files, in order. -/
  generated : List Label
  /-- The source files, in order. -/
  sources : List SourceEntry
  /-- How many messages were about targets of other types. -/
  others : Nat
  deriving Repr

/-- The labels of a list that are not in `seen`, each where it stands first; `kept` are those found
so far, last first. -/
def firstSeenFrom (seen : LabelSet) (kept : List Label) : List Label → List Label
  | [] => kept.reverse
  | label :: rest =>
    if seen.contains label then firstSeenFrom seen kept rest
    else firstSeenFrom (seen.insert label) (label :: kept) rest

/-- The labels of a list, each where it stands first. -/
def firstSeen (labels : List Label) : List Label :=
  firstSeenFrom ∅ [] labels

/-- The labels that the values of an attribute write. -/
def AttributeMessage.readLabels (a : AttributeMessage) : Except GraphError (List Label) :=
  a.values.mapM Label.read

namespace RuleMessage

/-- The labels in the attributes that hold sources or dependencies, with what they are. -/
def readAttributes (v : Vocabulary) (r : RuleMessage) :
    Except GraphError (List (Role × List Label)) :=
  (r.attributes.filter fun a => v.role a.name != .neither).mapM fun a => do
    return (v.role a.name, ← a.readLabels)

/-- The labels of one role, in order. -/
def labelsOf (role : Role) (read : List (Role × List Label)) : List Label :=
  (read.filter fun entry => entry.1 == role).flatMap Prod.snd

/-- What a rule that carries sources lists. -/
def readListing (v : Vocabulary) (r : RuleMessage) : Except GraphError Listing := do
  let read ← r.readAttributes v
  return { sources := labelsOf .source read, deps := firstSeen (labelsOf .dependency read) }

/-- The members of a file group: all that it lists as sources. -/
def readMembers (v : Vocabulary) (r : RuleMessage) : Except GraphError (List Label) := do
  let read ← (r.attributes.filter fun a => v.sourceAttributes.contains a.name).mapM
    AttributeMessage.readLabels
  return read.flatten

/-- What a message says about a rule. Labels in attributes are looked at only where the rule carries
sources or is a file group. -/
def read (v : Vocabulary) (r : RuleMessage) : Except GraphError RuleEntry := do
  let label ← Label.read r.name
  let listing ← if v.isSourceKind r.kind then some <$> r.readListing v else pure none
  let members ← if r.kind = filegroupKind then some <$> r.readMembers v else pure none
  return { label, kind := r.kind, listing, members }

end RuleMessage

/-- What a message says about a source file. -/
def FileMessage.readSource (f : FileMessage) : Except GraphError SourceEntry := do
  let label ← Label.read f.name
  let location ← match f.location with
    | some raw => some <$> Location.read raw
    | none => pure none
  return { label, location }

/-- What the first reading of the messages is about. -/
inductive Declared where
  /-- A rule. -/
  | rule (entry : RuleEntry)
  /-- A generated file. -/
  | generated (label : Label)
  deriving Repr

namespace Contents

/-- Rules and generated files; `none` for other messages. -/
def readDeclared (v : Vocabulary) : Message → Except GraphError (Option Declared)
  | .rule r => do return some (.rule (← r.read v))
  | .generatedFile f => do return some (.generated (← Label.read f.name))
  | .sourceFile _ | .blank | .other => pure none

/-- Source files; `none` for other messages. -/
def readSource : Message → Except GraphError (Option SourceEntry)
  | .sourceFile f => do return some (← f.readSource)
  | .rule _ | .generatedFile _ | .blank | .other => pure none

/-- What some messages say. All rules and generated files are read before any source file, so what
is wrong with one of those is noticed first. -/
def read (v : Vocabulary) (messages : List Message) : Except GraphError Contents := do
  let declared := (← messages.mapM (readDeclared v)).filterMap id
  let sources := (← messages.mapM readSource).filterMap id
  return {
    rules := declared.filterMap fun
      | .rule entry => some entry
      | .generated _ => none
    generated := declared.filterMap fun
      | .generated label => some label
      | .rule _ => none
    sources
    others := messages.countP fun message => message == .other }

end Contents

end TargetGraph
