import TargetGraph.Json.Raw

set_option relaxedAutoImplicit false
set_option autoImplicit false

/-!
# Messages of a query output

The build tool reports each target as one message: a rule with its attributes, a source file, a
generated file, or a target of some other type.

## Main definitions

* `TargetGraph.Message`, `TargetGraph.RuleMessage`, `TargetGraph.AttributeMessage`,
  `TargetGraph.FileMessage` — the messages and their payloads.
* `TargetGraph.Message.ofRaw?` — the message that a JSON value writes.

## Main results

* `TargetGraph.AttributeMessage.mem_values_iff` — the values of an attribute, as members.
-/

namespace TargetGraph

open Json

/-- An attribute of a rule. -/
structure AttributeMessage where
  /-- The attribute's name. -/
  name : String
  /-- Its single value. -/
  value : Option String
  /-- Its list of values. -/
  list : List String
  deriving DecidableEq, Repr

/-- A rule. -/
structure RuleMessage where
  /-- The rule's label as it was written. -/
  name : String
  /-- Its class. -/
  kind : String
  /-- Its attributes. -/
  attributes : List AttributeMessage
  deriving DecidableEq, Repr

/-- A file. -/
structure FileMessage where
  /-- The file's label as it was written. -/
  name : String
  /-- Its location as it was written. -/
  location : Option String
  deriving DecidableEq, Repr

/-- One reported target. -/
inductive Message where
  /-- A rule. -/
  | rule (rule : RuleMessage)
  /-- A file that is checked in. -/
  | sourceFile (file : FileMessage)
  /-- A file that a rule makes. -/
  | generatedFile (file : FileMessage)
  /-- A target of one of these three types that says nothing about itself. -/
  | blank
  /-- A target of any other type. -/
  | other
  deriving DecidableEq, Repr

namespace AttributeMessage

/-- The values that are not empty: the single one, then the list. -/
def values (a : AttributeMessage) : List String :=
  (a.value.toList ++ a.list).filter fun value => value != ""

/-- An attribute has a value if the value is not empty, and is the single one or in the list. -/
theorem mem_values_iff {a : AttributeMessage} {value : String} :
    value ∈ a.values ↔ value ≠ "" ∧ (a.value = some value ∨ value ∈ a.list) := by
  rw [values, List.mem_filter, List.mem_append, Option.mem_toList, bne_iff_ne, and_comm]

end AttributeMessage

/-- A required text. -/
def requiredText? : Option Raw → Option String
  | some value => value.text?
  | none => none

/-- A field that may be missing or `null`. -/
def optional? {α : Type} (read : Raw → Option α) : Option Raw → Option (Option α)
  | none => some none
  | some .null => some none
  | some value => (read value).map some

/-- A list that may be missing. -/
def listOf? {α : Type} (read : Raw → Option α) : Option Raw → Option (List α)
  | none => some []
  | some value =>
    match value.items? with
    | none => none
    | some items => items.mapM read

/-- The attribute that a value writes. -/
def AttributeMessage.ofRaw? (value : Raw) : Option AttributeMessage := do
  match ← value.record? ["name", "stringValue", "stringListValue"] 1 with
  | [name, single, list] =>
    return ⟨← requiredText? name, ← optional? Raw.text? single, ← listOf? Raw.text? list⟩
  | _ => none

/-- The rule that a value writes. -/
def RuleMessage.ofRaw? (value : Raw) : Option RuleMessage := do
  match ← value.record? ["name", "ruleClass", "attribute"] 1 with
  | [name, kind, attributes] =>
    return ⟨← requiredText? name, ← requiredText? kind,
      ← listOf? AttributeMessage.ofRaw? attributes⟩
  | _ => none

/-- The file that a value writes. -/
def FileMessage.ofRaw? (value : Raw) : Option FileMessage := do
  match ← value.record? ["name", "location"] 0 with
  | [name, location] => return ⟨← requiredText? name, ← optional? Raw.text? location⟩
  | _ => none

/-- The type that a message names: a text, or an object whose one key is the name and whose value is
`null`. -/
def typeName? : Raw → Option String
  | .text bytes => decodeText? bytes
  | .object [(key, .null)] => decodeText? key
  | _ => none

namespace Message

/-- The message of a type, with the payload that its type asks for. -/
def ofParts (type : String) (rule : Option RuleMessage) (source generated : Option FileMessage) :
    Message :=
  if type = "RULE" then (rule.map Message.rule).getD .blank
  else if type = "SOURCE_FILE" then (source.map Message.sourceFile).getD .blank
  else if type = "GENERATED_FILE" then (generated.map Message.generatedFile).getD .blank
  else .other

/-- The message that a value writes. All its payloads have to be well formed, also those that its
type does not ask for. -/
def ofRaw? (value : Raw) : Option Message := do
  match ← value.record? ["type", "rule", "sourceFile", "generatedFile"] 0 with
  | [some kind, asRule, asSource, asGenerated] =>
    return ofParts (← typeName? kind) (← optional? RuleMessage.ofRaw? asRule)
      (← optional? FileMessage.ofRaw? asSource) (← optional? FileMessage.ofRaw? asGenerated)
  | _ => none

end Message

end TargetGraph
