import TargetGraph.Location
import TargetGraph.Label
import TargetGraph.Text.Quoted

set_option relaxedAutoImplicit false
set_option autoImplicit false

/-!
# What can be wrong with a report

A report of the build tool is refused when a label or a location in it cannot be read, or when it
says two different things about one key.

## Main definitions

* `TargetGraph.Slot` — a key of one of the keyed collections of a snapshot.
* `TargetGraph.GraphError` — the causes, and `TargetGraph.GraphError.message`, their wording.
* `TargetGraph.Label.read`, `TargetGraph.Location.read` — reading with such a cause on failure.
-/

namespace TargetGraph

/-- A key of a keyed collection, which holds at most one value. -/
inductive Slot where
  /-- The location of a target. -/
  | location (target : Label)
  /-- The target of a file. -/
  | file (path : SourcePath)
  /-- The owner of a source. -/
  | owner (source : Label)
  /-- The dependencies of a rule. -/
  | deps (rule : Label)
  /-- The kind of a target. -/
  | kind (target : Label)
  deriving Repr

namespace Slot

/-- The collection's name in messages. -/
def collection : Slot → String
  | .location _ => "locations"
  | .file _ => "fileToTarget"
  | .owner _ => "sourceOwner"
  | .deps _ => "ruleDeps"
  | .kind _ => "targetToKind"

/-- The key as messages show it. -/
def key : Slot → String
  | .file path => Text.quoted path.text
  | .location label | .owner label | .deps label | .kind label => label.described

end Slot

/-- Why a report is refused. -/
inductive GraphError where
  /-- A key would get a second, different value. -/
  | duplicate (slot : Slot)
  /-- The text does not have the form of a location. -/
  | malformedLocation (raw : String)
  /-- The text writes a location in an absolute path. -/
  | absoluteLocation (raw : String)
  /-- The text is no label. -/
  | invalidLabel (raw : String)
  deriving Repr

/-- The wording of a cause. -/
def GraphError.message : GraphError → String
  | .duplicate slot => "Duplicate entry for " ++ slot.key ++ " in " ++ slot.collection
  | .malformedLocation raw => "Location not recognized: " ++ raw
  | .absoluteLocation raw =>
    "Filename starts with /: " ++ raw ++
      " (ensure that `--relative_locations=true` was specified in the query invocation)"
  | .invalidLabel raw => "Invalid label: " ++ raw

/-- The label that `raw` writes. -/
def Label.read (raw : String) : Except GraphError Label :=
  match Label.parse? raw with
  | some label => .ok label
  | none => .error (.invalidLabel raw)

/-- The location that `raw` writes. -/
def Location.read (raw : String) : Except GraphError Location :=
  match Location.parse raw with
  | .ok location => .ok location
  | .error .malformed => .error (.malformedLocation raw)
  | .error .absolute => .error (.absoluteLocation raw)

end TargetGraph
