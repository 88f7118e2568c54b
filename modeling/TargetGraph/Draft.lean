import TargetGraph.GraphError
import TargetGraph.Snapshot

set_option relaxedAutoImplicit false
set_option autoImplicit false

/-!
# Drafts of snapshots

A draft takes in what a report says, write by write, and becomes a snapshot at the end. A write to
a keyed collection is checked: the same value twice is accepted, a different value for a bound key
is refused and changes nothing.

## Main definitions

* `TargetGraph.Draft` — a snapshot in the making.
* `TargetGraph.Write`, `TargetGraph.Draft.write`, `TargetGraph.Draft.writeAll` — single writes, and
  runs of writes that stop at the first refusal.
* `TargetGraph.Target.writes` — the writes that record one reported target.
* `TargetGraph.Draft.build`, `TargetGraph.Snapshot.ofTargets` — the finished snapshot.
-/

namespace TargetGraph

/-- A snapshot in the making. -/
structure Draft extends Snapshot where
  /-- The labels that some target names as a dependency. -/
  referenced : LabelSet := ∅

/-- One piece of information for a draft. -/
inductive Write where
  /-- The place of a target. -/
  | location (target : Label) (location : Location)
  /-- A target that is listed as a source. -/
  | sourceTarget (target : Label)
  /-- The target of a file. -/
  | file (path : SourcePath) (target : Label)
  /-- The rule that owns a source. -/
  | owner (source owner : Label)
  /-- The dependencies of a rule. -/
  | deps (rule : Label) (deps : LabelSet)
  /-- A target outside the project. -/
  | external (target : Label)
  /-- An Android rule. -/
  | android (target : Label)
  /-- The kind of a target. -/
  | kind (target : Label) (kind : String)
  /-- Labels named as dependencies. -/
  | referenced (labels : List Label)

/-- The entries with `key` bound to `value`, unless it is bound to another value already. -/
def bind? {κ β : Type} [Ord κ] [Std.TransOrd κ] [BEq β] (entries : Std.ExtTreeMap κ β) (key : κ)
    (value : β) : Option (Std.ExtTreeMap κ β) :=
  match entries[key]? with
  | none => some (entries.insert key value)
  | some bound => if bound == value then some entries else none

/-- The set together with the labels of a list. -/
def LabelSet.insertAll (set : LabelSet) (labels : List Label) : LabelSet :=
  labels.foldl (fun s label => s.insert label) set

namespace Draft

/-- The draft that knows nothing. -/
def empty : Draft := {}

/-- The draft with one piece of information more, or the slot that it contradicts. A refused file is
named as it was first written. -/
def write (d : Draft) : Write → Except GraphError Draft
  | .location target location =>
    match bind? d.locations target location with
    | some locations => .ok { d with locations }
    | none => .error (.duplicate (.location target))
  | .sourceTarget target => .ok { d with sourceTargets := d.sourceTargets.insert target }
  | .file path target =>
    match bind? d.files path target with
    | some files => .ok { d with files }
    | none => .error (.duplicate (.file ((d.files.getKey? path).getD path)))
  | .owner source owner =>
    match bind? d.owners source owner with
    | some owners => .ok { d with owners }
    | none => .error (.duplicate (.owner source))
  | .deps rule deps =>
    match bind? d.deps rule deps with
    | some deps => .ok { d with deps }
    | none => .error (.duplicate (.deps rule))
  | .external target => .ok { d with external := d.external.insert target }
  | .android target => .ok { d with android := d.android.insert target }
  | .kind target kind =>
    match bind? d.kinds target kind with
    | some kinds => .ok { d with kinds }
    | none => .error (.duplicate (.kind target))
  | .referenced labels => .ok { d with referenced := d.referenced.insertAll labels }

/-- The writes in order, up to the first that is refused; what was written before it stays. -/
def writeAll (d : Draft) : List Write → Draft × Option GraphError
  | [] => (d, none)
  | w :: rest =>
    match d.write w with
    | .ok next => next.writeAll rest
    | .error e => (d, some e)

/-- The finished snapshot. A label that was named as a dependency, and got neither dependencies of
its own nor a place, is outside the project. -/
def build (d : Draft) : Snapshot :=
  { d.toSnapshot with
    external := d.external ∪
      d.referenced.filter fun label => !d.deps.contains label && !d.locations.contains label }

end Draft

/-- Recording the owner of a source lists it as a source too. -/
def Write.ownership (source owner : Label) : List Write :=
  [.owner source owner, .sourceTarget source]

/-- The writes that record one target, in the order in which they are checked. -/
def Target.writes (t : Target) : List Write :=
  (if isAndroidKind t.kind then [.android t.label] else []) ++
  (match t.location with
    | none => []
    | some location =>
      (if t.kind = sourceFileKind then [.file location.file t.label] else []) ++
        [.location t.label location]) ++
  (match t.owner with
    | none => []
    | some owner => Write.ownership t.label owner) ++
  (match t.deps with
    | none => []
    | some deps => [.referenced deps, .deps t.label (Std.ExtTreeSet.ofList deps compare)]) ++
  [.kind t.label t.kind]

/-- The draft with some targets recorded, up to the first contradiction. -/
def Draft.record (d : Draft) (targets : List Target) : Draft × Option GraphError :=
  d.writeAll (targets.flatMap Target.writes)

/-- The snapshot of some targets, or their first contradiction. -/
def Snapshot.ofTargets (targets : List Target) : Except GraphError Snapshot :=
  match Draft.empty.record targets with
  | (d, none) => .ok d.build
  | (_, some e) => .error e

end TargetGraph
