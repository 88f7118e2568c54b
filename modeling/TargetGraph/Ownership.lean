import TargetGraph.Contents

set_option relaxedAutoImplicit false
set_option autoImplicit false

/-!
# Ownership of sources

A rule that carries sources owns the sources that it lists; of several rules the first one does. A
rule that lists a file group owns the group's members too, and those of the groups among them,
unless somebody owns them already.

## Main definitions

* `TargetGraph.Contents.directOwners` — the owners of the listed sources.
* `TargetGraph.Contents.filegroups` — the members of each file group.
* `TargetGraph.forward` — handing ownership from groups on to their members.
* `TargetGraph.Contents.owners` — the owners of all sources.
-/

namespace TargetGraph

/-- The owners with `owner` claiming `sources`; what is owned stays as it is. -/
def claim (owners : LabelMap Label) (owner : Label) (sources : List Label) : LabelMap Label :=
  sources.foldl (fun owners source => owners.insertIfNew source owner) owners

namespace RuleEntry

/-- The owners with a rule claiming the sources that it lists. -/
def claimSources (owners : LabelMap Label) (rule : RuleEntry) : LabelMap Label :=
  match rule.listing with
  | none => owners
  | some listing => claim owners rule.label listing.sources

/-- The groups with the members of a rule, if it is a file group. -/
def addMembers (groups : LabelMap (List Label)) (rule : RuleEntry) : LabelMap (List Label) :=
  match rule.members with
  | none => groups
  | some members => groups.insert rule.label members

end RuleEntry

namespace Contents

/-- The owners of the sources that rules list themselves: of several rules the first. -/
def directOwners (c : Contents) : LabelMap Label :=
  c.rules.foldl RuleEntry.claimSources ∅

/-- The members of each file group: of several groups of one name the last. -/
def filegroups (c : Contents) : LabelMap (List Label) :=
  c.rules.foldl RuleEntry.addMembers ∅

end Contents

/-- Ownership in the middle of being handed on. -/
structure Forwarding where
  /-- The owners so far. -/
  owners : LabelMap Label
  /-- The groups whose members are still to be claimed, with the rule that claims them; next
  first. -/
  pending : List (Label × Label)

namespace Forwarding

/-- `owner` claims one member of a group; a member that is a group itself is pending from then
on. -/
def claimMember (groups : LabelMap (List Label)) (owner : Label) (f : Forwarding) (member : Label) :
    Forwarding :=
  if f.owners.contains member then f
  else
    { owners := f.owners.insert member owner
      pending := if groups.contains member then (member, owner) :: f.pending else f.pending }

/-- The members of the next pending group are claimed. -/
def step (groups : LabelMap (List Label)) (f : Forwarding) : Forwarding :=
  match f.pending with
  | [] => f
  | (group, owner) :: rest =>
    ((groups[group]?).getD []).foldl (claimMember groups owner) { f with pending := rest }

/-- At most `steps` pending groups are dealt with. -/
def run (groups : LabelMap (List Label)) : Nat → Forwarding → Forwarding
  | 0, f => f
  | steps + 1, f => if f.pending.isEmpty then f else run groups steps (f.step groups)

/-- Before the first step the owned groups are pending, in label order. -/
def start (groups : LabelMap (List Label)) (owners : LabelMap Label) : Forwarding where
  owners
  pending := owners.toList.filter fun entry => groups.contains entry.1

/-- Ownership handed on to the end. Each group is dealt with at most once, as it becomes pending
when it gets its owner. -/
def finish (groups : LabelMap (List Label)) (owners : LabelMap Label) : Forwarding :=
  run groups groups.size (start groups owners)

end Forwarding

/-- The owners once the members of owned groups have one as well. -/
def forward (groups : LabelMap (List Label)) (owners : LabelMap Label) : LabelMap Label :=
  (Forwarding.finish groups owners).owners

namespace Contents

/-- The owner of every source that has one. -/
def owners (c : Contents) : LabelMap Label :=
  forward c.filegroups c.directOwners

end Contents

end TargetGraph
