import TargetGraph.Proofs.Draft.Writes

set_option relaxedAutoImplicit false
set_option autoImplicit false

/-!
# Which targets make a snapshot

Some targets make a snapshot when no two of them contradict each other.

## Main definitions

* `TargetGraph.Target.Records` — what is written about a target.
* `TargetGraph.Target.Agrees` — two targets do not contradict each other.

## Main results

* `TargetGraph.Snapshot.exists_ofTargets_iff` — some targets make a snapshot when every two of them
  agree.
* `TargetGraph.Snapshot.exists_duplicate_of_ofTargets` — else a key gets a second value.
* `TargetGraph.Snapshot.ofTargets_ne_owner` — which is no owner, where the owners come from one
  assignment.
-/

namespace TargetGraph

namespace Write

variable {w other : Write}

/-- A write does not contradict itself. -/
theorem agrees_refl (w : Write) : w.Agrees w := by
  cases w with
  | location target place => exact fun _ => BEq.rfl
  | file path target => exact fun _ => rfl
  | owner source rule => exact fun _ => rfl
  | deps rule labels => exact fun _ => rfl
  | kind target name => exact fun _ => rfl
  | _ => trivial

/-- Contradiction goes both ways. -/
theorem Agrees.symm (h : w.Agrees other) : other.Agrees w := by
  cases w <;> cases other <;> try trivial
  · exact fun heq => BEq.symm (h heq.symm)
  · exact fun heq => (h (BEq.symm heq)).symm
  · exact fun heq => (h heq.symm).symm
  · exact fun heq => (h heq.symm).symm
  · exact fun heq => (h heq.symm).symm

/-- In a run that does not contradict itself, any two writes agree, whichever comes first. -/
theorem pairwise_agrees_iff {ws : List Write} :
    ws.Pairwise Write.Agrees ↔ ∀ w ∈ ws, ∀ other ∈ ws, w.Agrees other := by
  constructor
  · intro h
    have hflip : ws.Pairwise (flip Write.Agrees) := h.imp Agrees.symm
    exact List.Pairwise.forall_of_forall_of_flip (fun w _ => agrees_refl w) h hflip
  · exact List.pairwise_of_forall_mem_list

end Write

namespace Target

variable {t other : Target} {w : Write}

/-- What is written about a target. -/
def Records (t : Target) : Write → Prop
  | .location target place => target = t.label ∧ t.location = some place
  | .sourceTarget target => target = t.label ∧ t.owner.isSome
  | .file path target => target = t.label ∧ t.kind = sourceFileKind ∧
      ∃ place, t.location = some place ∧ path = place.file
  | .owner source rule => source = t.label ∧ t.owner = some rule
  | .deps rule labels => rule = t.label ∧
      ∃ deps, t.deps = some deps ∧ labels = Std.ExtTreeSet.ofList deps compare
  | .external _ => False
  | .android target => target = t.label ∧ isAndroidKind t.kind
  | .kind target name => target = t.label ∧ name = t.kind
  | .referenced labels => t.deps = some labels

/-- The writes about a target.

**Proof sketch.** Which writes there are depends on the owner, the dependencies and the place being
there, and on the kind. Once these are known the writes are a plain list, and each of its members is
one case of `Records`. -/
theorem mem_writes : w ∈ t.writes ↔ t.Records w := by
  obtain ⟨label, kind, owner, deps, place⟩ := t
  -- the writes are a plain list once it is known which of the three fields are there
  cases owner <;> cases deps <;> cases place <;> cases w <;>
    simp [writes, Write.ownership, Records] <;> grind

/-- Two targets do not contradict each other. -/
structure Agrees (t other : Target) : Prop where
  /-- A label has one kind. -/
  kind : t.label = other.label → t.kind = other.kind
  /-- It has one owner at most. -/
  owner : t.label = other.label → ∀ rule rule', t.owner = some rule → other.owner = some rule' →
    rule = rule'
  /-- It has one set of dependencies at most. -/
  deps : t.label = other.label → ∀ deps deps', t.deps = some deps → other.deps = some deps' →
    ∀ label, label ∈ deps ↔ label ∈ deps'
  /-- It has one place at most. -/
  location : t.label = other.label → ∀ place place', t.location = some place →
    other.location = some place' → (place == place') = true
  /-- A file has one label. -/
  file : t.kind = sourceFileKind → other.kind = sourceFileKind → ∀ place place',
    t.location = some place → other.location = some place' → (place.file == place'.file) = true →
    t.label = other.label

/-- No two writes about targets that do not contradict each other do so themselves.

**Proof sketch.** Two writes can only contradict each other if they are of the same form, and then
the fields of the targets that `Records` names are those that one field of `Agrees` is about. -/
theorem Agrees.records {w' : Write} (h : t.Agrees other) (hw : t.Records w)
    (hw' : other.Records w') : w.Agrees w' := by
  cases w with
  | location target place =>
    cases w' with
    | location target' place' =>
      obtain ⟨rfl, hplace⟩ := hw
      obtain ⟨rfl, hplace'⟩ := hw'
      exact fun heq => h.location heq place place' hplace hplace'
    | _ => trivial
  | file path target =>
    cases w' with
    | file path' target' =>
      obtain ⟨rfl, hkind, place, hplace, rfl⟩ := hw
      obtain ⟨rfl, hkind', place', hplace', rfl⟩ := hw'
      exact h.file hkind hkind' place place' hplace hplace'
    | _ => trivial
  | owner source rule =>
    cases w' with
    | owner source' rule' =>
      obtain ⟨rfl, hrule⟩ := hw
      obtain ⟨rfl, hrule'⟩ := hw'
      exact fun heq => h.owner heq rule rule' hrule hrule'
    | _ => trivial
  | deps rule labels =>
    cases w' with
    | deps rule' labels' =>
      obtain ⟨rfl, deps, hdeps, rfl⟩ := hw
      obtain ⟨rfl, deps', hdeps', rfl⟩ := hw'
      intro heq
      refine Std.ExtTreeSet.ext_mem fun label => ?_
      rw [LabelSet.mem_ofList, LabelSet.mem_ofList]
      exact h.deps heq deps deps' hdeps hdeps' label
    | _ => trivial
  | kind target name =>
    cases w' with
    | kind target' name' =>
      obtain ⟨rfl, rfl⟩ := hw
      obtain ⟨rfl, rfl⟩ := hw'
      exact h.kind
    | _ => trivial
  | _ => trivial

/-- Targets do not contradict each other if no two writes about them do: each field of `Agrees` is
what two writes of one form ask for. -/
theorem Agrees.of_records
    (h : ∀ w, t.Records w → ∀ w', other.Records w' → w.Agrees w') : t.Agrees other where
  kind := h (.kind t.label t.kind) ⟨rfl, rfl⟩ (.kind other.label other.kind) ⟨rfl, rfl⟩
  owner heq rule rule' hrule hrule' :=
    h (.owner t.label rule) ⟨rfl, hrule⟩ (.owner other.label rule') ⟨rfl, hrule'⟩ heq
  deps heq deps deps' hdeps hdeps' label := by
    have hsame := h (.deps t.label _) ⟨rfl, deps, hdeps, rfl⟩ (.deps other.label _)
      ⟨rfl, deps', hdeps', rfl⟩ heq
    rw [← LabelSet.mem_ofList, hsame, LabelSet.mem_ofList]
  location heq place place' hplace hplace' :=
    h (.location t.label place) ⟨rfl, hplace⟩ (.location other.label place') ⟨rfl, hplace'⟩ heq
  file hkind hkind' place place' hplace hplace' :=
    h (.file place.file t.label) ⟨rfl, hkind, place, hplace, rfl⟩
      (.file place'.file other.label) ⟨rfl, hkind', place', hplace', rfl⟩

/-- Two targets do not contradict each other when no two writes about them do: `Agrees.records` one
way, `Agrees.of_records` the other. -/
theorem agrees_iff :
    t.Agrees other ↔ ∀ w ∈ t.writes, ∀ w' ∈ other.writes, w.Agrees w' := by
  simp only [mem_writes]
  exact ⟨fun h _ hw _ hw' => h.records hw hw', .of_records⟩

/-- Contradiction goes both ways. -/
theorem Agrees.symm (h : t.Agrees other) : other.Agrees t :=
  agrees_iff.mpr fun w hw w' hw' => (agrees_iff.mp h w' hw' w hw).symm

end Target

namespace Snapshot

variable {targets : List Target}

/-- The first draft takes every write. -/
theorem accepts_empty (w : Write) : Draft.empty.Accepts w := by
  cases w with
  | location _ _ | file _ _ | owner _ _ | deps _ _ | kind _ _ =>
    exact fun bound hbound => by simp [Draft.empty] at hbound
  | _ => trivial

/-- Some targets make a snapshot when the empty draft takes all that is written about them. -/
theorem exists_ofTargets_iff_record : (∃ s, Snapshot.ofTargets targets = .ok s) ↔
    (Draft.empty.record targets).2 = none := by
  unfold Snapshot.ofTargets
  split
  · next h => simp [h]
  · next h => simp [h]

/-- **Some targets make a snapshot when every two of them agree.**

**Proof sketch.** They make one when the writes about all of them, in one run, are all taken by the
empty draft (`exists_ofTargets_iff_record`). That draft takes every write, so by
`Draft.writeAll_eq_none_iff` only the writes among themselves matter, and
`Write.pairwise_agrees_iff` lets their order go. What is left is agreement of the writes about any
two targets, which is `Target.agrees_iff`. -/
theorem exists_ofTargets_iff : (∃ s, Snapshot.ofTargets targets = .ok s) ↔
    ∀ t ∈ targets, ∀ other ∈ targets, t.Agrees other := by
  rw [exists_ofTargets_iff_record, Draft.record, Draft.writeAll_eq_none_iff,
    Write.pairwise_agrees_iff]
  simp only [accepts_empty, implies_true, true_and, List.mem_flatMap, Target.agrees_iff]
  constructor
  · intro h t ht other hother w hw w' hw'
    exact h w ⟨t, ht, hw⟩ w' ⟨other, hother, hw'⟩
  · rintro h w ⟨t, ht, hw⟩ w' ⟨other, hother, hw'⟩
    exact h t ht other hother w hw w' hw'

/-- Targets that make no snapshot give some key a second value: the refusal is that of the run of
writes, `Draft.exists_duplicate_of_writeAll`. -/
theorem exists_duplicate_of_ofTargets {e : GraphError}
    (h : Snapshot.ofTargets targets = .error e) : ∃ slot, e = .duplicate slot := by
  unfold Snapshot.ofTargets at h
  split at h
  · cases h
  · next cause hcause =>
    cases h
    exact Draft.exists_duplicate_of_writeAll (congrArg Prod.snd hcause)

/-- Targets whose owners come from one assignment give no source a second owner.

**Proof sketch.** The only writes of owners are those that `Target.mem_writes` finds about a target
with an owner, so all of them come from the assignment, and `Draft.writeAll_ne_owner` applies to the
empty draft. -/
theorem ofTargets_ne_owner (assigned : Label → Option Label)
    (h : ∀ t ∈ targets, ∀ rule, t.owner = some rule → assigned t.label = some rule)
    (source : Label) : Snapshot.ofTargets targets ≠ .error (.duplicate (.owner source)) := by
  intro herror
  unfold Snapshot.ofTargets at herror
  split at herror
  · cases herror
  · next cause hcause =>
    cases herror
    refine Draft.writeAll_ne_owner assigned ?_ ?_ source (congrArg Prod.snd hcause)
    · intro other rule hother
      simp [Draft.empty] at hother
    · intro other rule hwrite
      obtain ⟨t, ht, hwrite⟩ := List.mem_flatMap.mp hwrite
      obtain ⟨rfl, hrule⟩ := Target.mem_writes.mp hwrite
      exact h t ht rule hrule

end Snapshot

end TargetGraph
