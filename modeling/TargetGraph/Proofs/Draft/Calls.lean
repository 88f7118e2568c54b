import TargetGraph.Proofs.Draft.Facts

set_option relaxedAutoImplicit false
set_option autoImplicit false

/-!
# Calls that add to a draft

A draft is told about a workspace call by call, and goes on being used after a call that it refused.
Whatever it was told first stays: no call, refused or not, changes the value of a bound key or takes
a label out of a set.

## Main definitions

* `TargetGraph.Draft.Extends` — a later draft has all that an earlier one has.
* `TargetGraph.Draft.ListsOwned` — every source that has an owner is listed as a source.
* `TargetGraph.Call`, `TargetGraph.Call.writes`, `TargetGraph.Draft.callAll` — the calls, what they
  write, and a draft after a run of them.

## Main results

* `TargetGraph.Draft.extends_writeAll` — writes add to a draft, whether they are all taken or not.
* `TargetGraph.Draft.writeAll_eq_some_iff` — a run of writes is refused at the first one that meets
  a key bound to another value.
* `TargetGraph.Draft.states_of_refused_record` — what a draft says after a refused run of targets.
* `TargetGraph.Draft.first_write_wins` — all of this for any run of calls.
-/

namespace TargetGraph

/-! ### What a binding keeps -/

section Bindings

variable {κ β : Type} [Ord κ] [Std.TransOrd κ] [BEq β] {entries after : Std.ExtTreeMap κ β}
  {key other stored : κ} {value bound : β}

/-- A key that is bound keeps its value: `exists_bound_of_bind?` says that the bound value is the
one that the key had before. -/
theorem getElem?_of_bind?_of_some [EquivBEq β] (h : bind? entries key value = some after)
    (hother : entries[other]? = some bound) : after[other]? = some bound := by
  obtain ⟨first, _, hfirst, hafter⟩ := exists_bound_of_bind? h
  rw [hafter]
  split
  · next heq =>
    rw [← Std.ExtTreeMap.getElem?_congr heq] at hother
    rw [hfirst bound hother]
  · exact hother

/-- A key that is bound stays as it was first written.

**Proof sketch.** Only a free key is inserted. A key that compares equal to it is free as well, so
it is none that is stored, and the stored keys are left alone. -/
theorem getKey?_of_bind?_of_some (h : bind? entries key value = some after)
    (hother : entries.getKey? other = some stored) : after.getKey? other = some stored := by
  unfold bind? at h
  split at h
  · next hnone =>
    cases h
    rw [Std.ExtTreeMap.getKey?_insert]
    split
    · next heq =>
      have hmem : other ∈ entries := by
        rw [← Std.ExtTreeMap.contains_iff_mem, Std.ExtTreeMap.contains_eq_isSome_getKey?, hother]
        rfl
      rw [Std.ExtTreeMap.mem_iff_isSome_getElem?, ← Std.ExtTreeMap.getElem?_congr heq,
        hnone] at hmem
      cases hmem
    · exact hother
  · split at h <;> cases h
    exact hother

end Bindings

namespace Draft

variable {d next after : Draft} {w : Write} {ws ws' : List Write} {e : GraphError}

/-! ### Drafts only grow -/

/-- A later draft has all that an earlier one has: a bound key has the same value, a tracked file
the spelling that it was first written with, and no set has lost a label. -/
structure Extends (d after : Draft) : Prop where
  /-- The places of targets. -/
  locations : ∀ (target : Label) (place : Location),
    d.locations[target]? = some place → after.locations[target]? = some place
  /-- The targets of files. -/
  files : ∀ (path : SourcePath) (target : Label),
    d.files[path]? = some target → after.files[path]? = some target
  /-- The spelling of files. -/
  spelled : ∀ path stored : SourcePath,
    d.files.getKey? path = some stored → after.files.getKey? path = some stored
  /-- The owners of sources. -/
  owners : ∀ source rule : Label,
    d.owners[source]? = some rule → after.owners[source]? = some rule
  /-- The dependencies of rules. -/
  deps : ∀ (rule : Label) (labels : LabelSet),
    d.deps[rule]? = some labels → after.deps[rule]? = some labels
  /-- The kinds of targets. -/
  kinds : ∀ (target : Label) (name : String),
    d.kinds[target]? = some name → after.kinds[target]? = some name
  /-- The listed sources. -/
  sourceTargets : ∀ target ∈ d.sourceTargets, target ∈ after.sourceTargets
  /-- The targets outside the project. -/
  external : ∀ target ∈ d.external, target ∈ after.external
  /-- The Android rules. -/
  android : ∀ target ∈ d.android, target ∈ after.android
  /-- The labels named as dependencies. -/
  referenced : ∀ label ∈ d.referenced, label ∈ after.referenced

namespace Extends

/-- A draft has all that it has. -/
theorem refl (d : Draft) : d.Extends d where
  locations _ _ := id
  files _ _ := id
  spelled _ _ := id
  owners _ _ := id
  deps _ _ := id
  kinds _ _ := id
  sourceTargets _ := id
  external _ := id
  android _ := id
  referenced _ := id

/-- What is kept twice is kept. -/
theorem trans (h : d.Extends next) (h' : next.Extends after) : d.Extends after where
  locations target place := h'.locations target place ∘ h.locations target place
  files path target := h'.files path target ∘ h.files path target
  spelled path stored := h'.spelled path stored ∘ h.spelled path stored
  owners source rule := h'.owners source rule ∘ h.owners source rule
  deps rule labels := h'.deps rule labels ∘ h.deps rule labels
  kinds target name := h'.kinds target name ∘ h.kinds target name
  sourceTargets target := h'.sourceTargets target ∘ h.sourceTargets target
  external target := h'.external target ∘ h.external target
  android target := h'.android target ∘ h.android target
  referenced label := h'.referenced label ∘ h.referenced label

end Extends

/-- A write that is taken adds to a draft.

**Proof sketch.** A write changes one collection and leaves the others, so all fields but one are
those of `Extends.refl`. In the one that is written, a binding keeps what is bound
(`getElem?_of_bind?_of_some`, and for files `getKey?_of_bind?_of_some`), and an insertion takes no
label away. -/
theorem Written.extends (h : d.Written w after) : d.Extends after := by
  have hinsert : ∀ {set : LabelSet} {target label : Label},
      label ∈ set → label ∈ set.insert target :=
    fun hmem => LabelSet.mem_insert_iff.mpr (.inr hmem)
  cases h with
  | location hbind =>
    exact { Extends.refl d with locations := fun _ _ => getElem?_of_bind?_of_some hbind }
  | sourceTarget => exact { Extends.refl d with sourceTargets := fun _ => hinsert }
  | file hbind =>
    exact { Extends.refl d with
      files := fun _ _ => getElem?_of_bind?_of_some hbind
      spelled := fun _ _ => getKey?_of_bind?_of_some hbind }
  | owner hbind =>
    exact { Extends.refl d with owners := fun _ _ => getElem?_of_bind?_of_some hbind }
  | deps hbind => exact { Extends.refl d with deps := fun _ _ => getElem?_of_bind?_of_some hbind }
  | external => exact { Extends.refl d with external := fun _ => hinsert }
  | android => exact { Extends.refl d with android := fun _ => hinsert }
  | kind hbind => exact { Extends.refl d with kinds := fun _ _ => getElem?_of_bind?_of_some hbind }
  | referenced =>
    exact { Extends.refl d with
      referenced := fun _ hmem => LabelSet.mem_insertAll.mpr (.inl hmem) }

/-- **Writes add to a draft**, whether they are all taken or not: each one that is taken does
(`Written.extends`), and a refused one leaves the draft as it is. -/
theorem extends_writeAll (d : Draft) (ws : List Write) : d.Extends (d.writeAll ws).1 := by
  induction ws generalizing d with
  | nil => exact Extends.refl d
  | cons w rest ih =>
    rw [writeAll]
    cases hwrite : d.write w with
    | error _ => exact Extends.refl d
    | ok after => exact (written_of_write hwrite).extends.trans (ih after)

/-! ### Refused runs -/

/-- A run of writes in two parts: the second part is written if all of the first is taken. -/
theorem writeAll_append : d.writeAll (ws ++ ws') =
    match d.writeAll ws with
    | (after, none) => after.writeAll ws'
    | (after, some e) => (after, some e) := by
  induction ws generalizing d with
  | nil => rfl
  | cons w rest ih =>
    rw [List.cons_append, writeAll, writeAll]
    cases d.write w with
    | error _ => rfl
    | ok after => exact ih

/-- **A run of writes is refused at one of them**: all before it are taken, and it meets a key that
these, or the draft from the beginning, have bound to another value. Nothing else is written.

**Proof sketch.** Forward by induction on the run, for any draft: either the first write is refused,
for the reason that `write_eq_error_iff` gives, or it is taken and the refusal is further on.
Backward by `writeAll_append`. -/
theorem writeAll_eq_some_iff : d.writeAll ws = (after, some e) ↔
    ∃ before w rest slot, ws = before ++ w :: rest ∧ d.writeAll before = (after, none) ∧
      after.Contradicts w slot ∧ e = .duplicate slot := by
  constructor
  · intro h
    induction ws generalizing d with
    | nil => cases h
    | cons w rest ih =>
      rw [writeAll] at h
      cases hwrite : d.write w with
      | error cause =>
        rw [hwrite] at h
        cases h
        obtain ⟨slot, hslot, he⟩ := write_eq_error_iff.mp hwrite
        exact ⟨[], w, rest, slot, rfl, rfl, hslot, he⟩
      | ok next =>
        rw [hwrite] at h
        obtain ⟨before, refused, later, slot, rfl, hbefore, hslot⟩ := ih h
        refine ⟨w :: before, refused, later, slot, rfl, ?_, hslot⟩
        rw [writeAll, hwrite]
        exact hbefore
  · rintro ⟨before, w, rest, slot, rfl, hbefore, hslot⟩
    rw [writeAll_append, hbefore]
    simp only [writeAll, write_eq_error_iff.mpr ⟨slot, hslot⟩]

/-- A run of targets is refused at one of them: all before it are recorded, and the writes about it
are refused.

**Proof sketch.** By induction on the targets, for any draft. The writes about the first target
are one part of the run (`writeAll_append`), and either the refusal is among them or they are all
taken. -/
theorem exists_refused_target {targets : List Target} (h : d.record targets = (after, some e)) :
    ∃ done t rest, targets = done ++ t :: rest ∧ ∃ next, d.record done = (next, none) ∧
      next.writeAll t.writes = (after, some e) := by
  unfold record at h ⊢
  induction targets generalizing d with
  | nil => cases h
  | cons t rest ih =>
    rw [List.flatMap_cons, writeAll_append] at h
    cases ht : d.writeAll t.writes with
    | mk next refusal =>
      rw [ht] at h
      cases refusal with
      | some cause =>
        cases h
        exact ⟨[], t, rest, rfl, d, rfl, ht⟩
      | none =>
        obtain ⟨done, refused, later, rfl, last, hdone, hrefused⟩ := ih h
        refine ⟨t :: done, refused, later, rfl, last, ?_, hrefused⟩
        rw [List.flatMap_cons, writeAll_append, ht]
        exact hdone

/-- **What a draft says after a refused run of targets**: what it said before, what the targets
before the refused one say, and what some first writes about that one say.

**Proof sketch.** `exists_refused_target` finds the target, and `writeAll_eq_some_iff` the write
about it. What was written before that is a recorded run of targets (`states_record_iff`) and a run
of writes that were taken (`states_writeAll_iff`). -/
theorem states_of_refused_record {targets : List Target} (h : d.record targets = (after, some e)) :
    ∃ done t rest, targets = done ++ t :: rest ∧ ∃ before w later, t.writes = before ++ w :: later ∧
      ∀ fact, after.States fact ↔
        d.States fact ∨ (∃ t ∈ done, t.States fact) ∨ ∃ w ∈ before, w.States fact := by
  obtain ⟨done, t, rest, hsplit, next, hdone, ht⟩ := exists_refused_target h
  obtain ⟨before, w, later, _, hwrites, hbefore, _⟩ := writeAll_eq_some_iff.mp ht
  refine ⟨done, t, rest, hsplit, before, w, later, hwrites, fun fact => ?_⟩
  have hnone : (next.writeAll before).2 = none := congrArg Prod.snd hbefore
  have hafter : (next.writeAll before).1 = after := congrArg Prod.fst hbefore
  rw [← hafter, states_writeAll_iff hnone, states_record_iff hdone, or_assoc]

/-! ### Owned sources are listed -/

/-- Every source that has an owner is listed as a source. -/
def ListsOwned (d : Draft) : Prop :=
  ∀ source ∈ d.owners, source ∈ d.sourceTargets

/-- Whatever is taken of some writes, the sources that have an owner stay listed. -/
def KeepsListed (ws : List Write) : Prop :=
  ∀ d : Draft, d.ListsOwned → (d.writeAll ws).1.ListsOwned

/-- Two runs of writes, one after the other: the second starts from what the first leaves, if it
starts at all. -/
theorem KeepsListed.append (h : KeepsListed ws) (h' : KeepsListed ws') :
    KeepsListed (ws ++ ws') := by
  intro d hd
  have hfirst := h d hd
  rw [writeAll_append]
  cases hwrite : d.writeAll ws with
  | mk next refusal =>
    rw [hwrite] at hfirst
    cases refusal with
    | some _ => exact hfirst
    | none => exact h' next hfirst

/-- A write that is not about an owner: it adds no owner, and takes no listed source away. -/
theorem keepsListed_of_ne_owner (h : ∀ source rule, w ≠ .owner source rule) :
    KeepsListed [w] := by
  intro d hd
  rw [writeAll]
  cases hwrite : d.write w with
  | error _ => exact hd
  | ok after =>
    cases written_of_write hwrite with
    | owner _ => exact absurd rfl (h _ _)
    | sourceTarget =>
      exact fun source hsource => LabelSet.mem_insert_iff.mpr (.inr (hd source hsource))
    | _ => exact hd

/-- The owner of a source, which lists the source too. A refused owner leaves nothing to list.

**Proof sketch.** By `getElem?_of_bind?`, a source that has an owner after the write had one before,
and then it is listed already, or it is the source that the write is about, and then the next write
lists it. That write cannot be refused. -/
theorem keepsListed_ownership (source rule : Label) :
    KeepsListed (Write.ownership source rule) := by
  intro d hd
  rw [Write.ownership, writeAll]
  cases hwrite : d.write (.owner source rule) with
  | error _ => exact hd
  | ok next =>
    cases written_of_write hwrite with
    | owner hbind =>
      intro other hother
      refine LabelSet.mem_insert_iff.mpr ?_
      obtain ⟨owner, howner⟩ := Option.isSome_iff_exists.mp
        (Std.ExtTreeMap.mem_iff_isSome_getElem?.mp hother)
      rcases getElem?_of_bind? hbind howner with hbefore | ⟨heq, _⟩
      · exact .inr (hd other (by rw [Std.ExtTreeMap.mem_iff_isSome_getElem?, hbefore]; rfl))
      · exact .inl (Std.LawfulEqCmp.compare_eq_iff_eq.mp heq).symm

/-- No writes at all. -/
theorem keepsListed_nil : KeepsListed [] :=
  fun _ hd => hd

/-- The writes about a target: where it has an owner, the two writes about that stand together.

**Proof sketch.** The run is put together from parts by `KeepsListed.append`: single writes that are
not about an owner, and the ownership, which is `keepsListed_ownership`. -/
theorem keepsListed_writes (t : Target) : KeepsListed t.writes := by
  have hsingle : ∀ w : Write, (∀ source rule, w ≠ .owner source rule) → KeepsListed [w] :=
    fun _ => keepsListed_of_ne_owner
  unfold Target.writes
  refine .append (.append (.append (.append ?_ ?_) ?_) ?_) (hsingle _ nofun)
  · split
    · exact hsingle _ nofun
    · exact keepsListed_nil
  · split
    · exact keepsListed_nil
    · refine .append ?_ (hsingle _ nofun)
      split
      · exact hsingle _ nofun
      · exact keepsListed_nil
  · split
    · exact keepsListed_nil
    · exact keepsListed_ownership _ _
  · split
    · exact keepsListed_nil
    · exact .append (hsingle (.referenced _) nofun) (hsingle (.deps _ _) nofun)

/-- The writes about some targets. -/
theorem keepsListed_flatMap (targets : List Target) :
    KeepsListed (targets.flatMap Target.writes) := by
  induction targets with
  | nil => exact keepsListed_nil
  | cons t rest ih => exact (keepsListed_writes t).append ih

end Draft

/-! ### Calls -/

/-- A call that adds to a draft. -/
inductive Call where
  /-- The place of a target. -/
  | location (target : Label) (place : Location)
  /-- A target that is listed as a source. -/
  | sourceTarget (target : Label)
  /-- The target of a file. -/
  | file (path : SourcePath) (target : Label)
  /-- The rule that owns a source, which lists the source too. -/
  | owner (source rule : Label)
  /-- The dependencies of a rule. -/
  | deps (rule : Label) (labels : List Label)
  /-- A target outside the project. -/
  | external (target : Label)
  /-- An Android rule. -/
  | android (target : Label)
  /-- The kind of a target. -/
  | kind (target : Label) (name : String)
  /-- All that is reported about one target. -/
  | record (target : Target)
  /-- All that is reported about some targets. -/
  | records (targets : List Target)

namespace Call

/-- What a call writes, in the order in which it is checked. -/
def writes : Call → List Write
  | .location target place => [.location target place]
  | .sourceTarget target => [.sourceTarget target]
  | .file path target => [.file path target]
  | .owner source rule => Write.ownership source rule
  | .deps rule labels => [.deps rule (Std.ExtTreeSet.ofList labels compare)]
  | .external target => [.external target]
  | .android target => [.android target]
  | .kind target name => [.kind target name]
  | .record t => t.writes
  | .records targets => targets.flatMap Target.writes

/-- The targets that a call reports, if it is not about a single entry. -/
def reported? : Call → Option (List Target)
  | .record t => some [t]
  | .records targets => some targets
  | _ => none

variable {c : Call} {targets : List Target}

/-- A call that reports targets writes what is written about them. -/
theorem writes_of_reported? (h : c.reported? = some targets) :
    c.writes = targets.flatMap Target.writes := by
  cases c with
  | record t =>
    cases h
    rw [List.flatMap_singleton]
    rfl
  | records targets =>
    cases h
    rfl
  | _ => cases h

/-- Of a call about a single entry only the first write can be refused: the only call of this form
with a second write is that of an owner, and its second write lists a source. -/
theorem not_contradicts_of_mem_tail (h : c.reported? = none) {d : Draft} {w : Write} {slot : Slot}
    (hw : w ∈ c.writes.tail) : ¬d.Contradicts w slot := by
  cases c with
  | record t => cases h
  | records targets => cases h
  | owner source rule =>
    obtain rfl := List.mem_singleton.mp hw
    exact nofun
  | _ => cases hw

end Call

namespace Draft

variable {d after : Draft} {c : Call} {calls : List Call} {e : GraphError} {slot : Slot}

/-- The draft with what it takes of a call, and why it refused the rest, if it did. -/
def call (d : Draft) (c : Call) : Draft × Option GraphError :=
  d.writeAll c.writes

/-- The draft after some calls; one that is refused does not keep the next from being made. -/
def callAll (d : Draft) (calls : List Call) : Draft :=
  calls.foldl (fun d c => (d.call c).1) d

/-- Calls add to a draft, whether they are refused or not, by `extends_writeAll` for each call. -/
theorem extends_callAll (d : Draft) (calls : List Call) : d.Extends (d.callAll calls) := by
  induction calls generalizing d with
  | nil => exact Extends.refl d
  | cons c rest ih => exact (extends_writeAll d c.writes).trans (ih (d.call c).1)

/-- A call keeps every owned source listed. -/
theorem keepsListed_call (c : Call) : KeepsListed c.writes := by
  cases c with
  | owner source rule => exact keepsListed_ownership source rule
  | record t => exact keepsListed_writes t
  | records targets => exact keepsListed_flatMap targets
  | _ => exact keepsListed_of_ne_owner nofun

/-- Calls keep every owned source listed. -/
theorem ListsOwned.callAll (h : d.ListsOwned) (calls : List Call) :
    (d.callAll calls).ListsOwned := by
  induction calls generalizing d with
  | nil => exact h
  | cons c rest ih => exact ih (keepsListed_call c d h)

/-- In the first draft no source has an owner. -/
theorem listsOwned_empty : Draft.empty.ListsOwned := by
  intro source hsource
  simp [Draft.empty] at hsource

/-- A refused call about a single entry changes nothing.

**Proof sketch.** By `writeAll_eq_some_iff` the draft is what the writes before the refused one
leave. There are none, because the refused write is the first one
(`Call.not_contradicts_of_mem_tail`). -/
theorem eq_of_refused_single (hsingle : c.reported? = none) (h : d.call c = (after, some e)) :
    after = d := by
  obtain ⟨before, w, rest, slot, hwrites, hbefore, hslot, _⟩ := writeAll_eq_some_iff.mp h
  cases before with
  | nil => exact (congrArg Prod.fst hbefore).symm
  | cons first others =>
    have htail : w ∈ c.writes.tail := by
      rw [hwrites]
      exact List.mem_append_right others (List.mem_cons_self ..)
    exact absurd hslot (Call.not_contradicts_of_mem_tail hsingle htail)

/-- **The first value written to a key stays**, whatever calls are made, and whether they are
refused or not. At any point of a run, a draft goes on to have all that it has by then, and lists
every source that has an owner. A call is refused when one of its writes meets a key that is bound
to another value by then, and for no other reason. A refused call about a single entry changes
nothing; a refused call about reported targets adds what the targets before the refused one say, and
some of what is said about that one.

**Proof sketch.** A write that is taken binds its key only if that is free, so it changes no value
(`getElem?_of_bind?_of_some`); a refused one does nothing, and neither do the writes behind it
(`writeAll_eq_some_iff`). An owner and the listing of its source are two writes, but the second is
never refused, so none of them is made without the other (`keepsListed_ownership`). -/
theorem first_write_wins (history calls : List Call) (c : Call) :
    let d := Draft.empty.callAll history
    d.Extends (d.callAll calls) ∧ d.ListsOwned ∧
    (∀ after e, d.call c = (after, some e) ↔
      ∃ before w rest slot, c.writes = before ++ w :: rest ∧ d.writeAll before = (after, none) ∧
        after.Contradicts w slot ∧ e = .duplicate slot) ∧
    (∀ after e, c.reported? = none → d.call c = (after, some e) → after = d) ∧
    ∀ targets after e, c.reported? = some targets → d.call c = (after, some e) →
      ∃ done t rest, targets = done ++ t :: rest ∧
        ∃ before w later, t.writes = before ++ w :: later ∧ ∀ fact, after.States fact ↔
          d.States fact ∨ (∃ t ∈ done, t.States fact) ∨ ∃ w ∈ before, w.States fact := by
  intro d
  refine ⟨extends_callAll d calls, listsOwned_empty.callAll history,
    fun after e => writeAll_eq_some_iff, fun after e => eq_of_refused_single, ?_⟩
  intro targets after e hreported h
  rw [call, Call.writes_of_reported? hreported] at h
  exact states_of_refused_record h

/-- A source of one rule, with its place. -/
def claimedSource : Target :=
  { label := ⟨"//a:S.java"⟩, kind := sourceFileKind, owner := some ⟨"//b:lib"⟩,
    location := some ⟨⟨"a/S.java"⟩, 1, 1⟩ }

/-- A source that has an owner already is reported with another one. The report is refused: the file
is tracked from then on, but the owner is the first one, and the source still has no kind. -/
theorem refused_claimedSource :
    ∃ after,
      (Draft.empty.callAll [.owner ⟨"//a:S.java"⟩ ⟨"//a:lib"⟩]).call (.record claimedSource) =
        (after, some (.duplicate (.owner ⟨"//a:S.java"⟩))) ∧
      after.States (.owner ⟨"//a:S.java"⟩ ⟨"//a:lib"⟩) ∧
      after.States (.file ⟨"a//S.java"⟩ ⟨"//a:S.java"⟩) ∧
      ∀ kind, ¬after.States (.kind ⟨"//a:S.java"⟩ kind) := by
  obtain ⟨_, _, hrefused, _⟩ :=
    first_write_wins [.owner ⟨"//a:S.java"⟩ ⟨"//a:lib"⟩] [] (.record claimedSource)
  let taken : List Write := [.file ⟨"a/S.java"⟩ ⟨"//a:S.java"⟩,
    .location ⟨"//a:S.java"⟩ ⟨⟨"a/S.java"⟩, 1, 1⟩]
  let after := ((Draft.empty.callAll [.owner ⟨"//a:S.java"⟩ ⟨"//a:lib"⟩]).writeAll taken).1
  have htaken : ((Draft.empty.callAll [.owner ⟨"//a:S.java"⟩ ⟨"//a:lib"⟩]).writeAll taken).2 =
      none := by
    rw [← Option.isNone_iff_eq_none]
    decide +kernel
  have howner : after.owners[(⟨"//a:S.java"⟩ : Label)]? = some ⟨"//a:lib"⟩ := by decide +kernel
  have hfile : after.files[(⟨"a//S.java"⟩ : SourcePath)]? = some ⟨"//a:S.java"⟩ := by
    decide +kernel
  have hkind : after.kinds[(⟨"//a:S.java"⟩ : Label)]? = none := by decide +kernel
  refine ⟨after, (hrefused _ _).mpr ⟨taken, .owner ⟨"//a:S.java"⟩ ⟨"//b:lib"⟩, _, _, rfl,
    Prod.ext rfl htaken, .owner howner (by decide), rfl⟩, howner, hfile, fun kind hstates => ?_⟩
  rw [Draft.States, hkind] at hstates
  cases hstates

end Draft

end TargetGraph
