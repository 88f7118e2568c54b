import TargetGraph.Draft
import TargetGraph.Proofs.LabelSet

set_option relaxedAutoImplicit false
set_option autoImplicit false

/-!
# Which writes a draft takes

Writes to keyed collections are refused where they contradict an earlier one, and only there.

## Main definitions

* `TargetGraph.Admits` — a collection has no other value for a key.
* `TargetGraph.Draft.Accepts` — a draft takes a write.
* `TargetGraph.Write.Agrees` — two writes do not contradict each other.
* `TargetGraph.Draft.Contradicts` — a write meets a key that is bound to another value.

## Main results

* `TargetGraph.Draft.Written.accepts_iff` — what a draft takes after a write.
* `TargetGraph.Draft.write_eq_error_iff` — a write is refused where it meets such a key, and only
  there.
* `TargetGraph.Draft.writeAll_eq_none_iff` — a run of writes is taken when a draft takes each of
  them and no two of them contradict each other.
* `TargetGraph.Draft.exists_duplicate_of_writeAll` — what is refused is a second value for a key.
* `TargetGraph.Draft.writeAll_ne_owner` — owners that come from one assignment are never refused.
-/

namespace TargetGraph

/-! ### Sameness of locations -/

/-- Paths are the same when they compare equal. -/
theorem SourcePath.beq_iff {a b : SourcePath} : (a == b) = true ↔ compare a b = .eq := by
  show (a.components == b.components) = true ↔ _
  rw [beq_iff_eq, SourcePath.compare_eq_iff]

instance : EquivBEq SourcePath where
  rfl := SourcePath.beq_iff.mpr Std.ReflCmp.compare_self
  symm h := SourcePath.beq_iff.mpr (Std.OrientedCmp.eq_symm (SourcePath.beq_iff.mp h))
  trans h h' := SourcePath.beq_iff.mpr
    (Std.TransCmp.eq_trans (SourcePath.beq_iff.mp h) (SourcePath.beq_iff.mp h'))

/-- Locations are the same when their files, rows and columns are. -/
theorem Location.beq_iff {a b : Location} :
    (a == b) = true ↔ (a.file == b.file) = true ∧ a.row = b.row ∧ a.column = b.column := by
  show (a.file == b.file && a.row == b.row && a.column == b.column) = true ↔ _
  simp only [Bool.and_eq_true, beq_iff_eq, and_assoc]

instance : EquivBEq Location where
  rfl := Location.beq_iff.mpr ⟨BEq.rfl, rfl, rfl⟩
  symm h := by
    obtain ⟨hfile, hrow, hcolumn⟩ := Location.beq_iff.mp h
    exact Location.beq_iff.mpr ⟨BEq.symm hfile, hrow.symm, hcolumn.symm⟩
  trans h h' := by
    obtain ⟨hfile, hrow, hcolumn⟩ := Location.beq_iff.mp h
    obtain ⟨hfile', hrow', hcolumn'⟩ := Location.beq_iff.mp h'
    exact Location.beq_iff.mpr
      ⟨BEq.trans hfile hfile', hrow.trans hrow', hcolumn.trans hcolumn'⟩

/-! ### Bindings -/

section Bindings

variable {κ β : Type} [Ord κ] [Std.TransOrd κ] [BEq β] {entries after : Std.ExtTreeMap κ β}
  {key other : κ} {value offered : β}

/-- The entries have no other value for the key. -/
def Admits (entries : Std.ExtTreeMap κ β) (key : κ) (value : β) : Prop :=
  ∀ bound, entries[key]? = some bound → (bound == value) = true

/-- A binding is made where the entries have no other value for the key.

**Proof sketch.** `bind?` looks the key up first: where it finds nothing it inserts, and where it
finds a value it compares this with the new one, which is what `Admits` says. -/
theorem exists_bind?_eq_some_iff :
    (∃ after, bind? entries key value = some after) ↔ Admits entries key value := by
  unfold bind? Admits
  cases hkey : entries[key]? with
  | none => simp
  | some bound => cases hbound : bound == value <;> simp [hbound]

/-- A binding is refused where the key is bound to another value: the negation of
`exists_bind?_eq_some_iff`. -/
theorem bind?_eq_none_iff : bind? entries key value = none ↔
    ∃ bound, entries[key]? = some bound ∧ (bound == value) = false := by
  rw [Option.eq_none_iff_forall_ne_some, ← not_exists, exists_bind?_eq_some_iff]
  simp only [Admits, Classical.not_forall, Bool.not_eq_true, exists_prop]

/-- What a binding does with the entries: the key is bound to a value that is the same as the given
one, and is the one that the key had before, if it had one. Other keys are left as they were.

**Proof sketch.** A free key gets the given value, and `Std.ExtTreeMap.getElem?_insert` says what a
look-up finds from then on. A key that is bound already keeps its value, and the entries stay as
they are; so for a key that compares equal the look-up finds the old value, by
`Std.ExtTreeMap.getElem?_congr`. -/
theorem exists_bound_of_bind? [EquivBEq β] (h : bind? entries key value = some after) :
    ∃ bound, (bound == value) = true ∧ (∀ before, entries[key]? = some before → before = bound) ∧
      ∀ other, after[other]? = if compare key other = .eq then some bound else entries[other]? := by
  unfold bind? at h
  cases hkey : entries[key]? with
  | none =>
    rw [hkey] at h
    cases h
    exact ⟨value, BEq.rfl, nofun, fun other => Std.ExtTreeMap.getElem?_insert⟩
  | some bound =>
    rw [hkey] at h
    cases hbound : bound == value with
    | false => simp [hbound] at h
    | true =>
      simp only [hbound, if_true, Option.some.injEq] at h
      subst h
      refine ⟨bound, hbound, fun before hbefore => (Option.some.inj hbefore).symm, fun other => ?_⟩
      split
      · next hother => rw [← Std.ExtTreeMap.getElem?_congr hother, hkey]
      · rfl

/-- What is admitted after a binding: what was admitted before, unless it contradicts the binding.

**Proof sketch.** For a key that compares equal to the bound one, `exists_bound_of_bind?` gives the
value that a look-up finds, and sameness goes through it to the value of the binding and back. For
any other key the look-up finds what it found before. -/
theorem admits_iff_of_bind? [EquivBEq β] (h : bind? entries key value = some after) :
    Admits after other offered ↔
      Admits entries other offered ∧ (compare key other = .eq → (value == offered) = true) := by
  obtain ⟨bound, hbound, hbefore, hafter⟩ := exists_bound_of_bind? h
  unfold Admits
  rw [hafter]
  by_cases hother : compare key other = .eq
  · simp only [hother, if_true, Option.some.injEq, forall_eq', true_imp_iff,
      ← Std.ExtTreeMap.getElem?_congr hother]
    constructor
    · intro hoffered
      refine ⟨fun before h => ?_, BEq.trans (BEq.symm hbound) hoffered⟩
      rwa [hbefore before h]
    · exact fun hoffered => BEq.trans hbound hoffered.2
  · simp only [hother, if_false, false_imp_iff, and_true]

/-- A look-up after a binding finds what it found before, or the binding: the two cases of
`exists_bound_of_bind?`. -/
theorem getElem?_of_bind? [LawfulBEq β] (h : bind? entries key value = some after)
    (hother : after[other]? = some offered) :
    entries[other]? = some offered ∨ compare key other = .eq ∧ offered = value := by
  obtain ⟨bound, hbound, _, hafter⟩ := exists_bound_of_bind? h
  rw [hafter] at hother
  split at hother
  · next heq =>
    cases hother
    exact .inr ⟨heq, beq_iff_eq.mp hbound⟩
  · exact .inl hother

end Bindings

/-! ### Single writes -/

/-- Two writes do not contradict each other: where they bind the same key of the same collection,
they bind it to the same value. -/
def Write.Agrees : Write → Write → Prop
  | .location target place, .location target' place' =>
    target = target' → (place == place') = true
  | .file path target, .file path' target' => (path == path') = true → target = target'
  | .owner source rule, .owner source' rule' => source = source' → rule = rule'
  | .deps rule labels, .deps rule' labels' => rule = rule' → labels = labels'
  | .kind target name, .kind target' name' => target = target' → name = name'
  | _, _ => True

namespace Draft

variable {d after : Draft} {w other : Write} {ws : List Write} {e : GraphError}

/-- A draft takes a write: it does not hold another value for the key. -/
def Accepts (d : Draft) : Write → Prop
  | .location target location => Admits d.locations target location
  | .file path target => Admits d.files path target
  | .owner source owner => Admits d.owners source owner
  | .deps rule deps => Admits d.deps rule deps
  | .kind target kind => Admits d.kinds target kind
  | .sourceTarget _ | .external _ | .android _ | .referenced _ => True

/-- A draft makes the writes that it takes.

**Proof sketch.** A write to a keyed collection is one `bind?` in that collection, and is made where
the binding is (`exists_bind?_eq_some_iff`). The other writes insert labels into a set, and are
always made. -/
theorem exists_write_eq_ok_iff : (∃ after, d.write w = .ok after) ↔ d.Accepts w := by
  cases w with
  | location target place =>
    rw [Accepts, ← exists_bind?_eq_some_iff, write]
    cases bind? d.locations target place <;> simp
  | file path target =>
    rw [Accepts, ← exists_bind?_eq_some_iff, write]
    cases bind? d.files path target <;> simp
  | owner source rule =>
    rw [Accepts, ← exists_bind?_eq_some_iff, write]
    cases bind? d.owners source rule <;> simp
  | deps rule labels =>
    rw [Accepts, ← exists_bind?_eq_some_iff, write]
    cases bind? d.deps rule labels <;> simp
  | kind target name =>
    rw [Accepts, ← exists_bind?_eq_some_iff, write]
    cases bind? d.kinds target name <;> simp
  | sourceTarget _ | external _ | android _ | referenced _ =>
    exact ⟨fun _ => trivial, fun _ => ⟨_, rfl⟩⟩

/-- What a write that is taken does with a draft. -/
inductive Written (d : Draft) : Write → Draft → Prop
  /-- The place of a target is bound. -/
  | location {target : Label} {place : Location} {locations : LabelMap Location}
      (hbind : bind? d.locations target place = some locations) :
      Written d (.location target place) { d with locations }
  /-- A target is listed as a source. -/
  | sourceTarget {target : Label} :
      Written d (.sourceTarget target) { d with sourceTargets := d.sourceTargets.insert target }
  /-- The target of a file is bound. -/
  | file {path : SourcePath} {target : Label} {files : Std.ExtTreeMap SourcePath Label}
      (hbind : bind? d.files path target = some files) :
      Written d (.file path target) { d with files }
  /-- The owner of a source is bound. -/
  | owner {source rule : Label} {owners : LabelMap Label}
      (hbind : bind? d.owners source rule = some owners) :
      Written d (.owner source rule) { d with owners }
  /-- The dependencies of a rule are bound. -/
  | deps {rule : Label} {labels : LabelSet} {deps : LabelMap LabelSet}
      (hbind : bind? d.deps rule labels = some deps) :
      Written d (.deps rule labels) { d with deps }
  /-- A target is outside the project. -/
  | external {target : Label} :
      Written d (.external target) { d with external := d.external.insert target }
  /-- A target is an Android rule. -/
  | android {target : Label} :
      Written d (.android target) { d with android := d.android.insert target }
  /-- The kind of a target is bound. -/
  | kind {target : Label} {name : String} {kinds : LabelMap String}
      (hbind : bind? d.kinds target name = some kinds) :
      Written d (.kind target name) { d with kinds }
  /-- Labels are named as dependencies. -/
  | referenced {labels : List Label} :
      Written d (.referenced labels) { d with referenced := d.referenced.insertAll labels }

/-- What a draft is after a write: one case for each write, read off `write`. -/
theorem written_of_write (h : d.write w = .ok after) : d.Written w after := by
  cases w with
  | location target place =>
    simp only [write] at h
    split at h <;> cases h
    next hbind => exact .location hbind
  | file path target =>
    simp only [write] at h
    split at h <;> cases h
    next hbind => exact .file hbind
  | owner source rule =>
    simp only [write] at h
    split at h <;> cases h
    next hbind => exact .owner hbind
  | deps rule labels =>
    simp only [write] at h
    split at h <;> cases h
    next hbind => exact .deps hbind
  | kind target name =>
    simp only [write] at h
    split at h <;> cases h
    next hbind => exact .kind hbind
  | sourceTarget _ => cases h; exact .sourceTarget
  | external _ => cases h; exact .external
  | android _ => cases h; exact .android
  | referenced _ => cases h; exact .referenced

/-- **What a draft takes after a write**: what it took before, unless it contradicts the write.

**Proof sketch.** Two writes to the same keyed collection are the case of `admits_iff_of_bind?`,
with the sameness of keys spelled as `Write.Agrees` has it. Two writes to different collections
cannot contradict each other, and a write to a set leaves every keyed collection as it was. -/
theorem Written.accepts_iff (h : d.Written w after) :
    after.Accepts other ↔ d.Accepts other ∧ w.Agrees other := by
  cases h with
  | location hbind =>
    cases other with
    | location target' place' =>
      simpa only [Accepts, Write.Agrees, Std.LawfulEqCmp.compare_eq_iff_eq] using
        admits_iff_of_bind? hbind
    | _ => exact (and_iff_left trivial).symm
  | file hbind =>
    cases other with
    | file path' target' =>
      simpa only [Accepts, Write.Agrees, SourcePath.beq_iff, beq_iff_eq] using
        admits_iff_of_bind? hbind
    | _ => exact (and_iff_left trivial).symm
  | owner hbind =>
    cases other with
    | owner source' rule' =>
      simpa only [Accepts, Write.Agrees, Std.LawfulEqCmp.compare_eq_iff_eq, beq_iff_eq] using
        admits_iff_of_bind? hbind
    | _ => exact (and_iff_left trivial).symm
  | deps hbind =>
    cases other with
    | deps rule' labels' =>
      simpa only [Accepts, Write.Agrees, Std.LawfulEqCmp.compare_eq_iff_eq, beq_iff_eq] using
        admits_iff_of_bind? hbind
    | _ => exact (and_iff_left trivial).symm
  | kind hbind =>
    cases other with
    | kind target' name' =>
      simpa only [Accepts, Write.Agrees, Std.LawfulEqCmp.compare_eq_iff_eq, beq_iff_eq] using
        admits_iff_of_bind? hbind
    | _ => exact (and_iff_left trivial).symm
  | sourceTarget | external | android | referenced =>
    cases other <;> exact (and_iff_left trivial).symm

/-! ### Refusals -/

/-- A write meets a key that the draft has bound to another value; the slot is that key, a file as
it was first written. -/
inductive Contradicts (d : Draft) : Write → Slot → Prop
  /-- The target has another place. -/
  | location {target : Label} {place bound : Location} (hbound : d.locations[target]? = some bound)
      (hother : (bound == place) = false) :
      Contradicts d (.location target place) (.location target)
  /-- The file has another target. -/
  | file {path stored : SourcePath} {target bound : Label} (hbound : d.files[path]? = some bound)
      (hstored : d.files.getKey? path = some stored) (hother : bound ≠ target) :
      Contradicts d (.file path target) (.file stored)
  /-- The source has another owner. -/
  | owner {source rule bound : Label} (hbound : d.owners[source]? = some bound)
      (hother : bound ≠ rule) : Contradicts d (.owner source rule) (.owner source)
  /-- The rule has other dependencies. -/
  | deps {rule : Label} {labels bound : LabelSet} (hbound : d.deps[rule]? = some bound)
      (hother : bound ≠ labels) : Contradicts d (.deps rule labels) (.deps rule)
  /-- The target has another kind. -/
  | kind {target : Label} {name bound : String} (hbound : d.kinds[target]? = some bound)
      (hother : bound ≠ name) : Contradicts d (.kind target name) (.kind target)

/-- A write that meets a key bound to another value is refused, and the error names the key: the
binding is not made (`bind?_eq_none_iff`), and nothing else is tried. -/
theorem Contradicts.write_eq_error {slot : Slot} (h : d.Contradicts w slot) :
    d.write w = .error (.duplicate slot) := by
  cases h with
  | location hbound hother =>
    simp only [write, bind?_eq_none_iff.mpr ⟨_, hbound, hother⟩]
  | file hbound hstored hother =>
    simp only [write, bind?_eq_none_iff.mpr ⟨_, hbound, beq_eq_false_iff_ne.mpr hother⟩,
      hstored, Option.getD_some]
  | owner hbound hother =>
    simp only [write, bind?_eq_none_iff.mpr ⟨_, hbound, beq_eq_false_iff_ne.mpr hother⟩]
  | deps hbound hother =>
    simp only [write, bind?_eq_none_iff.mpr ⟨_, hbound, beq_eq_false_iff_ne.mpr hother⟩]
  | kind hbound hother =>
    simp only [write, bind?_eq_none_iff.mpr ⟨_, hbound, beq_eq_false_iff_ne.mpr hother⟩]

/-- A file that has a target is stored under the spelling that it was first written with. -/
theorem exists_stored_of_file {path : SourcePath} {bound : Label}
    (h : d.files[path]? = some bound) : ∃ stored, d.files.getKey? path = some stored := by
  rw [← Option.isSome_iff_exists, Std.ExtTreeMap.isSome_getKey?_eq_contains,
    Std.ExtTreeMap.contains_eq_isSome_getElem?, h]
  rfl

/-- A write that is refused has met a key that is bound to another value.

**Proof sketch.** Only a `bind?` can fail. Where it does, `bind?_eq_none_iff` gives the other value,
and this is the case of `Contradicts` for the collection that was written; for a file
`exists_stored_of_file` gives the spelling that the error names. -/
theorem exists_contradicts_of_write (h : d.write w = .error e) :
    ∃ slot, d.Contradicts w slot ∧ e = .duplicate slot := by
  cases w with
  | location target place =>
    simp only [write] at h
    split at h <;> cases h
    next hbind =>
    obtain ⟨bound, hbound, hother⟩ := bind?_eq_none_iff.mp hbind
    exact ⟨_, .location hbound hother, rfl⟩
  | file path target =>
    simp only [write] at h
    split at h <;> cases h
    next hbind =>
    obtain ⟨bound, hbound, hother⟩ := bind?_eq_none_iff.mp hbind
    obtain ⟨stored, hstored⟩ := exists_stored_of_file hbound
    rw [hstored]
    exact ⟨_, .file hbound hstored (beq_eq_false_iff_ne.mp hother), rfl⟩
  | owner source rule =>
    simp only [write] at h
    split at h <;> cases h
    next hbind =>
    obtain ⟨bound, hbound, hother⟩ := bind?_eq_none_iff.mp hbind
    exact ⟨_, .owner hbound (beq_eq_false_iff_ne.mp hother), rfl⟩
  | deps rule labels =>
    simp only [write] at h
    split at h <;> cases h
    next hbind =>
    obtain ⟨bound, hbound, hother⟩ := bind?_eq_none_iff.mp hbind
    exact ⟨_, .deps hbound (beq_eq_false_iff_ne.mp hother), rfl⟩
  | kind target name =>
    simp only [write] at h
    split at h <;> cases h
    next hbind =>
    obtain ⟨bound, hbound, hother⟩ := bind?_eq_none_iff.mp hbind
    exact ⟨_, .kind hbound (beq_eq_false_iff_ne.mp hother), rfl⟩
  | sourceTarget _ | external _ | android _ | referenced _ => cases h

/-- **A write is refused when it meets a key that is bound to another value**, and for no other
reason. -/
theorem write_eq_error_iff :
    d.write w = .error e ↔ ∃ slot, d.Contradicts w slot ∧ e = .duplicate slot := by
  refine ⟨exists_contradicts_of_write, ?_⟩
  rintro ⟨slot, hcontradicts, rfl⟩
  exact hcontradicts.write_eq_error

/-! ### Runs of writes -/

/-- **A run of writes is taken when the draft takes each of them and no two contradict each other.**

**Proof sketch.** By induction on the run, for any draft. The draft after the first write takes what
the draft before took and the first write does not contradict (`Written.accepts_iff`), so what the
rest of the run needs from it splits into what it needs from the first draft and what it needs from
the first write. -/
theorem writeAll_eq_none_iff :
    (d.writeAll ws).2 = none ↔ (∀ w ∈ ws, d.Accepts w) ∧ ws.Pairwise Write.Agrees := by
  induction ws generalizing d with
  | nil => simp [writeAll]
  | cons w rest ih =>
    rw [writeAll, List.forall_mem_cons, List.pairwise_cons, ← exists_write_eq_ok_iff]
    cases hwrite : d.write w with
    | error e => simp
    | ok after =>
      have haccepts : ∀ other, after.Accepts other ↔ d.Accepts other ∧ w.Agrees other :=
        fun _ => (written_of_write hwrite).accepts_iff
      simp only [ih, haccepts, Except.ok.injEq, exists_eq', true_and]
      constructor
      · rintro ⟨hall, hpairs⟩
        exact ⟨fun other hother => (hall other hother).1, fun other hother => (hall other hother).2,
          hpairs⟩
      · rintro ⟨hall, hagrees, hpairs⟩
        exact ⟨fun other hother => ⟨hall other hother, hagrees other hother⟩, hpairs⟩

/-- A run of writes is refused for a second value of a key.

**Proof sketch.** The run stops at the first write that is refused, and `write_eq_error_iff` says
why. -/
theorem exists_duplicate_of_writeAll (h : (d.writeAll ws).2 = some e) :
    ∃ slot, e = .duplicate slot := by
  induction ws generalizing d with
  | nil => cases h
  | cons w rest ih =>
    rw [writeAll] at h
    cases hwrite : d.write w with
    | error cause =>
      rw [hwrite] at h
      cases h
      obtain ⟨slot, _, hslot⟩ := write_eq_error_iff.mp hwrite
      exact ⟨slot, hslot⟩
    | ok after =>
      rw [hwrite] at h
      exact ih h

/-- **Owners that come from one assignment are never refused.**

**Proof sketch.** By induction on the run, for any draft whose owners come from the assignment. A
refused owner would differ from the one that the draft has for the source, but both are the assigned
one. An owner that is written is the assigned one too, so by `getElem?_of_bind?` the draft after a
write has no other owners; no other write changes them. -/
theorem writeAll_ne_owner (assigned : Label → Option Label)
    (hd : ∀ source rule, d.owners[source]? = some rule → assigned source = some rule)
    (hws : ∀ source rule, .owner source rule ∈ ws → assigned source = some rule) (source : Label) :
    (d.writeAll ws).2 ≠ some (.duplicate (.owner source)) := by
  induction ws generalizing d with
  | nil => exact nofun
  | cons w rest ih =>
    rw [writeAll]
    cases hwrite : d.write w with
    | error cause =>
      rintro ⟨⟩
      obtain ⟨slot, hcontradicts, hslot⟩ := write_eq_error_iff.mp hwrite
      cases hslot
      cases hcontradicts with
      | owner hbound hother =>
        -- the bound owner and the refused one are both the assigned one
        have hassigned := hws source _ (List.mem_cons_self ..)
        rw [hd source _ hbound] at hassigned
        exact hother (Option.some.inj hassigned)
    | ok after =>
      refine ih (fun other rule hother => ?_) fun other rule hother =>
        hws other rule (List.mem_cons_of_mem _ hother)
      cases written_of_write hwrite with
      | owner hbind =>
        rcases getElem?_of_bind? hbind hother with hbefore | ⟨heq, rfl⟩
        · exact hd other rule hbefore
        · rw [Std.LawfulEqCmp.compare_eq_iff_eq] at heq
          subst heq
          exact hws _ _ (List.mem_cons_self ..)
      | _ => exact hd other rule hother

end Draft

end TargetGraph
