import TargetGraph.Proofs.Draft.Facts

set_option relaxedAutoImplicit false
set_option autoImplicit false

/-!
# The snapshot of some targets

A snapshot of some targets holds what these say, all of it and nothing else. So it matters neither
in which order the targets come nor how often one is repeated.

## Main definitions

* `TargetGraph.Snapshot.UnionOf` — a snapshot holds what some targets say.
* `TargetGraph.Snapshot.Same` — two snapshots hold the same, up to the spelling of paths.

## Main results

* `TargetGraph.Snapshot.unionOf_of_ofTargets` — the snapshot of some targets is their union.
* `TargetGraph.Snapshot.UnionOf.same` — the same targets have the same union.
* `TargetGraph.Snapshot.ofTargets_union_of_agreement` — which targets make a snapshot, what it
  holds, and that any list of the same targets makes the same one.
-/

namespace TargetGraph

namespace Snapshot

variable {s s' : Snapshot} {targets again : List Target} {label : Label}

/-! ### Unions -/

/-- The snapshot holds what the targets say, and nothing else. -/
structure UnionOf (s : Snapshot) (targets : List Target) : Prop where
  /-- The places are those that some target has. -/
  locations : ∀ label place, Holds s.locations label place ↔
    ∃ t ∈ targets, t.label = label ∧ ∃ own, t.location = some own ∧ (own == place) = true
  /-- The tracked files are those of the source files that have a place. -/
  files : ∀ path label, s.files[path]? = some label ↔
    ∃ t ∈ targets, t.label = label ∧ t.kind = sourceFileKind ∧
      ∃ place, t.location = some place ∧ (place.file == path) = true
  /-- The owners are those that some target has. -/
  owners : ∀ source owner, s.owners[source]? = some owner ↔
    ∃ t ∈ targets, t.label = source ∧ t.owner = some owner
  /-- What has an owner is listed as a source. -/
  sourceTargets : ∀ label, label ∈ s.sourceTargets ↔
    ∃ t ∈ targets, t.label = label ∧ t.owner.isSome
  /-- The dependencies are those that some target has. -/
  deps : ∀ rule labels, s.deps[rule]? = some labels ↔
    ∃ t ∈ targets, t.label = rule ∧ ∃ deps, t.deps = some deps ∧
      ∀ label, label ∈ labels ↔ label ∈ deps
  /-- The kinds are those of the targets. -/
  kinds : ∀ label kind, s.kinds[label]? = some kind ↔
    ∃ t ∈ targets, t.label = label ∧ t.kind = kind
  /-- The Android rules are told by their kinds. -/
  android : ∀ label, label ∈ s.android ↔
    ∃ t ∈ targets, t.label = label ∧ isAndroidKind t.kind = true
  /-- Outside the project is what some target names as a dependency, and what has neither
  dependencies of its own nor a place. -/
  external : ∀ label, label ∈ s.external ↔
    (∃ t ∈ targets, ∃ deps, t.deps = some deps ∧ label ∈ deps) ∧
      label ∉ s.deps ∧ label ∉ s.locations

/-- The snapshot of some targets is built from a draft that says what the targets say: the draft
that recorded them, by `Draft.states_record_iff`, since the first draft says nothing. -/
theorem exists_draft_of_ofTargets (h : Snapshot.ofTargets targets = .ok s) :
    ∃ d : Draft, d.build = s ∧ ∀ fact, d.States fact ↔ ∃ t ∈ targets, t.States fact := by
  unfold Snapshot.ofTargets at h
  split at h
  · next d hrecord =>
    cases h
    refine ⟨d, rfl, fun fact => ?_⟩
    rw [Draft.states_record_iff hrecord, or_iff_right Draft.not_states_empty]
  · cases h

/-- What is outside the project in a finished snapshot: what the draft was told, and the labels
named as dependencies that have neither dependencies of their own nor a place. -/
theorem mem_external_build {d : Draft} : label ∈ d.build.external ↔
    label ∈ d.external ∨ label ∈ d.referenced ∧ label ∉ d.deps ∧ label ∉ d.locations := by
  show label ∈ d.external ∪ d.referenced.filter _ ↔ _
  simp only [Std.ExtTreeSet.mem_union_iff, Std.ExtTreeSet.mem_filter, Std.ExtTreeSet.get_eq,
    Bool.and_eq_true, Bool.not_eq_true', ← Bool.not_eq_true, Std.ExtTreeMap.contains_iff_mem,
    exists_prop]

/-- **The snapshot of some targets is their union.**

**Proof sketch.** Each field of `UnionOf` is the fact of the same name in
`exists_draft_of_ofTargets`, except what is outside the project: no target says that, so only the
labels of `mem_external_build` that are named as dependencies are left. -/
theorem unionOf_of_ofTargets (h : Snapshot.ofTargets targets = .ok s) : s.UnionOf targets := by
  obtain ⟨d, rfl, hstates⟩ := exists_draft_of_ofTargets h
  exact {
    locations := fun label place => hstates (.location label place)
    files := fun path label => hstates (.file path label)
    owners := fun source owner => hstates (.owner source owner)
    sourceTargets := fun label => hstates (.sourceTarget label)
    deps := fun rule labels => hstates (.deps rule labels)
    kinds := fun label kind => hstates (.kind label kind)
    android := fun label => hstates (.android label)
    external := fun label => by
      have hnone : label ∉ d.external := fun hmem => by
        obtain ⟨_, _, hstates⟩ := (hstates (.external label)).mp hmem
        exact hstates
      rw [mem_external_build, or_iff_right hnone]
      exact and_congr_left fun _ => hstates (.referenced label) }

/-- The Android rules are the labels that have an Android kind: the target that gives the label its
kind is the one that makes it an Android rule. -/
theorem UnionOf.mem_android_iff (h : s.UnionOf targets) :
    label ∈ s.android ↔ ∃ kind, s.kinds[label]? = some kind ∧ isAndroidKind kind = true := by
  simp only [h.android, h.kinds]
  constructor
  · rintro ⟨t, ht, hlabel, hkind⟩
    exact ⟨t.kind, ⟨t, ht, hlabel, rfl⟩, hkind⟩
  · rintro ⟨_, ⟨t, ht, hlabel, rfl⟩, hkind⟩
    exact ⟨t, ht, hlabel, hkind⟩

/-- The listed sources are the labels that have an owner. -/
theorem UnionOf.mem_sourceTargets_iff (h : s.UnionOf targets) :
    label ∈ s.sourceTargets ↔ ∃ owner, s.owners[label]? = some owner := by
  simp only [h.sourceTargets, h.owners, Option.isSome_iff_exists]
  constructor
  · rintro ⟨t, ht, hlabel, owner, howner⟩
    exact ⟨owner, t, ht, hlabel, howner⟩
  · rintro ⟨owner, t, ht, hlabel, howner⟩
    exact ⟨t, ht, hlabel, owner, howner⟩

/-! ### The same snapshot -/

/-- Two snapshots hold the same, up to the spelling of paths. -/
structure Same (s s' : Snapshot) : Prop where
  /-- The same targets have a place, and the same one. -/
  locations : ∀ label : Label, Option.Rel (fun place place' : Location => (place == place') = true)
    s.locations[label]? s'.locations[label]?
  /-- The same targets are listed as sources. -/
  sourceTargets : s.sourceTargets = s'.sourceTargets
  /-- The same files are tracked, for the same targets. -/
  files : ∀ path : SourcePath, s.files[path]? = s'.files[path]?
  /-- The owners are the same. -/
  owners : s.owners = s'.owners
  /-- The dependencies are the same. -/
  deps : s.deps = s'.deps
  /-- The same targets are outside the project. -/
  external : s.external = s'.external
  /-- The same rules are Android rules. -/
  android : s.android = s'.android
  /-- The kinds are the same. -/
  kinds : s.kinds = s'.kinds

/-- Two collections that hold the same values have them for the same keys.

**Proof sketch.** A value that the one look-up finds is held by the other collection too, so the
other look-up finds a value, and the same one. -/
theorem rel_of_holds_iff {κ β : Type} [Ord κ] [Std.TransOrd κ] [BEq β] [EquivBEq β]
    {entries entries' : Std.ExtTreeMap κ β} {key : κ}
    (h : ∀ value, Holds entries key value ↔ Holds entries' key value) :
    Option.Rel (fun value value' => (value == value') = true) entries[key]? entries'[key]? := by
  cases hkey : entries[key]? with
  | none =>
    cases hkey' : entries'[key]? with
    | none => exact .none
    | some value =>
      obtain ⟨bound, hbound, _⟩ := (h value).mpr ⟨value, hkey', BEq.rfl⟩
      rw [hkey] at hbound
      cases hbound
  | some value =>
    obtain ⟨bound, hbound, hsame⟩ := (h value).mp ⟨value, hkey, BEq.rfl⟩
    rw [hbound]
    exact .some (BEq.symm hsame)

/-- Two look-ups that find the same values find the same. -/
theorem eq_of_some_iff {α : Type} {found found' : Option α} {P : α → Prop}
    (h : ∀ value, found = some value ↔ P value) (h' : ∀ value, found' = some value ↔ P value) :
    found = found' :=
  Option.ext fun value => (h value).trans (h' value).symm

/-- **The same targets have the same union**, in whatever order they come, and however often.

**Proof sketch.** Every field of `UnionOf` is a condition on which targets there are. Collections
whose values have one spelling are equal because their look-ups are (`eq_of_some_iff`), sets because
their members are, and the places are the same up to spelling by `rel_of_holds_iff`. What is outside
the project depends also on which labels have dependencies or a place, and these are the same by
then. -/
theorem UnionOf.same (h : s.UnionOf targets) (h' : s'.UnionOf again)
    (hmem : ∀ t, t ∈ targets ↔ t ∈ again) : s.Same s' := by
  have hdeps : s.deps = s'.deps := Std.ExtTreeMap.ext_getElem? fun rule =>
    eq_of_some_iff (h.deps rule) fun labels => by simp only [h'.deps, hmem]
  have hlocations : ∀ label place, Holds s.locations label place ↔ Holds s'.locations label place :=
    fun label place => by simp only [h.locations, h'.locations, hmem]
  have hplaced : ∀ label, label ∈ s.locations ↔ label ∈ s'.locations := fun label => by
    simp only [mem_iff_exists_holds, hlocations]
  exact {
    locations := fun label => rel_of_holds_iff (hlocations label)
    sourceTargets := Std.ExtTreeSet.ext_mem fun label => by
      simp only [h.sourceTargets, h'.sourceTargets, hmem]
    files := fun path => eq_of_some_iff (h.files path) fun label => by simp only [h'.files, hmem]
    owners := Std.ExtTreeMap.ext_getElem? fun source =>
      eq_of_some_iff (h.owners source) fun owner => by simp only [h'.owners, hmem]
    deps := hdeps
    external := Std.ExtTreeSet.ext_mem fun label => by
      simp only [h.external, h'.external, hmem, hdeps, hplaced]
    android := Std.ExtTreeSet.ext_mem fun label => by simp only [h.android, h'.android, hmem]
    kinds := Std.ExtTreeMap.ext_getElem? fun label =>
      eq_of_some_iff (h.kinds label) fun kind => by simp only [h'.kinds, hmem] }

/-- **Some targets make a snapshot when every two of them agree, and it is their union.** Any list
of the same targets, in whatever order and with whatever repetitions, makes the same snapshot, up to
the spelling of paths.

**Proof sketch.** No write about one target contradicts a write about another when the targets agree
(`exists_ofTargets_iff`). Each write that is taken adds what it says to the draft
(`Draft.Written.states_iff`), so the draft says in the end what the targets say. What is outside the
project is decided only then, when all dependencies and places are known. Agreement and union both
depend on which targets there are, and on nothing else about the list. -/
theorem ofTargets_union_of_agreement (targets : List Target) :
    ((∃ s, Snapshot.ofTargets targets = .ok s) ↔
      ∀ t ∈ targets, ∀ other ∈ targets, t.Agrees other) ∧
    ∀ s, Snapshot.ofTargets targets = .ok s → s.UnionOf targets ∧
      ∀ again : List Target, (∀ t, t ∈ again ↔ t ∈ targets) →
        ∃ s', Snapshot.ofTargets again = .ok s' ∧ s'.Same s := by
  refine ⟨exists_ofTargets_iff, fun s hs => ⟨unionOf_of_ofTargets hs, fun again hmem => ?_⟩⟩
  have hagree : ∀ t ∈ again, ∀ other ∈ again, t.Agrees other := by
    intro t ht other hother
    exact exists_ofTargets_iff.mp ⟨s, hs⟩ t ((hmem t).mp ht) other ((hmem other).mp hother)
  obtain ⟨s', hs'⟩ := exists_ofTargets_iff.mpr hagree
  exact ⟨s', hs', (unionOf_of_ofTargets hs').same (unionOf_of_ofTargets hs) hmem⟩

/-- An Android rule with two dependencies. -/
def androidApp : Target :=
  { label := ⟨"//a:app"⟩, kind := "android_binary", deps := some [⟨"//b:lib"⟩, ⟨"@m//:core"⟩] }

/-- A rule that the Android rule depends on. -/
def plainLibrary : Target :=
  { label := ⟨"//b:lib"⟩, kind := "java_library", deps := some [⟨"@m//:core"⟩] }

/-- A source of the Android rule. -/
def mainSource : Target :=
  { label := ⟨"//a:Main.java"⟩, kind := sourceFileKind, owner := some ⟨"//a:app"⟩,
    location := some ⟨⟨"a/Main.java"⟩, 1, 1⟩ }

/-- The same source, with its path in another spelling. -/
def mainSourceRespelled : Target :=
  { mainSource with location := some ⟨⟨"a//./Main.java"⟩, 1, 1⟩ }

/-- A dependency that is enumerated before it is named makes the same snapshot as one that is named
first, with the two spellings of a path the other way round and one of the targets twice. -/
theorem same_of_reordered :
    ∃ s s', Snapshot.ofTargets [androidApp, mainSource, mainSourceRespelled, plainLibrary] = .ok s ∧
      Snapshot.ofTargets
        [plainLibrary, mainSourceRespelled, androidApp, mainSource, plainLibrary] = .ok s' ∧
      s'.Same s := by
  have hok : (Snapshot.ofTargets [androidApp, mainSource, mainSourceRespelled,
      plainLibrary]).toOption.isSome = true := by
    decide +kernel
  cases hs : Snapshot.ofTargets [androidApp, mainSource, mainSourceRespelled, plainLibrary] with
  | error e =>
    rw [hs] at hok
    cases hok
  | ok s =>
    have hmem : ∀ t, t ∈ [plainLibrary, mainSourceRespelled, androidApp, mainSource, plainLibrary] ↔
        t ∈ [androidApp, mainSource, mainSourceRespelled, plainLibrary] := by
      intro t
      simp only [List.mem_cons, List.not_mem_nil, or_false]
      grind
    obtain ⟨s', hs', hsame⟩ := ((ofTargets_union_of_agreement _).2 s hs).2 _ hmem
    exact ⟨s, s', rfl, hs', hsame⟩

end Snapshot

end TargetGraph
