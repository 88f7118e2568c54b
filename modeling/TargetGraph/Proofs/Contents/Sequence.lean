import Mathlib.Data.List.Forall2

set_option relaxedAutoImplicit false
set_option autoImplicit false

/-!
# Readings one after another

When a reading that is put together from others yields something, and what.

## Main results

* `TargetGraph.bind_eq_ok_iff` — a reading that goes on with what it read.
* `TargetGraph.mapM_eq_ok_iff`, `TargetGraph.exists_mapM_eq_ok_iff` — a list that is read entry by
  entry.
* `TargetGraph.exists_of_mem_left`, `TargetGraph.exists_of_mem_right` — entries and what they were
  read to.
-/

namespace TargetGraph

variable {ε α β : Type}

/-- A reading that goes on with what it read yields something when both its parts do. -/
theorem bind_eq_ok_iff {first : Except ε α} {next : α → Except ε β} {result : β} :
    (first >>= next) = .ok result ↔ ∃ value, first = .ok value ∧ next value = .ok result := by
  cases first with
  | error e => simp [bind, Except.bind]
  | ok value => simp [bind, Except.bind]

/-- What is done with the result of a reading does not make it fail. -/
theorem map_eq_ok_iff {first : Except ε α} {f : α → β} {result : β} :
    (f <$> first) = .ok result ↔ ∃ value, first = .ok value ∧ f value = result := by
  cases first with
  | error e => simp [Functor.map, Except.map]
  | ok value => simp [Functor.map, Except.map]

/-- Something that is there without reading. -/
theorem pure_eq_ok_iff {value result : α} :
    (pure value : Except ε α) = .ok result ↔ value = result := by
  simp [pure, Except.pure]

/-- A reading whose result passes a check yields something. -/
theorem exists_ok_of_any {read : Except ε α} {p : α → Bool} (h : read.toOption.any p = true) :
    ∃ value, read = .ok value ∧ p value = true := by
  cases read with
  | error e => cases h
  | ok value => exact ⟨value, rfl, h⟩

/-- A list is read when each entry is, one by one.

**Proof sketch.** By induction on the list. The first entry is read and then the rest, and the
result has what was read of the first in front of the others. -/
theorem mapM_eq_ok_iff {read : α → Except ε β} {entries : List α} {results : List β} :
    entries.mapM read = .ok results ↔
      List.Forall₂ (fun entry result => read entry = .ok result) entries results := by
  induction entries generalizing results with
  | nil => rw [List.mapM_nil, pure_eq_ok_iff, List.forall₂_nil_left_iff, eq_comm]
  | cons entry rest ih =>
    simp only [List.mapM_cons, bind_eq_ok_iff, pure_eq_ok_iff, ih, List.forall₂_cons_left_iff]
    constructor
    · rintro ⟨result, hresult, others, hothers, rfl⟩
      exact ⟨result, others, hresult, hothers, rfl⟩
    · rintro ⟨result, others, hresult, hothers, rfl⟩
      exact ⟨result, hresult, others, hothers, rfl⟩

/-- Entries that are read one by one are read to one list of results. -/
theorem eq_of_forall₂_ok {read : α → Except ε β} {entries : List α} {results results' : List β}
    (h : List.Forall₂ (fun entry result => read entry = .ok result) entries results)
    (h' : List.Forall₂ (fun entry result => read entry = .ok result) entries results') :
    results = results' :=
  Except.ok.inj ((mapM_eq_ok_iff.mpr h).symm.trans (mapM_eq_ok_iff.mpr h'))

/-- What is related to some entry of a list. -/
theorem exists_of_mem_right {R : α → β → Prop} {entries : List α} {results : List β}
    (h : List.Forall₂ R entries results) {result : β} (hresult : result ∈ results) :
    ∃ entry ∈ entries, R entry result := by
  induction h with
  | nil => cases hresult
  | cons hentry _ ih =>
    rcases List.mem_cons.mp hresult with rfl | hresult
    · exact ⟨_, List.mem_cons_self .., hentry⟩
    · obtain ⟨entry, hmem, hentry⟩ := ih hresult
      exact ⟨entry, List.mem_cons_of_mem _ hmem, hentry⟩

/-- What some entry of a list is related to. -/
theorem exists_of_mem_left {R : α → β → Prop} {entries : List α} {results : List β}
    (h : List.Forall₂ R entries results) {entry : α} (hentry : entry ∈ entries) :
    ∃ result ∈ results, R entry result :=
  exists_of_mem_right h.flip hentry

/-- A list can be read when each entry can.

**Proof sketch.** What is read stands in relation to the entries one by one (`mapM_eq_ok_iff`). By
induction on the list, such a result is one for the first entry before one for the rest. -/
theorem exists_mapM_eq_ok_iff {read : α → Except ε β} {entries : List α} :
    (∃ results, entries.mapM read = .ok results) ↔
      ∀ entry ∈ entries, ∃ result, read entry = .ok result := by
  simp only [mapM_eq_ok_iff]
  induction entries with
  | nil => simp
  | cons entry rest ih =>
    rw [List.forall_mem_cons, ← ih]
    constructor
    · rintro ⟨_, h⟩
      obtain ⟨result, others, hresult, hothers, _⟩ := List.forall₂_cons_left_iff.mp h
      exact ⟨⟨result, hresult⟩, others, hothers⟩
    · rintro ⟨⟨result, hresult⟩, others, hothers⟩
      exact ⟨result :: others, .cons hresult hothers⟩

/-- A list is read, where an entry is read on a condition and yields a known value then, when the
condition holds of all entries; it yields their values.

**Proof sketch.** By induction on the list. The first entry is read and then the rest of them, so
the condition holds of the first and of the rest, and the value of the first stands before the
values of the rest. -/
theorem mapM_eq_ok_iff_of_iff {read : α → Except ε β} {P : α → Prop} {value : α → β}
    (h : ∀ entry result, read entry = .ok result ↔ P entry ∧ result = value entry)
    {entries : List α} {results : List β} :
    entries.mapM read = .ok results ↔
      (∀ entry ∈ entries, P entry) ∧ results = entries.map value := by
  induction entries generalizing results with
  | nil =>
    rw [List.mapM_nil, pure_eq_ok_iff, eq_comm]
    simp
  | cons entry rest ih =>
    simp only [List.mapM_cons, bind_eq_ok_iff, pure_eq_ok_iff, ih, h, List.forall_mem_cons,
      List.map_cons]
    constructor
    · rintro ⟨_, ⟨hentry, rfl⟩, _, ⟨hrest, rfl⟩, rfl⟩
      exact ⟨⟨hentry, hrest⟩, rfl⟩
    · rintro ⟨⟨hentry, hrest⟩, rfl⟩
      exact ⟨_, ⟨hentry, rfl⟩, _, ⟨hrest, rfl⟩, rfl⟩

end TargetGraph
