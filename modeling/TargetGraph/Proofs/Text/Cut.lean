import Mathlib.Data.List.Infix
import Mathlib.Data.List.TakeWhile
import TargetGraph.Text.Cut

set_option relaxedAutoImplicit false
set_option autoImplicit false

/-!
# Where a text is cut

Each way of cutting a text finds one place, and the place can be said without searching for it: the
first separator has none before it, the last one has none behind it, and before the first two
slashes no two stand together.

## Main definitions

* `TargetGraph.Text.NoSlashes` — no two slashes stand together.

## Main results

* `TargetGraph.Text.cutAt_eq_some_iff`, `TargetGraph.Text.cutAtLast_eq_some_iff`,
  `TargetGraph.Text.cutAtSlashes_eq_some_iff` — what a cut yields.
* `TargetGraph.Text.cutAt_eq_none_iff`, `TargetGraph.Text.cutAtLast_eq_none_iff` — when there is
  nothing to cut at.
* `TargetGraph.Text.fields_append`, `TargetGraph.Text.fields_joinFields` — the parts between all the
  separators.
-/

namespace TargetGraph.Text

variable {sep : Char} {cs before after : List Char}

/-! ### The first and the last separator -/

/-- What stands before the first separator is passed over. -/
theorem cutAt_append (h : sep ∉ before) :
    cutAt sep (before ++ sep :: after) = some (before, after) := by
  have hpass : ∀ c ∈ before, (c != sep) = true := fun c hc =>
    bne_iff_ne.mpr (ne_of_mem_of_not_mem hc h)
  rw [cutAt, List.dropWhile_append_of_pos hpass, List.takeWhile_append_of_pos hpass]
  simp

/-- There is nothing to cut at where there is no separator: else there would be a first one, and
`cutAt_append` would find it. -/
theorem cutAt_eq_none_iff : cutAt sep cs = none ↔ sep ∉ cs := by
  constructor
  · intro hnone hmem
    obtain ⟨before, after, rfl, hbefore⟩ := List.eq_append_cons_of_mem hmem
    rw [cutAt_append hbefore] at hnone
    cases hnone
  · intro h
    have hpass : cs.dropWhile (· != sep) = [] :=
      List.dropWhile_eq_nil_iff.mpr fun c hc => bne_iff_ne.mpr (ne_of_mem_of_not_mem hc h)
    rw [cutAt, hpass]

/-- A cut at the first separator: there is none before it.

**Proof sketch.** A text that is cut has a separator, so it has a first one, and `cutAt_append` cuts
there. -/
theorem cutAt_eq_some_iff :
    cutAt sep cs = some (before, after) ↔ cs = before ++ sep :: after ∧ sep ∉ before := by
  constructor
  · intro hcut
    have hmem : sep ∈ cs := by
      by_contra hnot
      rw [cutAt_eq_none_iff.mpr hnot] at hcut
      cases hcut
    obtain ⟨first, rest, rfl, hfirst⟩ := List.eq_append_cons_of_mem hmem
    rw [cutAt_append hfirst] at hcut
    cases hcut
    exact ⟨rfl, hfirst⟩
  · rintro ⟨rfl, hbefore⟩
    exact cutAt_append hbefore

/-- There is no last separator where there is none. -/
theorem cutAtLast_eq_none_iff : cutAtLast sep cs = none ↔ sep ∉ cs := by
  rw [cutAtLast, Option.map_eq_none_iff, cutAt_eq_none_iff, List.mem_reverse]

/-- A cut at the last separator: there is none behind it.

**Proof sketch.** This is `cutAt_eq_some_iff` for the reversed text, in which what is cut off behind
the separator stands before it. -/
theorem cutAtLast_eq_some_iff :
    cutAtLast sep cs = some (before, after) ↔ cs = before ++ sep :: after ∧ sep ∉ after := by
  have hshape : cs.reverse = after.reverse ++ sep :: before.reverse ↔
      cs = before ++ sep :: after := by
    rw [← List.reverse_inj, List.reverse_reverse]
    simp
  rw [cutAtLast, Option.map_eq_some_iff]
  constructor
  · rintro ⟨⟨behind, ahead⟩, hcut, hparts⟩
    cases hparts
    obtain ⟨hrev, hnot⟩ := cutAt_eq_some_iff.mp hcut
    rw [List.reverse_reverse, List.reverse_reverse] at hshape
    exact ⟨hshape.mp hrev, fun hmem => hnot (List.mem_reverse.mp hmem)⟩
  · rintro ⟨hcs, hnot⟩
    refine ⟨(after.reverse, before.reverse), cutAt_eq_some_iff.mpr ⟨hshape.mpr hcs, ?_⟩, ?_⟩
    · rwa [List.mem_reverse]
    · simp

/-! ### Two slashes -/

/-- No two slashes stand together. -/
def NoSlashes (cs : List Char) : Prop :=
  ¬['/', '/'] <:+: cs

/-- No two slashes stand together before a slash: none do anywhere, and none stands last.

**Proof sketch.** Two slashes in the longer text stand in the shorter one, or they are its last
character and the one behind it. -/
theorem noSlashes_concat_iff :
    NoSlashes (cs ++ ['/']) ↔ NoSlashes cs ∧ cs.getLast? ≠ some '/' := by
  have hlast : ['/', '/'] <:+ cs ++ ['/'] ↔ cs.getLast? = some '/' := by
    rw [List.getLast?_eq_some_iff]
    constructor
    · rintro ⟨front, hfront⟩
      rw [List.append_cons, List.append_left_inj] at hfront
      exact ⟨front, hfront.symm⟩
    · rintro ⟨front, rfl⟩
      exact ⟨front, List.append_cons ..⟩
  rw [NoSlashes, NoSlashes, List.infix_concat_iff, not_or, and_comm, hlast]

/-- A first character that is no slash makes no two slashes. -/
theorem noSlashes_cons_iff {c : Char} (h : c ≠ '/') : NoSlashes (c :: cs) ↔ NoSlashes cs := by
  have hfirst : ¬['/', '/'] <+: c :: cs := fun hbegin =>
    h (List.cons_prefix_cons.mp hbegin).1.symm
  rw [NoSlashes, NoSlashes, List.infix_cons_iff, or_iff_right hfirst]

/-- No two slashes stand together if the first two characters are not two and none do behind the
first character. -/
theorem noSlashes_cons_cons_iff {c d : Char} :
    NoSlashes (c :: d :: cs) ↔ ¬(c = '/' ∧ d = '/') ∧ NoSlashes (d :: cs) := by
  have hfirst : ['/', '/'] <+: c :: d :: cs ↔ c = '/' ∧ d = '/' := by
    rw [List.cons_prefix_cons, List.cons_prefix_cons, eq_comm, @eq_comm _ '/' d]
    exact and_congr_right fun _ => and_iff_left (List.nil_prefix ..)
  rw [NoSlashes, NoSlashes, List.infix_cons_iff, not_or, hfirst]

/-- Nothing can be passed over before two slashes that a text begins with: they would be passed over
too, or one of them and the slash behind it. -/
theorem eq_nil_of_noSlashes {passed rest : List Char}
    (hshape : '/' :: '/' :: rest = passed ++ '/' :: '/' :: after)
    (hno : NoSlashes (passed ++ ['/'])) : passed = [] := by
  match passed with
  | [] => rfl
  | [_] =>
    cases hshape
    exact absurd ⟨rfl, rfl⟩ (noSlashes_cons_cons_iff.mp hno).1
  | _ :: _ :: _ =>
    cases hshape
    exact absurd ⟨rfl, rfl⟩ (noSlashes_cons_cons_iff.mp hno).1

/-- A character may be passed over before what is passed over if it does not make two slashes with
the character behind it. -/
theorem noSlashes_concat_cons_iff {c d : Char} {passed rest : List Char}
    (h : ¬(c = '/' ∧ d = '/')) (hshape : d :: rest = passed ++ '/' :: '/' :: after) :
    NoSlashes (c :: passed ++ ['/']) ↔ NoSlashes (passed ++ ['/']) := by
  obtain ⟨more, hmore⟩ : ∃ more, passed ++ ['/'] = d :: more := by
    rcases passed with _ | ⟨e, more⟩
    · cases hshape
      exact ⟨[], rfl⟩
    · cases hshape
      exact ⟨more ++ ['/'], rfl⟩
  rw [List.cons_append, hmore, noSlashes_cons_cons_iff]
  exact and_iff_right h

/-- The search for two slashes ends at the first ones, and gives back what was passed over.

**Proof sketch.** By induction along the search. Where it stops, nothing is passed over
(`eq_nil_of_noSlashes`). Where it goes on, the first character is passed over, and no two slashes
begin there, so there are none before a slash with it just if there are none without it
(`noSlashes_concat_cons_iff`). -/
theorem cutAtSlashesFrom_eq_some_iff {seen : List Char} :
    cutAtSlashesFrom seen cs = some (before, after) ↔
      ∃ passed, cs = passed ++ '/' :: '/' :: after ∧ seen.reverse ++ passed = before ∧
        NoSlashes (passed ++ ['/']) := by
  -- no character is left, only one, two slashes, or any other two characters
  fun_induction cutAtSlashesFrom seen cs with
  | case1 seen => simp
  | case2 seen c => simp [List.cons_eq_append_iff]
  | case3 seen c d rest h =>
    obtain ⟨rfl, rfl⟩ := h
    constructor
    · intro hcut
      cases hcut
      exact ⟨[], rfl, List.append_nil _, by simp [NoSlashes, List.infix_cons_iff]⟩
    · rintro ⟨passed, hshape, rfl, hno⟩
      obtain rfl := eq_nil_of_noSlashes hshape hno
      cases hshape
      rw [List.append_nil]
  | case4 seen c d rest h ih =>
    rw [ih]
    constructor
    · rintro ⟨passed, hshape, rfl, hno⟩
      refine ⟨c :: passed, by rw [hshape, List.cons_append], by simp, ?_⟩
      exact (noSlashes_concat_cons_iff h hshape).mpr hno
    · rintro ⟨_ | ⟨e, passed⟩, hshape, rfl, hno⟩
      · cases hshape
        exact absurd ⟨rfl, rfl⟩ h
      · rw [List.cons_append, List.cons.injEq] at hshape
        obtain ⟨rfl, hshape⟩ := hshape
        exact ⟨passed, hshape, by simp, (noSlashes_concat_cons_iff h hshape).mp hno⟩

/-- A cut at the first two slashes: no two stand together before them, and none right before
them. -/
theorem cutAtSlashes_eq_some_iff :
    cutAtSlashes cs = some (before, after) ↔
      cs = before ++ '/' :: '/' :: after ∧ NoSlashes before ∧ before.getLast? ≠ some '/' := by
  rw [cutAtSlashes, cutAtSlashesFrom_eq_some_iff, ← noSlashes_concat_iff]
  constructor
  · rintro ⟨passed, hshape, rfl, hno⟩
    exact ⟨hshape, hno⟩
  · rintro ⟨hshape, hno⟩
    exact ⟨before, hshape, rfl, hno⟩

/-! ### All separators -/

/-- A character that is no separator stands at the beginning of the first part. -/
theorem fields_cons_of_ne {c : Char} (h : c ≠ sep) (cs : List Char) :
    ∃ part others, fields sep cs = part :: others ∧
      fields sep (c :: cs) = (c :: part) :: others := by
  obtain ⟨part, others, hfields⟩ := List.exists_cons_of_ne_nil (fields_ne_nil sep cs)
  refine ⟨part, others, hfields, ?_⟩
  rw [fields] at hfields ⊢
  rw [List.foldr_cons, hfields, if_neg h]

/-- A text without a separator has one part, by induction on the text. -/
theorem fields_of_not_mem (h : sep ∉ cs) : fields sep cs = [cs] := by
  induction cs with
  | nil => rfl
  | cons c cs ih =>
    obtain ⟨part, others, hfields, hmore⟩ :=
      fields_cons_of_ne (List.ne_of_not_mem_cons h).symm cs
    rw [ih (List.not_mem_of_not_mem_cons h)] at hfields
    cases hfields
    exact hmore

/-- A separator parts what stands before it from what stands behind it.

**Proof sketch.** By induction on what stands before it. A separator there begins a new part, and
any other character is put in front of the first part (`fields_cons_of_ne`), which is the same in
both texts. -/
theorem fields_append (sep : Char) (before after : List Char) :
    fields sep (before ++ sep :: after) = fields sep before ++ fields sep after := by
  induction before with
  | nil => exact fields_cons_sep sep after
  | cons c before ih =>
    by_cases hc : c = sep
    · subst hc
      rw [List.cons_append, fields_cons_sep, fields_cons_sep, ih, List.cons_append]
    · obtain ⟨part, others, hfields, hfirst⟩ := fields_cons_of_ne hc before
      obtain ⟨part', others', hfields', hfirst'⟩ := fields_cons_of_ne hc (before ++ sep :: after)
      rw [ih, hfields, List.cons_append] at hfields'
      cases hfields'
      rw [List.cons_append, hfirst', hfirst, List.cons_append]

/-- There is no separator in a part.

**Proof sketch.** By induction on the text. A separator begins a new part and is put into none. Any
other character is put to the first part, and so it is the only one there that the induction
hypothesis does not know. -/
theorem not_mem_of_mem_fields {part : List Char} (h : part ∈ fields sep cs) : sep ∉ part := by
  induction cs generalizing part with
  | nil =>
    rw [fields_nil, List.mem_singleton] at h
    exact h ▸ List.not_mem_nil
  | cons c cs ih =>
    by_cases hc : c = sep
    · subst hc
      rw [fields_cons_sep] at h
      rcases List.mem_cons.mp h with rfl | hmem
      · exact List.not_mem_nil
      · exact ih hmem
    · obtain ⟨first, others, hfields, hmore⟩ := fields_cons_of_ne hc cs
      rw [hfields] at ih
      rw [hmore] at h
      rcases List.mem_cons.mp h with rfl | hmem
      · exact List.not_mem_cons_of_ne_of_not_mem (Ne.symm hc) (ih List.mem_cons_self)
      · exact ih (List.mem_cons_of_mem _ hmem)

/-- Cutting undoes joining, where there is no separator in a part.

**Proof sketch.** By induction on the parts: the separator that was put behind the first one parts
it from the others (`fields_append`), and it is one part itself (`fields_of_not_mem`). -/
theorem fields_joinFields {parts : List (List Char)} (hne : parts ≠ [])
    (h : ∀ part ∈ parts, sep ∉ part) : fields sep (joinFields sep parts) = parts := by
  fun_induction joinFields sep parts with
  | case1 => exact absurd rfl hne
  | case2 part => exact fields_of_not_mem (h part List.mem_cons_self)
  | case3 part next others ih =>
    obtain ⟨hpart, hothers⟩ := List.forall_mem_cons.mp h
    rw [fields_append, fields_of_not_mem hpart, ih (List.cons_ne_nil _ _) hothers]
    rfl

/-- A separator stands between the texts of some parts and of the parts behind them.

**Proof sketch.** By recursion on the first parts. The last one of them is followed by a separator
because there are others behind it. -/
theorem joinFields_append {parts others : List (List Char)} (hparts : parts ≠ [])
    (hothers : others ≠ []) :
    joinFields sep (parts ++ others) = joinFields sep parts ++ sep :: joinFields sep others := by
  fun_induction joinFields sep parts with
  | case1 => exact absurd rfl hparts
  | case2 part =>
    obtain ⟨next, more, rfl⟩ := List.exists_cons_of_ne_nil hothers
    rfl
  | case3 part next more ih =>
    have hmore := ih (List.cons_ne_nil _ _)
    rw [List.cons_append] at hmore
    rw [List.cons_append, List.cons_append, joinFields, hmore, List.append_assoc, List.cons_append]

end TargetGraph.Text
