import TargetGraph.Proofs.Text.Cut
import TargetGraph.SourcePath

set_option relaxedAutoImplicit false
set_option autoImplicit false

/-!
# What paths mean

Paths are joined and cut as texts, and this is what becomes of their components.  Only a leading
component can be the root or a `.`: the parts between slashes write names and `..`.  So a path below
another keeps the components of its base and loses its own leading `.`, and a path that is taken
relative to a root begins with neither a slash nor a `.`.

## Main definitions

* `TargetGraph.SourcePath.partComponents` — the components that the parts of a text write.

## Main results

* `TargetGraph.SourcePath.components_join` — the components of a path below another.
* `TargetGraph.SourcePath.below?_eq_none_iff`, `TargetGraph.SourcePath.components_below?` — when a
  path is below a root, and the components of what is left of it.
-/

namespace TargetGraph.SourcePath

open Text

variable {path base child root file rest : SourcePath} {cs behind : List Char}
  {parts : List (List Char)}

/-! ### Components of a text -/

/-- The components that the parts of a text between slashes write. -/
def partComponents (cs : List Char) : List Component :=
  (fields '/' cs).filterMap Component.ofPart?

/-- The parts between slashes write names and `..` only. -/
theorem ne_of_mem_partComponents {c : Component} (h : c ∈ partComponents cs) :
    c ≠ .root ∧ c ≠ .current := by
  obtain ⟨part, -, hpart⟩ := List.mem_filterMap.mp h
  unfold Component.ofPart? at hpart
  split at hpart
  · cases hpart
  · split at hpart <;> cases hpart <;> exact ⟨Component.noConfusion, Component.noConfusion⟩

/-- A slash parts the components of a text. -/
theorem partComponents_append (cs behind : List Char) :
    partComponents (cs ++ '/' :: behind) = partComponents cs ++ partComponents behind := by
  rw [partComponents, fields_append, List.filterMap_append]
  rfl

/-- Joined parts write the components that they write one by one. -/
theorem partComponents_joinFields (h : ∀ part ∈ parts, '/' ∉ part) :
    partComponents (joinFields '/' parts) = parts.filterMap Component.ofPart? := by
  rcases eq_or_ne parts [] with rfl | hne
  · rfl
  · rw [partComponents, fields_joinFields hne h]

/-! ### Leading components -/

/-- The root is the leading component of an absolute path. -/
theorem leading?_eq_root_iff : path.leading? = some .root ↔ path.isAbsolute = true := by
  unfold leading? isAbsolute
  rcases path.text.toList with _ | ⟨c, cs⟩
  · simp
  · by_cases hc : c = '/'
    · subst hc
      simp
    · split <;> simp_all

/-- There is a text just for a leading component, and it writes that component. -/
theorem leadText_cases (path : SourcePath) :
    path.leading? = none ∧ path.leadText = [] ∨
      path.leading? = some .root ∧ path.leadText = ['/'] ∨
      path.leading? = some .current ∧ path.leadText = ['.'] := by
  unfold leadText leading?
  split <;> rename_i h <;> simp_all

/-- The leading component of a path, and then those that its whole text writes. -/
theorem components_eq (path : SourcePath) :
    path.components = path.leading?.toList ++ partComponents path.text.toList := by
  unfold components parts leadText leading?
  split
  · next h => rw [h]; rfl
  · next h => rw [h]; rfl
  · next h => rw [h]; rfl
  · rfl

/-- What stands behind a slash has no part in the leading component: this is found out from the
first two characters, of which the second is the slash at most. -/
theorem leading?_append (hpath : path.text.toList = cs ++ '/' :: behind)
    (hbase : base.text.toList = cs) (hne : cs ≠ []) : path.leading? = base.leading? := by
  unfold leading?
  rw [hpath, hbase]
  rcases cs with _ | ⟨c, _ | ⟨d, more⟩⟩
  · exact absurd rfl hne
  · grind
  · grind

/-- Texts that agree up to a slash have the same leading component.

**Proof sketch.** If nothing stands before the slash, both are absolute. Else both have the leading
component of what stands before it (`leading?_append`). -/
theorem leading?_eq_of_append (hpath : path.text.toList = cs ++ '/' :: behind)
    (hbase : base.text.toList = cs ++ ['/']) : path.leading? = base.leading? := by
  rcases eq_or_ne cs [] with rfl | hne
  · rw [leading?_eq_root_iff.mpr (by simp [isAbsolute, hpath]),
      leading?_eq_root_iff.mpr (by simp [isAbsolute, hbase])]
  · have hfront : (⟨String.ofList cs⟩ : SourcePath).text.toList = cs := String.toList_ofList
    rw [leading?_append hpath hfront hne, leading?_append hbase hfront hne]

/-- Behind the first component there are names and `..` only.

**Proof sketch.** With a leading component, the others are what the text writes (`components_eq`),
and this is never a root or a `.` (`ne_of_mem_partComponents`). Without one, that holds of all
components. -/
theorem ne_of_mem_tail_components {c : Component} (h : c ∈ path.components.tail) :
    c ≠ .root ∧ c ≠ .current := by
  rw [components_eq] at h
  cases hlead : path.leading? with
  | none =>
    rw [hlead] at h
    exact ne_of_mem_partComponents (List.mem_of_mem_tail h)
  | some first =>
    rw [hlead] at h
    exact ne_of_mem_partComponents h

/-- A path begins with neither a slash nor a `.` just if its components are names and `..`.

**Proof sketch.** What the parts write are names and `..` (`ne_of_mem_partComponents`), and a
leading component is a root or a `.` (`leadText_cases`). -/
theorem leading?_eq_none_iff :
    path.leading? = none ↔ ∀ c ∈ path.components, c ≠ .root ∧ c ≠ .current := by
  rw [components_eq]
  constructor
  · intro hnone c hc
    rw [hnone] at hc
    exact ne_of_mem_partComponents hc
  · intro hcomponents
    rcases leadText_cases path with ⟨hlead, -⟩ | ⟨hlead, -⟩ | ⟨hlead, -⟩
    · exact hlead
    · rw [hlead] at hcomponents
      exact absurd rfl (hcomponents .root List.mem_cons_self).1
    · rw [hlead] at hcomponents
      exact absurd rfl (hcomponents .current List.mem_cons_self).2

/-- An absolute path is one with the root among its components. -/
theorem root_mem_components_iff : Component.root ∈ path.components ↔ path.isAbsolute = true := by
  rw [← leading?_eq_root_iff, components_eq, List.mem_append, Option.mem_toList,
    or_iff_left fun h => (ne_of_mem_partComponents h).1 rfl]

/-- A text without a slash, other than nothing and a `.`, writes a component. -/
theorem partComponents_ne_nil (hslash : '/' ∉ cs) (hne : cs ≠ []) (hdot : cs ≠ ['.']) :
    partComponents cs ≠ [] := by
  rw [partComponents, fields_of_not_mem hslash]
  by_cases hparent : cs = ['.', '.'] <;> simp [Component.ofPart?, hne, hdot, hparent]

/-- Only the empty path has no components.

**Proof sketch.** A text without a leading component starts neither with a slash nor with a `.` that
stands alone. What stands before its first slash, or all of it, is then a part that writes a
component (`partComponents_ne_nil`). -/
theorem components_eq_nil_iff : path.components = [] ↔ path.text = "" := by
  constructor
  · intro hnone
    rw [components_eq, List.append_eq_nil_iff, Option.toList_eq_nil_iff] at hnone
    obtain ⟨hlead, hparts⟩ := hnone
    by_contra htext
    have hne : path.text.toList ≠ [] := by simpa using htext
    by_cases hslash : '/' ∈ path.text.toList
    · obtain ⟨first, behind, hshape, hfirst⟩ := List.eq_append_cons_of_mem hslash
      rw [hshape, partComponents_append, List.append_eq_nil_iff] at hparts
      refine partComponents_ne_nil hfirst ?_ ?_ hparts.1
      · rintro rfl
        simp [leading?, hshape] at hlead
      · rintro rfl
        simp [leading?, hshape] at hlead
    · refine partComponents_ne_nil hslash hne ?_ hparts
      intro hdot
      simp [leading?, hdot] at hlead
  · intro htext
    rw [components_eq, htext, leading?, htext]
    rfl

/-! ### Paths below others -/

/-- The components of a text that goes on behind a base and a slash.

**Proof sketch.** The slash parts the components (`partComponents_append`), and the leading one is
that of the base (`leading?_append`, or `leading?_eq_of_append` if the base ends with the slash
itself). -/
theorem components_append (hpath : path.text.toList = cs ++ '/' :: behind)
    (hbase : base.text.toList = cs ∧ cs ≠ [] ∨ base.text.toList = cs ++ ['/']) :
    path.components = base.components ++ partComponents behind := by
  rw [components_eq, components_eq base, hpath, partComponents_append]
  rcases hbase with ⟨hbase, hne⟩ | hbase
  · rw [leading?_append hpath hbase hne, hbase, List.append_assoc]
  · rw [leading?_eq_of_append hpath hbase, hbase, partComponents_append]
    simp [partComponents, fields_nil, Component.ofPart?]

/-- A path below another has the components of its base, and then those that its own parts write.

**Proof sketch.** The text is the base, a slash unless the base ends with one, and the child; both
are cases of `components_append`. -/
theorem components_join (hbase : base.text ≠ "") (hchild : child.isAbsolute = false) :
    (base.join child).components = base.components ++ partComponents child.text.toList := by
  have hne : base.text.toList ≠ [] := by simpa using hbase
  rw [join, if_neg (by simp [hchild])]
  split
  · rename_i hends
    have hlast : base.text.toList.getLast? = some '/' := by simpa [hbase] using hends
    obtain ⟨front, hfront⟩ := List.getLast?_eq_some_iff.mp hlast
    refine components_append ?_ (.inr hfront)
    rw [String.toList_append, hfront, List.append_assoc, List.singleton_append]
  · refine components_append ?_ (.inl ⟨rfl, hne⟩)
    simp

/-- A relative path below the empty one is that path. -/
theorem join_of_empty (hbase : base.text = "") (hchild : child.isAbsolute = false) :
    base.join child = child := by
  simp [join, hchild, hbase]

/-! ### Paths relative to a root -/

/-- The parts behind the last one that writes a component. -/
theorem exists_trimEnd_append (parts : List (List Char)) :
    ∃ dropped, parts = trimEnd parts ++ dropped ∧
      ∀ part ∈ dropped, Component.ofPart? part = none := by
  refine ⟨(parts.reverse.takeWhile fun part => !isSignificant part).reverse, ?_, fun part h => ?_⟩
  · rw [trimEnd, ← List.reverse_append, List.takeWhile_append_dropWhile, List.reverse_reverse]
  · simpa [isSignificant] using List.mem_takeWhile_imp (List.mem_reverse.mp h)

/-- Parts that are left were there before. -/
theorem trimEnd_subset (parts : List (List Char)) : trimEnd parts ⊆ parts := by
  obtain ⟨dropped, hparts, -⟩ := exists_trimEnd_append parts
  intro part hpart
  rw [hparts]
  exact List.mem_append_left dropped hpart

/-- Without the parts at the end that write nothing, the same components are written. -/
theorem filterMap_trimEnd (parts : List (List Char)) :
    (trimEnd parts).filterMap Component.ofPart? = parts.filterMap Component.ofPart? := by
  obtain ⟨dropped, hparts, hnothing⟩ := exists_trimEnd_append parts
  rw [hparts, List.filterMap_append, List.filterMap_eq_nil_iff.mpr hnothing, List.append_nil,
    ← hparts]

/-- Parts are dropped up to one that writes a component, as often as there are components to drop.

**Proof sketch.** By recursion as parts are dropped. A part that writes a component takes one off
the number, and one off the components. A part that writes nothing is missed on neither side. -/
theorem filterMap_dropComponents (count : Nat) (parts : List (List Char)) :
    (dropComponents count parts).filterMap Component.ofPart? =
      (parts.filterMap Component.ofPart?).drop count := by
  fun_induction dropComponents count parts with
  | case1 parts => rfl
  | case2 count => rfl
  | case3 count part rest h ih =>
    obtain ⟨c, hc⟩ := Option.isSome_iff_exists.mp h
    rw [ih, List.filterMap_cons_some hc, List.drop_succ_cons]
  | case4 count part rest h ih =>
    rw [ih, List.filterMap_cons_none (Option.not_isSome_iff_eq_none.mp h)]

/-- The parts behind some components stand at the end. -/
theorem dropComponents_suffix (count : Nat) (parts : List (List Char)) :
    dropComponents count parts <:+ parts := by
  fun_induction dropComponents count parts with
  | case1 parts => exact List.suffix_refl parts
  | case2 count => exact List.suffix_refl []
  | case3 count part rest h ih => exact ih.trans (List.suffix_cons part rest)
  | case4 count part rest h ih => exact ih.trans (List.suffix_cons part rest)

/-- The parts that write nothing at the beginning are not missed.

**Proof sketch.** The parts are those that are dropped and the others behind them, and the ones that
are dropped write no component. -/
theorem filterMap_dropWhile_isSignificant (parts : List (List Char)) :
    (parts.dropWhile fun part => !isSignificant part).filterMap Component.ofPart? =
      parts.filterMap Component.ofPart? := by
  have hnothing : ∀ part ∈ parts.takeWhile fun part => !isSignificant part,
      Component.ofPart? part = none := fun part h => by
    simpa [isSignificant] using List.mem_takeWhile_imp h
  conv_rhs => rw [← List.takeWhile_append_dropWhile (p := fun part => !isSignificant part)
    (l := parts), List.filterMap_append, List.filterMap_eq_nil_iff.mpr hnothing, List.nil_append]

/-- A part that writes a component of its own writes no leading one. -/
theorem leading?_of_isSignificant {part : List Char} (htext : path.text.toList = part)
    (hslash : '/' ∉ part) (hsignificant : isSignificant part) : path.leading? = none := by
  unfold leading?
  rw [htext]
  split
  · simp at hslash
  · simp [isSignificant, Component.ofPart?] at hsignificant
  · simp at hslash
  · rfl

/-- A path that is put together from parts of which the first writes a component begins with neither
a slash nor a `.`.

**Proof sketch.** A part that writes a component has no leading one of its own
(`leading?_of_isSignificant`), and what is joined to it stands behind a slash
(`leading?_append`). -/
theorem leading?_assemble (hslash : ∀ part ∈ parts, '/' ∉ part)
    (hfirst : ∀ part ∈ parts.head?, isSignificant part) : (assemble [] parts).leading? = none := by
  rcases parts with _ | ⟨part, others⟩
  · rfl
  have hsignificant : isSignificant part := hfirst part rfl
  have htext : (assemble [] [part]).text.toList = part := by simp [assemble, joinFields]
  have halone : (assemble [] [part]).leading? = none :=
    leading?_of_isSignificant htext (hslash part List.mem_cons_self) hsignificant
  rcases others with _ | ⟨next, others⟩
  · exact halone
  · have hne : part ≠ [] := by
      rintro rfl
      simp [isSignificant, Component.ofPart?] at hsignificant
    have hmore : (assemble [] (part :: next :: others)).text.toList =
        part ++ '/' :: joinFields '/' (next :: others) := by
      simp [assemble, joinFields]
    rw [leading?_append hmore htext hne, halone]

/-- The parts between slashes hold no slash. -/
theorem not_mem_of_mem_parts {part : List Char} (h : part ∈ path.parts) : '/' ∉ part :=
  not_mem_of_mem_fields h

/-- A path is below a root just if it begins with the components of the root. -/
theorem below?_eq_none_iff : root.below? file = none ↔ ¬root.components <+: file.components := by
  rw [← List.isPrefixOf_iff_prefix, below?]
  split
  · rename_i h
    split <;> simp [h]
  · rename_i h
    simp [h]

/-- A path that is put together from some parts, but for those at the beginning that write nothing,
has the components that the parts write.

**Proof sketch.** It has no leading component, because its first part writes something
(`leading?_assemble`). The parts that are left hold no slash, so they are found again in the text
(`partComponents_joinFields`), and those that were left out write nothing. -/
theorem components_assemble (hslash : ∀ part ∈ parts, '/' ∉ part) :
    (assemble [] (parts.dropWhile fun part => !isSignificant part)).components =
      parts.filterMap Component.ofPart? := by
  have hkept : ∀ part ∈ parts.dropWhile fun part => !isSignificant part, '/' ∉ part :=
    fun part hpart => hslash part (List.dropWhile_subset _ hpart)
  have hfirst : ∀ part ∈ (parts.dropWhile fun part => !isSignificant part).head?,
      isSignificant part := fun part hpart => by
    have hnot := List.head?_dropWhile_not (fun part => !isSignificant part) parts
    rw [Option.mem_def.mp hpart] at hnot
    simpa using hnot
  rw [components_eq, leading?_assemble hkept hfirst, assemble, String.toList_ofList,
    List.nil_append, partComponents_joinFields hkept, filterMap_dropWhile_isSignificant]
  rfl

/-- A text is its leading component and its parts. -/
theorem toList_text (path : SourcePath) :
    path.text.toList = path.leadText ++ joinFields '/' path.parts := by
  rw [parts, joinFields_fields, leadText]
  split
  · rfl
  · cases path.text.toList <;> rfl

/-- The text of the leading component writes that component. -/
theorem components_lead (file : SourcePath) :
    (assemble file.leadText []).components = file.leading?.toList := by
  rcases leadText_cases file with ⟨hlead, htext⟩ | ⟨hlead, htext⟩ | ⟨hlead, htext⟩ <;>
    rw [hlead, htext] <;> rfl

/-- If the parts that are left have no text, only the leading component is there, and it is kept. -/
theorem components_trimmed_of_nil (h : joinFields '/' (trimEnd file.parts) = []) :
    (assemble file.leadText (trimEnd file.parts)).components = file.components := by
  have hslash : ∀ part ∈ trimEnd file.parts, '/' ∉ part := fun part hpart =>
    not_mem_of_mem_parts (trimEnd_subset file.parts hpart)
  have hparts : (trimEnd file.parts).filterMap Component.ofPart? = [] := by
    rw [← partComponents_joinFields hslash, h]
    rfl
  rw [components.eq_1 file, ← filterMap_trimEnd, hparts, List.append_nil, ← components_lead,
    assemble, assemble, h]
  rfl

/-- Slashes at the end make no difference.

**Proof sketch.** The parts that are trimmed off write nothing (`exists_trimEnd_append`), so the
parts that are left write all the components. If these parts have no text, only the leading
component is there (`components_trimmed_of_nil`). Else the trimmed text goes on behind a slash in
the whole one, so `components_append` compares the two. -/
theorem components_trimmed (file : SourcePath) :
    (assemble file.leadText (trimEnd file.parts)).components = file.components := by
  obtain ⟨dropped, hparts, hnothing⟩ := exists_trimEnd_append file.parts
  have hslash : ∀ part ∈ trimEnd file.parts ++ dropped, '/' ∉ part := by
    rw [← hparts]
    exact fun part => not_mem_of_mem_parts
  have hresult : (assemble file.leadText (trimEnd file.parts)).text.toList =
      file.leadText ++ joinFields '/' (trimEnd file.parts) := String.toList_ofList
  rcases eq_or_ne dropped [] with rfl | hdropped
  · rw [List.append_nil] at hparts
    rw [← hparts, assemble, ← toList_text, String.ofList_toList]
  rcases eq_or_ne (joinFields '/' (trimEnd file.parts)) [] with hnone | hsome
  · exact components_trimmed_of_nil hnone
  · have hmore : trimEnd file.parts ≠ [] := fun hnil => hsome (by rw [hnil]; rfl)
    have htext : file.text.toList = (assemble file.leadText (trimEnd file.parts)).text.toList ++
        '/' :: joinFields '/' dropped := by
      rw [hresult, List.append_assoc, ← joinFields_append hmore hdropped, ← hparts, toList_text]
    have hne : (assemble file.leadText (trimEnd file.parts)).text.toList ≠ [] := by
      rw [hresult]
      exact List.append_ne_nil_of_right_ne_nil _ hsome
    rw [components_append htext (.inl ⟨rfl, hne⟩), partComponents_joinFields fun part hpart =>
      hslash part (List.mem_append_right _ hpart), List.filterMap_eq_nil_iff.mpr hnothing,
      List.append_nil]

/-- Behind so many components that the leading one is among them, those that the parts write are
left, as many fewer. -/
theorem drop_components {count : Nat} (h : file.leading?.toList.length ≤ count) :
    (file.parts.filterMap Component.ofPart?).drop (count - file.leading?.toList.length) =
      file.components.drop count := by
  rw [components.eq_1 file, List.drop_append, List.drop_eq_nil_iff.mpr h, List.nil_append]

/-- What is left of a path below a root has the components behind those of the root.

**Proof sketch.** Nothing is taken off for an empty root, but slashes at the end
(`components_trimmed`). Else as many parts are dropped as the root has components, not counting the
leading one of the file, which is no part; the components of what is left are those behind them
(`components_assemble`, `filterMap_dropComponents`, `drop_components`). -/
theorem components_below? (h : root.below? file = some rest) :
    root.components ++ rest.components = file.components := by
  have hbegins : root.components <+: file.components := by
    by_contra hnot
    rw [below?_eq_none_iff.mpr hnot] at h
    cases h
  rw [below?, if_pos (List.isPrefixOf_iff_prefix.mpr hbegins)] at h
  obtain ⟨behind, hbehind⟩ := hbegins
  split at h
  · rename_i hempty
    cases h
    rw [List.isEmpty_iff.mp hempty, List.nil_append, components_trimmed]
  · rename_i hsome
    cases h
    have hslash : ∀ part ∈ dropComponents (root.components.length - file.leading?.toList.length)
        (trimEnd file.parts), '/' ∉ part := fun part hpart =>
      not_mem_of_mem_parts (trimEnd_subset file.parts ((dropComponents_suffix ..).subset hpart))
    have hlead : file.leading?.toList.length ≤ root.components.length := by
      have hpositive : 0 < root.components.length := by
        simpa [List.length_pos_iff] using hsome
      cases file.leading? <;> simp only [Option.toList, List.length_nil, List.length_singleton] <;>
        omega
    rw [components_assemble hslash, filterMap_dropComponents, filterMap_trimEnd,
      drop_components hlead, ← hbehind, List.drop_left]

/-- What is left of a path below a root that is not empty begins with neither a slash nor a `.`: its
components stand behind the first one of the path (`ne_of_mem_tail_components`). -/
theorem leading?_below? (h : root.below? file = some rest) (hroot : root.components ≠ []) :
    rest.leading? = none := by
  obtain ⟨first, others, hfirst⟩ := List.exists_cons_of_ne_nil hroot
  have hfile := components_below? h
  rw [hfirst, List.cons_append] at hfile
  refine leading?_eq_none_iff.mpr fun c hc => ?_
  have hmem : c ∈ file.components.tail := by
    rw [← hfile]
    exact List.mem_append_right _ hc
  exact ne_of_mem_tail_components hmem

end TargetGraph.SourcePath
