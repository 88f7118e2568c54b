import TargetGraph.Label.Json
import TargetGraph.Proofs.Contents.Reading
import TargetGraph.Proofs.Json.Written
import TargetGraph.Proofs.Text.Cut

set_option relaxedAutoImplicit false
set_option autoImplicit false

/-!
# What writes a label

A text writes a label when it has no white space and is put together from a repository, a package
and a name, of which the name may be left out if it is the last component of the package. A label is
read by looking for separators from the left, and its parts are found by looking for them again,
from both ends. As no part holds a separator that could be taken for one of the others, both see the
same parts.

## Main definitions

* `TargetGraph.Label.Parts` — a repository, a package and a name.
* `TargetGraph.Label.Parts.text`, `TargetGraph.Label.Parts.shorthand` — the two ways to write them.
* `TargetGraph.Label.Parts.Spelled` — a text writes the three parts.

## Main results

* `TargetGraph.Label.parse?_eq_some_iff` — which texts write a label, and which label.
* `TargetGraph.Label.Parts.views` — the parts of a label are those that its text was put together
  from.
* `TargetGraph.Label.parse?_by_parts` — labels are what they print.
-/

namespace TargetGraph.Label

open Text

/-! ### The parts of a label -/

/-- The text has no white space. -/
def NoBlank (raw : String) : Prop :=
  ∀ c ∈ raw.toList, isBlank c = false

/-- The text may stand behind the `@`. -/
structure IsRepository (repository : String) : Prop where
  /-- There is no colon in it. -/
  colon : ':' ∉ repository.toList
  /-- There are no two slashes in it. -/
  slashes : NoSlashes repository.toList
  /-- It does not end with a slash. -/
  last : repository.toList.getLast? ≠ some '/'

/-- The text may stand between the two slashes and the colon. -/
structure IsPackage (package : String) : Prop where
  /-- There is no colon in it. -/
  colon : ':' ∉ package.toList
  /-- It does not start with a slash. -/
  first : package.toList.head? ≠ some '/'
  /-- It does not end with a slash. -/
  last : package.toList.getLast? ≠ some '/'

/-- The text may stand behind the colon. -/
structure IsName (name : String) : Prop where
  /-- It is not empty. -/
  ne_empty : name ≠ ""
  /-- There is no colon in it. -/
  colon : ':' ∉ name.toList

/-- The parts of a label. -/
@[ext]
structure Parts where
  /-- The repository, for a label outside the workspace. -/
  repository? : Option String
  /-- The package. -/
  package : String
  /-- The name. -/
  name : String
  /-- The repository may stand behind the `@`. -/
  isRepository : ∀ repository ∈ repository?, IsRepository repository
  /-- The package may stand between the two slashes and the colon. -/
  isPackage : IsPackage package
  /-- The name may stand behind the colon. -/
  isName : IsName name

/-- What stands before the two slashes. -/
def repositoryPart : Option String → String
  | none => ""
  | some repository => "@" ++ repository

/-- A label without a name. -/
def shorthand (repository? : Option String) (package : String) : String :=
  repositoryPart repository? ++ "//" ++ package

/-- The last component of a package: what stands behind its last slash, or all of it. -/
def LastComponent (package name : String) : Prop :=
  '/' ∉ name.toList ∧ (package = name ∨ ∃ front, package = front ++ "/" ++ name)

namespace Parts

/-- The parts without the name. -/
def shorthand (p : Parts) : String :=
  Label.shorthand p.repository? p.package

/-- The parts in full. -/
def text (p : Parts) : String :=
  p.shorthand ++ ":" ++ p.name

/-- The name is the last component of the package, so it may be left out. -/
def NamedByPackage (p : Parts) : Prop :=
  LastComponent p.package p.name

/-- A text writes the parts, in full or without the name. -/
def Spelled (p : Parts) (raw : String) : Prop :=
  raw = p.text ∨ p.NamedByPackage ∧ raw = p.shorthand

end Parts

variable {raw : String} {label : Label} {p q : Parts} {cs rest last : List Char}
  {repository? : Option String} {repository package name : String}

/-- A label without a name is cut at its two slashes. -/
theorem toList_shorthand : (shorthand repository? package).toList =
    (repositoryPart repository?).toList ++ '/' :: '/' :: package.toList := by
  simp [shorthand]

/-- A label in full is cut at its two slashes and its colon. -/
theorem Parts.toList_text : p.text.toList = (repositoryPart p.repository?).toList ++
    '/' :: '/' :: (p.package.toList ++ ':' :: p.name.toList) := by
  simp [Parts.text, Parts.shorthand, toList_shorthand]

/-! ### The repository -/

/-- What passes for a repository is one behind an `@`, or nothing.

**Proof sketch.** The first character, if there is one, is the `@`. As it is no slash, the rest has
no two slashes together because the whole has none, and it ends with a slash if the whole does. -/
theorem exists_repository_of_part (hpart : isRepositoryPart cs = true) (hslashes : NoSlashes cs)
    (hlast : cs.getLast? ≠ some '/') :
    ∃ repository?, (∀ repository ∈ repository?, IsRepository repository) ∧
      cs = (repositoryPart repository?).toList := by
  rcases cs with _ | ⟨c, repository⟩
  · exact ⟨none, nofun, rfl⟩
  · obtain ⟨rfl, _, hcolon⟩ : c = '@' ∧ ':' ≠ c ∧ ':' ∉ repository := by
      simpa [isRepositoryPart] using hpart
    refine ⟨some (String.ofList repository), ?_, by simp [repositoryPart]⟩
    rintro _ ⟨⟩
    refine ⟨by simpa using hcolon, ?_, ?_⟩
    · simpa using (noSlashes_cons_iff (by decide)).mp hslashes
    · rw [String.toList_ofList]
      intro hend
      rw [List.getLast?_cons, hend] at hlast
      exact hlast rfl

/-- A repository behind an `@`, or nothing, passes for a repository.

**Proof sketch.** The `@` is neither a colon nor a slash, so it takes nothing away from what is
known of the name. It is the last character only if the name is empty, and it is no slash then. -/
theorem isRepositoryPart_of_repository
    (h : ∀ repository ∈ repository?, IsRepository repository) :
    isRepositoryPart (repositoryPart repository?).toList = true ∧
      NoSlashes (repositoryPart repository?).toList ∧
      (repositoryPart repository?).toList.getLast? ≠ some '/' := by
  rcases repository? with _ | repository
  · exact ⟨rfl, by simp [NoSlashes, repositoryPart], by simp [repositoryPart]⟩
  · obtain ⟨hcolon, hslashes, hlast⟩ := h repository rfl
    have htoList : (repositoryPart (some repository)).toList = '@' :: repository.toList := by
      simp [repositoryPart]
    rw [htoList]
    refine ⟨by simpa [isRepositoryPart] using hcolon,
      (noSlashes_cons_iff (by decide)).mpr hslashes, ?_⟩
    rw [List.getLast?_cons]
    cases hend : repository.toList.getLast? with
    | none => simp
    | some c =>
      rw [hend] at hlast
      simpa using hlast

/-- What stands before the first two slashes is a repository behind an `@`, or nothing:
`exists_repository_of_part` one way, `isRepositoryPart_of_repository` the other. -/
theorem isRepositoryPart_iff :
    isRepositoryPart cs = true ∧ NoSlashes cs ∧ cs.getLast? ≠ some '/' ↔
      ∃ repository?, (∀ repository ∈ repository?, IsRepository repository) ∧
        cs = (repositoryPart repository?).toList := by
  constructor
  · rintro ⟨hpart, hslashes, hlast⟩
    exact exists_repository_of_part hpart hslashes hlast
  · rintro ⟨repository?, hrepository, rfl⟩
    exact isRepositoryPart_of_repository hrepository

/-- Behind a repository, a text is cut at the first two slashes: there are none in a repository and
none at its end. -/
theorem cutAtSlashes_repositoryPart (h : ∀ repository ∈ repository?, IsRepository repository) :
    cutAtSlashes ((repositoryPart repository?).toList ++ '/' :: '/' :: rest) =
      some ((repositoryPart repository?).toList, rest) :=
  cutAtSlashes_eq_some_iff.mpr ⟨rfl, (isRepositoryPart_of_repository h).2⟩

/-! ### The name of a shorthand -/

/-- The last component is what stands behind the last slash, or all there is.

**Proof sketch.** `cutAtLast_eq_none_iff` and `cutAtLast_eq_some_iff` say where the search for the
last slash ends. As there is no slash in the last component, no other place could be meant. -/
theorem lastComponent_eq_iff :
    lastComponent cs = last ↔ '/' ∉ last ∧ (cs = last ∨ ∃ front, cs = front ++ '/' :: last) := by
  unfold lastComponent
  cases hcut : cutAtLast '/' cs with
  | none =>
    have hno := cutAtLast_eq_none_iff.mp hcut
    constructor
    · rintro rfl
      exact ⟨hno, .inl rfl⟩
    · rintro ⟨_, rfl | ⟨front, rfl⟩⟩
      · rfl
      · exact absurd (by simp) hno
  | some parts =>
    obtain ⟨front, behind⟩ := parts
    obtain ⟨hcs, hno⟩ := cutAtLast_eq_some_iff.mp hcut
    constructor
    · rintro rfl
      exact ⟨hno, .inr ⟨front, hcs⟩⟩
    · rintro ⟨hno', rfl | ⟨front', hcs'⟩⟩
      · exact absurd (by simp [hcs]) hno'
      · rw [cutAtLast_eq_some_iff.mpr ⟨hcs', hno'⟩] at hcut
        cases hcut
        rfl

/-- The last component of a package is found.

**Proof sketch.** This is `lastComponent_eq_iff` for the characters of two texts, where what stands
before the component is a text again. -/
theorem lastComponent_package_iff :
    lastComponent package.toList = name.toList ↔ LastComponent package name := by
  rw [lastComponent_eq_iff, LastComponent]
  refine and_congr_right fun _ => or_congr String.toList_inj ⟨?_, ?_⟩
  · rintro ⟨front, hfront⟩
    exact ⟨String.ofList front, by rw [← String.toList_inj, hfront]; simp⟩
  · rintro ⟨front, rfl⟩
    exact ⟨front.toList, by simp⟩

/-- The last component of a package that is not empty may be a name.

**Proof sketch.** It is empty only if the package is, or ends with a slash, and a package does not
end with one. A colon in it would be one in the package. -/
theorem isName_lastComponent (h : IsPackage package) (hne : package ≠ "") :
    IsName (String.ofList (lastComponent package.toList)) := by
  obtain ⟨_, hparts⟩ := lastComponent_eq_iff.mp (rfl (a := lastComponent package.toList))
  refine ⟨?_, ?_⟩
  · intro hempty
    have hempty : lastComponent package.toList = [] := by simpa using hempty
    rw [hempty] at hparts
    rcases hparts with hnil | ⟨front, hfront⟩
    · exact hne (String.toList_eq_nil_iff.mp hnil)
    · exact h.last (by rw [hfront, List.getLast?_concat])
  · rw [String.toList_ofList]
    intro hmem
    refine h.colon ?_
    rcases hparts with hall | ⟨front, hfront⟩
    · rwa [hall]
    · rw [hfront]
      simp [hmem]

/-- A package that is not empty gives a label its name. -/
theorem exists_parts_of_package (hrepository : ∀ repository ∈ repository?, IsRepository repository)
    (h : IsPackage package) (hne : package ≠ "") :
    ∃ p : Parts, p.NamedByPackage ∧ p.shorthand = shorthand repository? package ∧
      p.name = String.ofList (lastComponent package.toList) := by
  refine ⟨⟨repository?, package, _, hrepository, h, isName_lastComponent h hne⟩, ?_, rfl, rfl⟩
  exact lastComponent_package_iff.mp (String.toList_ofList ..).symm

/-- A package that gives a label its name is not empty: else the name would be. -/
theorem Parts.NamedByPackage.package_ne_empty (h : p.NamedByPackage) : p.package ≠ "" := by
  intro hempty
  have hlast := lastComponent_package_iff.mpr h
  rw [hempty] at hlast
  exact p.isName.ne_empty (String.toList_eq_nil_iff.mp hlast.symm)

/-! ### Reading a label -/

/-- A text without white space is found to have none. -/
theorem any_isBlank_iff : raw.toList.any isBlank = false ↔ NoBlank raw := by
  simp [NoBlank]

/-- Without a colon, a text is a package if there is no slash at its ends. -/
theorem isPackage_ofList (hcolon : ':' ∉ cs) :
    IsPackage (String.ofList cs) ↔ cs.head? ≠ some '/' ∧ cs.getLast? ≠ some '/' := by
  refine ⟨fun h => ?_, fun h => ⟨?_, ?_, ?_⟩⟩
  · simpa using And.intro h.first h.last
  all_goals simp [hcolon, h.1, h.2]

/-- A text that is not empty is a name if there is no colon in it. -/
theorem isName_ofList : IsName (String.ofList cs) ↔ cs ≠ [] ∧ ':' ∉ cs := by
  refine ⟨fun h => ?_, fun h => ⟨?_, ?_⟩⟩
  · simpa using And.intro h.ne_empty h.colon
  all_goals simp [h.1, h.2]

/-- Before and behind the first colon there are a package and a name.

**Proof sketch.** The text is cut at that colon (`cutAt_append`), and the checks that follow are
those of `isPackage_ofList` and `isName_ofList`, one by one. -/
theorem canonical?_of_colon {text : String} (hcolon : ':' ∉ cs) :
    canonical? raw (cs ++ ':' :: last) = some text ↔
      IsPackage (String.ofList cs) ∧ IsName (String.ofList last) ∧ raw = text := by
  rw [canonical?, cutAt_append hcolon, isPackage_ofList hcolon, isName_ofList]
  simp only [Option.ite_none_left_eq_some, Bool.or_eq_true, not_or, List.isEmpty_iff,
    List.contains_iff_mem, beq_iff_eq, Option.some.injEq]
  constructor
  · rintro ⟨⟨⟨hname, hfirst⟩, hlast⟩, htext⟩
    exact ⟨⟨hfirst, hlast⟩, hname, htext⟩
  · rintro ⟨⟨hfirst, hlast⟩, hname, htext⟩
    exact ⟨⟨⟨hname, hfirst⟩, hlast⟩, htext⟩

/-- Without a colon, there is a package that gives the label its name.

**Proof sketch.** The last component is empty just if there is no package or it ends with a slash
(`lastComponent_eq_iff`), so the checks that are made are those of `isPackage_ofList`, and that
there is a package. -/
theorem canonical?_of_no_colon {text : String} (hcolon : ':' ∉ cs) :
    canonical? raw cs = some text ↔ IsPackage (String.ofList cs) ∧ cs ≠ [] ∧
      raw ++ ":" ++ String.ofList (lastComponent cs) = text := by
  have hempty : lastComponent cs = [] ↔ cs = [] ∨ cs.getLast? = some '/' := by
    rw [lastComponent_eq_iff, List.getLast?_eq_some_iff]
    simp
  rw [canonical?, cutAt_eq_none_iff.mpr hcolon, isPackage_ofList hcolon]
  simp only [Option.ite_none_left_eq_some, Bool.or_eq_true, not_or, List.isEmpty_iff, beq_iff_eq,
    Option.some.injEq, hempty]
  constructor
  · rintro ⟨⟨⟨hne, hlast⟩, hfirst⟩, htext⟩
    exact ⟨⟨hfirst, hlast⟩, hne, htext⟩
  · rintro ⟨⟨hfirst, hlast⟩, hne, htext⟩
    exact ⟨⟨⟨hne, hlast⟩, hfirst⟩, htext⟩

/-- What stands behind the two slashes of parts is completed to their text: `canonical?_of_colon`
for parts in full, `canonical?_of_no_colon` for a shorthand. -/
theorem Parts.Spelled.exists_rest (h : p.Spelled raw) :
    ∃ rest, raw.toList = (repositoryPart p.repository?).toList ++ '/' :: '/' :: rest ∧
      canonical? raw rest = some p.text := by
  rcases h with rfl | ⟨hnamed, rfl⟩
  · refine ⟨_, toList_text, (canonical?_of_colon p.isPackage.colon).mpr ?_⟩
    rw [String.ofList_toList, String.ofList_toList]
    exact ⟨p.isPackage, p.isName, rfl⟩
  · refine ⟨_, toList_shorthand, (canonical?_of_no_colon p.isPackage.colon).mpr ?_⟩
    rw [String.ofList_toList, lastComponent_package_iff.mpr hnamed, String.ofList_toList]
    exact ⟨p.isPackage, fun hnil => hnamed.package_ne_empty (String.toList_eq_nil_iff.mp hnil), rfl⟩

/-- What is completed behind two slashes is put together from parts.

**Proof sketch.** With a colon behind the slashes the parts are written in full, around the first
one. Without a colon there is a shorthand, whose name is the last component of the package
(`exists_parts_of_package`). -/
theorem exists_parts_of_canonical? {text : String}
    (hrepository : ∀ repository ∈ repository?, IsRepository repository)
    (hraw : raw.toList = (repositoryPart repository?).toList ++ '/' :: '/' :: rest)
    (h : canonical? raw rest = some text) : ∃ p : Parts, p.Spelled raw ∧ text = p.text := by
  by_cases hcolon : ':' ∈ rest
  · obtain ⟨package, name, rfl, hfirst⟩ := List.eq_append_cons_of_mem hcolon
    obtain ⟨hpackage, hname, rfl⟩ := (canonical?_of_colon hfirst).mp h
    have htext : raw = (⟨repository?, _, _, hrepository, hpackage, hname⟩ : Parts).text := by
      rw [← String.toList_inj, hraw, Parts.toList_text, String.toList_ofList, String.toList_ofList]
    exact ⟨_, .inl htext, htext⟩
  · obtain ⟨hpackage, hne, rfl⟩ := (canonical?_of_no_colon hcolon).mp h
    obtain ⟨p, hnamed, hshorthand, hname⟩ := exists_parts_of_package hrepository hpackage
      (by simpa using hne)
    have hraw' : raw = p.shorthand := by
      rw [hshorthand, ← String.toList_inj, hraw, toList_shorthand, String.toList_ofList]
    refine ⟨p, .inr ⟨hnamed, hraw'⟩, ?_⟩
    rw [Parts.text, ← hraw', hname, String.toList_ofList]

/-- **Which texts write a label, and which label.**

**Proof sketch.** A text that is read is cut at its first two slashes (`cutAtSlashes_eq_some_iff`);
before them is a repository or nothing (`isRepositoryPart_iff`), and behind them what
`exists_parts_of_canonical?` takes apart. The other way, parts are cut again at the same slashes,
and completed to their text (`Parts.Spelled.exists_rest`). -/
theorem parse?_eq_some_iff :
    parse? raw = some label ↔ NoBlank raw ∧ ∃ p : Parts, p.Spelled raw ∧ label.text = p.text := by
  unfold parse?
  rw [Option.ite_none_left_eq_some, Bool.not_eq_true, any_isBlank_iff]
  refine and_congr_right fun _ => ⟨fun h => ?_, ?_⟩
  · split at h
    · cases h
    · next before rest hcut =>
      obtain ⟨hpart, hlabel⟩ := Option.ite_none_right_eq_some.mp h
      obtain ⟨text, htext, rfl⟩ := Option.map_eq_some_iff.mp hlabel
      obtain ⟨hraw, hbefore⟩ := cutAtSlashes_eq_some_iff.mp hcut
      obtain ⟨repository?, hrepository, rfl⟩ := isRepositoryPart_iff.mp ⟨hpart, hbefore⟩
      exact exists_parts_of_canonical? hrepository hraw htext
  · rintro ⟨p, hp, htext⟩
    obtain ⟨rest, hraw, hcanonical⟩ := hp.exists_rest
    have hpart := (isRepositoryPart_of_repository p.isRepository).1
    rw [hraw, cutAtSlashes_repositoryPart p.isRepository]
    simp [hpart, hcanonical, ← htext]

/-! ### The parts of what was read -/

/-- **The parts of a label are those that its text was put together from.**

**Proof sketch.** The text of parts is cut again at their slashes, and its last colon is the one
that was put there, since a name holds none. -/
theorem Parts.views (h : label.text = p.text) :
    label.repository? = p.repository? ∧ label.package = p.package ∧ label.name = p.name := by
  have hslashes : cutAtSlashes p.text.toList = some ((repositoryPart p.repository?).toList,
      p.package.toList ++ ':' :: p.name.toList) := by
    rw [toList_text]
    exact cutAtSlashes_repositoryPart p.isRepository
  have hcolon : cutAtLast ':' (p.package.toList ++ ':' :: p.name.toList) =
      some (p.package.toList, p.name.toList) := cutAtLast_eq_some_iff.mpr ⟨rfl, p.isName.colon⟩
  have hcolon' : cutAtLast ':' p.text.toList =
      some (p.shorthand.toList, p.name.toList) :=
    cutAtLast_eq_some_iff.mpr ⟨by simp [Parts.text], p.isName.colon⟩
  refine ⟨?_, ?_, ?_⟩
  · rw [Label.repository?, h, hslashes]
    cases p.repository? with
    | none => rfl
    | some repository => simp [repositoryPart]
  · simp [Label.package, h, hslashes, hcolon]
  · simp [Label.name, h, hcolon']

/-- There is no colon before the two slashes. -/
theorem colon_not_mem_repositoryPart (h : ∀ repository ∈ repository?, IsRepository repository) :
    ':' ∉ (repositoryPart repository?).toList := by
  cases repository? with
  | none => simp [repositoryPart]
  | some repository => simpa [repositoryPart] using (h repository rfl).colon

/-- The text of parts has one colon: the parts hold none, and one is put between package and
name. -/
theorem Parts.count_colon (p : Parts) : p.text.toList.count ':' = 1 := by
  have hrepository := List.count_eq_zero.mpr (colon_not_mem_repositoryPart p.isRepository)
  have hpackage := List.count_eq_zero.mpr p.isPackage.colon
  have hname := List.count_eq_zero.mpr p.isName.colon
  simp [toList_text, hrepository, hpackage, hname]

/-- What is left out of a shorthand has no white space either.

**Proof sketch.** The name that is filled in is the last component of the package, so each of its
characters stands in the shorthand. -/
theorem Parts.Spelled.noBlank_text (h : p.Spelled raw) (hraw : NoBlank raw) : NoBlank p.text := by
  rcases h with rfl | ⟨hnamed, rfl⟩
  · exact hraw
  · have hname : ∀ c ∈ p.name.toList, c ∈ p.shorthand.toList := by
      intro c hc
      rw [Parts.shorthand, toList_shorthand]
      rcases hnamed.2 with hall | ⟨front, hfront⟩
      · simp [hall, hc]
      · simp [hfront, hc]
    have hcolon : isBlank ':' = false := by decide
    intro c hc
    have hc : c ∈ p.shorthand.toList ∨ c = ':' ∨ c ∈ p.name.toList := by
      simpa [Parts.text] using hc
    rcases hc with hc | rfl | hc
    · exact hraw c hc
    · exact hcolon
    · exact hraw c (hname c hc)

/-- Parts that are written alike are the same, because they can be read off what is written
(`Parts.views`). -/
theorem Parts.eq_of_text_eq (h : p.text = q.text) : p = q := by
  have hsame : (⟨p.text⟩ : Label).text = q.text := h
  obtain ⟨hrepository, hpackage, hname⟩ := views (rfl : (⟨p.text⟩ : Label).text = p.text)
  obtain ⟨hrepository', hpackage', hname'⟩ := views hsame
  exact Parts.ext (hrepository.symm.trans hrepository') (hpackage.symm.trans hpackage')
    (hname.symm.trans hname')

/-- Which texts write a label, by what they consist of.

**Proof sketch.** The parts of a text that writes a label (`parse?_eq_some_iff`) are written in
full, or they are a package and the name that it has, and then the package is not empty. The other
way, a package that is not empty has a name (`exists_parts_of_package`). -/
theorem exists_parse?_eq_some_iff :
    (∃ label, parse? raw = some label) ↔ NoBlank raw ∧
      ((∃ p : Parts, raw = p.text) ∨ ∃ repository? package,
        (∀ repository ∈ repository?, IsRepository repository) ∧ IsPackage package ∧ package ≠ "" ∧
          raw = shorthand repository? package) := by
  constructor
  · rintro ⟨label, hlabel⟩
    obtain ⟨hblank, p, rfl | ⟨hnamed, rfl⟩, _⟩ := parse?_eq_some_iff.mp hlabel
    · exact ⟨hblank, .inl ⟨p, rfl⟩⟩
    · exact ⟨hblank, .inr ⟨p.repository?, p.package, p.isRepository, p.isPackage,
        hnamed.package_ne_empty, rfl⟩⟩
  · rintro ⟨hblank, ⟨p, rfl⟩ | ⟨repository?, package, hrepository, hpackage, hne, rfl⟩⟩
    · exact ⟨⟨p.text⟩, parse?_eq_some_iff.mpr ⟨hblank, p, .inl rfl, rfl⟩⟩
    · obtain ⟨p, hnamed, hshorthand, _⟩ := exists_parts_of_package hrepository hpackage hne
      exact ⟨⟨p.text⟩, parse?_eq_some_iff.mpr ⟨hblank, p, .inr ⟨hnamed, hshorthand.symm⟩, rfl⟩⟩

/-- Two texts that write labels write the same one just if they are the same, or one is the
shorthand of the other.

**Proof sketch.** Labels are the same if their parts are (`Parts.eq_of_text_eq`), and parts can be
written in two ways at most, so both texts are among these two. The other way, both texts write the
same parts and with them the same label (`parse?_eq_some_iff`). -/
theorem eq_iff_of_parse?_eq_some {other : String} {label' : Label}
    (hlabel : parse? raw = some label) (hlabel' : parse? other = some label') :
    label = label' ↔ raw = other ∨ ∃ p : Parts, p.NamedByPackage ∧
      (raw = p.shorthand ∧ other = p.text ∨ raw = p.text ∧ other = p.shorthand) := by
  obtain ⟨hblank, p, hp, htext⟩ := parse?_eq_some_iff.mp hlabel
  obtain ⟨hblank', q, hq, htext'⟩ := parse?_eq_some_iff.mp hlabel'
  constructor
  · rintro rfl
    obtain rfl := Parts.eq_of_text_eq (htext.symm.trans htext')
    rcases hp with rfl | ⟨hnamed, rfl⟩
    · rcases hq with rfl | ⟨hnamed, rfl⟩
      · exact .inl rfl
      · exact .inr ⟨p, hnamed, .inr ⟨rfl, rfl⟩⟩
    · rcases hq with rfl | ⟨_, rfl⟩
      · exact .inr ⟨p, hnamed, .inl ⟨rfl, rfl⟩⟩
      · exact .inl rfl
  · have hsame : ∀ r : Parts, r.Spelled raw → r.Spelled other → label = label' := by
      intro r hr hr'
      rw [parse?_eq_some_iff.mpr ⟨hblank, r, hr, rfl⟩] at hlabel
      rw [parse?_eq_some_iff.mpr ⟨hblank', r, hr', rfl⟩] at hlabel'
      exact (Option.some.inj hlabel).symm.trans (Option.some.inj hlabel')
    rintro (rfl | ⟨r, hnamed, ⟨hraw, hother⟩ | ⟨hraw, hother⟩⟩)
    · exact hsame p hp hp
    · exact hsame r (.inr ⟨hnamed, hraw⟩) (.inl hother)
    · exact hsame r (.inl hraw) (.inr ⟨hnamed, hother⟩)

/-- **Labels are what they print.** A text writes a label if it has no white space and consists of a
repository, a package and a name, or of a repository and a package that is not empty; the repository
may be missing. There is one way to take it apart like that, the label prints the parts in full, and
these are the parts that it is asked for; without a name, it has that of the package's last
component. A label prints one colon, and is read again from what it prints, and from its JSON
document. Two texts that write labels write the same one just if they are the same, or one is the
shorthand of the other.

**Proof sketch.** The first two slashes end the repository, as there are none in it and none at its
end, and the first colon behind them ends the package (`parse?_eq_some_iff`). In the printed form
there is no colon before or behind that one, so the last one is the same (`Parts.views`). Hence
different parts are printed differently (`Parts.eq_of_text_eq`, `eq_iff_of_parse?_eq_some`). -/
theorem parse?_by_parts (raw : String) :
    ((∃ label, parse? raw = some label) ↔ NoBlank raw ∧
      ((∃ p : Parts, raw = p.text) ∨ ∃ repository? package,
        (∀ repository ∈ repository?, IsRepository repository) ∧ IsPackage package ∧ package ≠ "" ∧
          raw = shorthand repository? package)) ∧
    (∀ label, parse? raw = some label →
      (∃ p : Parts, p.Spelled raw ∧ (∀ q : Parts, q.Spelled raw → q = p) ∧ label.text = p.text ∧
        label.repository? = p.repository? ∧ label.package = p.package ∧ label.name = p.name) ∧
      label.text.toList.count ':' = 1 ∧ parse? label.text = some label ∧
      read label.text = .ok label ∧ ofJson? label.json = some label) ∧
    ∀ other label label', parse? raw = some label → parse? other = some label' →
      (label = label' ↔ raw = other ∨ ∃ p : Parts, p.NamedByPackage ∧
        (raw = p.shorthand ∧ other = p.text ∨ raw = p.text ∧ other = p.shorthand)) := by
  refine ⟨exists_parse?_eq_some_iff, fun label hlabel => ?_,
    fun other label label' => eq_iff_of_parse?_eq_some⟩
  obtain ⟨hblank, p, hp, htext⟩ := parse?_eq_some_iff.mp hlabel
  have hagain : parse? label.text = some label := by
    rw [htext]
    exact parse?_eq_some_iff.mpr ⟨hp.noBlank_text hblank, p, .inl rfl, htext⟩
  refine ⟨⟨p, hp, fun q hq => ?_, htext, Parts.views htext⟩, ?_, hagain,
    read_eq_ok_iff.mpr hagain, ?_⟩
  · -- the text writes only one label, so other parts of it print the same
    have hq := parse?_eq_some_iff.mpr ⟨hblank, q, hq, rfl⟩
    rw [hlabel] at hq
    exact Parts.eq_of_text_eq ((congrArg text (Option.some.inj hq)).symm.trans htext)
  · rw [htext]
    exact p.count_colon
  · rw [ofJson?, json, Json.readText?_written]
    exact hagain

/-- A shorthand with two slashes inside its package. -/
theorem parse?_slashesInPackage :
    parse? "@m//a//b" = some ⟨"@m//a//b:b"⟩ ∧ ofJson? "\"@m//a//b:b\"" = some ⟨"@m//a//b:b"⟩ ∧
      ∃ p : Parts, p.Spelled "@m//a//b" ∧ p.repository? = some "m" ∧ p.package = "a//b" ∧
        p.name = "b" := by
  have hlabel : parse? "@m//a//b" = some ⟨"@m//a//b:b"⟩ := by
    decide
  obtain ⟨⟨p, hp, _, _, hrepository, hpackage, hname⟩, _, _, _, hjson⟩ :=
    (parse?_by_parts "@m//a//b").2.1 _ hlabel
  refine ⟨hlabel, hjson, p, hp, ?_, ?_, ?_⟩
  · rw [← hrepository]
    decide
  · rw [← hpackage]
    decide
  · rw [← hname]
    decide

end TargetGraph.Label
