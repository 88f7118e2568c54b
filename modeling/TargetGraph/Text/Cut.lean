set_option relaxedAutoImplicit false
set_option autoImplicit false

/-!
# Cutting character lists

Labels, locations and paths are cut at separators: at the first, at the last, at the first pair
of slashes, or at all of them.

## Main definitions

* `TargetGraph.Text.cutAt`, `TargetGraph.Text.cutAtLast` — what stands before and after the first
  or last occurrence of a separator.
* `TargetGraph.Text.cutAtSlashes` — the same for the first `//`.
* `TargetGraph.Text.fields` — all the parts between separators.
-/

namespace TargetGraph.Text

/-- What stands before and after the first `sep`. -/
def cutAt (sep : Char) (cs : List Char) : Option (List Char × List Char) :=
  match cs.dropWhile (· != sep) with
  | [] => none
  | _ :: after => some (cs.takeWhile (· != sep), after)

/-- What stands before and after the last `sep`. -/
def cutAtLast (sep : Char) (cs : List Char) : Option (List Char × List Char) :=
  (cutAt sep cs.reverse).map fun (after, before) => (before.reverse, after.reverse)

/-- The search of `cutAtSlashes`; `seen` is what was passed over, last first. -/
def cutAtSlashesFrom (seen : List Char) : List Char → Option (List Char × List Char)
  | [] => none
  | [_] => none
  | c :: d :: rest =>
    if c = '/' ∧ d = '/' then some (seen.reverse, rest)
    else cutAtSlashesFrom (c :: seen) (d :: rest)

/-- What stands before and after the first `//`. -/
def cutAtSlashes (cs : List Char) : Option (List Char × List Char) :=
  cutAtSlashesFrom [] cs

/-- The parts between the separators, in order: one more than there are separators. -/
def fields (sep : Char) (cs : List Char) : List (List Char) :=
  cs.foldr
    (fun c parts =>
      if c = sep then [] :: parts
      else match parts with
        | [] => [[c]]
        | part :: others => (c :: part) :: others)
    [[]]

/-- The parts joined again, `sep` between them. -/
def joinFields (sep : Char) : List (List Char) → List Char
  | [] => []
  | [part] => part
  | part :: next :: others => part ++ sep :: joinFields sep (next :: others)

/-- The empty text has one part, the empty one. -/
theorem fields_nil (sep : Char) : fields sep [] = [[]] := rfl

/-- A separator starts a new part. -/
theorem fields_cons_sep (sep : Char) (cs : List Char) :
    fields sep (sep :: cs) = [] :: fields sep cs := by
  simp [fields]

/-- There is always at least one part. -/
theorem fields_ne_nil (sep : Char) (cs : List Char) : fields sep cs ≠ [] := by
  cases cs with
  | nil => simp [fields]
  | cons c rest =>
    simp only [fields, List.foldr_cons]
    split
    · simp
    · split <;> simp

/-- Joining undoes cutting.

**Proof sketch.** By induction on the text. A separator closes a field with nothing before it, so
joining puts the separator back in front of the others. Any other character goes to the first field,
and joining does not look into fields. -/
theorem joinFields_fields (sep : Char) (cs : List Char) : joinFields sep (fields sep cs) = cs := by
  induction cs with
  | nil => rfl
  | cons c rest ih =>
    by_cases h : c = sep
    · subst h
      rw [fields_cons_sep]
      cases hf : fields c rest with
      | nil => exact absurd hf (fields_ne_nil c rest)
      | cons part others => simp [joinFields, ← hf, ih]
    · have step : fields sep (c :: rest) =
          match fields sep rest with
          | [] => [[c]]
          | part :: others => (c :: part) :: others := by
        simp [fields, h]
      rw [step]
      cases hf : fields sep rest with
      | nil => exact absurd hf (fields_ne_nil sep rest)
      | cons part others =>
        rw [hf] at ih
        cases others with
        | nil => simpa [joinFields] using ih
        | cons next more => simpa [joinFields] using ih

end TargetGraph.Text
