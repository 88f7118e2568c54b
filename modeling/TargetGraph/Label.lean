import TargetGraph.Text.Blank
import TargetGraph.Text.Cut

set_option relaxedAutoImplicit false
set_option autoImplicit false

/-!
# Target labels

A label names a target of the build tool: `@repository//package:name`, where the repository is
left out for the workspace itself. The shorthand `//package` stands for the target that has the
name of the package's last component. A label *is* its canonical text: two labels are equal, and
one comes before another, as their texts are and do.

## Main definitions

* `TargetGraph.Label` — a label, held as its canonical text.
* `TargetGraph.Label.parse?` — the label a text writes, if it writes one.
* `TargetGraph.Label.repository?`, `TargetGraph.Label.package`, `TargetGraph.Label.name` — its three
  parts.
-/

namespace TargetGraph

open Text

/-- A target label, as its canonical text. -/
structure Label where
  /-- The canonical text, `@repository//package:name` or `//package:name`. -/
  text : String
  deriving DecidableEq, Repr

namespace Label

/-- Labels are ordered by the code points of their texts. -/
instance : Ord Label := ⟨compareOn Label.text⟩

instance : Std.TransOrd Label := inferInstanceAs (Std.TransCmp (compareOn Label.text))

instance : Std.LawfulEqOrd Label where
  eq_of_compare {a b} h := by
    obtain ⟨a⟩ := a
    obtain ⟨b⟩ := b
    exact congrArg Label.mk (Std.LawfulEqOrd.eq_of_compare (show compare a b = .eq from h))

/-- What may stand before the `//`: nothing, or `@` and a repository name without a colon. -/
def isRepositoryPart (cs : List Char) : Bool :=
  cs.isEmpty || (cs.head? == some '@' && !cs.contains ':')

/-- The component after the last slash, the whole when there is none. -/
def lastComponent (cs : List Char) : List Char :=
  ((cutAtLast '/' cs).map Prod.snd).getD cs

/-- The canonical text of a label given what stands after its `//`, or `none` where that is not
`package:name` or a package alone. -/
def canonical? (raw : String) (rest : List Char) : Option String :=
  match cutAt ':' rest with
  | some (package, name) =>
    if name.isEmpty || name.contains ':' || package.head? == some '/' ||
        package.getLast? == some '/' then none
    else some raw
  | none =>
    let last := lastComponent rest
    if last.isEmpty || rest.head? == some '/' then none else some (raw ++ ":" ++ String.ofList last)

/-- The label that `raw` writes: no white space, an optional `@repository`, then `//package:name`
or the shorthand `//package`. -/
def parse? (raw : String) : Option Label :=
  if raw.toList.any isBlank then none
  else match cutAtSlashes raw.toList with
    | none => none
    | some (repository, rest) =>
      if isRepositoryPart repository then (canonical? raw rest).map Label.mk else none

/-- The repository's name without its `@`, for a label outside the workspace. -/
def repository? (label : Label) : Option String :=
  match cutAtSlashes label.text.toList with
  | some ('@' :: repository, _) => some (String.ofList repository)
  | _ => none

/-- The package: what stands between the first `//` and the last colon. -/
def package (label : Label) : String :=
  let rest := ((cutAtSlashes label.text.toList).map Prod.snd).getD label.text.toList
  String.ofList (((cutAtLast ':' rest).map Prod.fst).getD rest)

/-- The name: what stands after the last colon. -/
def name (label : Label) : String :=
  String.ofList (((cutAtLast ':' label.text.toList).map Prod.snd).getD label.text.toList)

/-- How a label is shown inside a message. -/
def described (label : Label) : String :=
  "Label(" ++ label.text ++ ")"

end Label

end TargetGraph
