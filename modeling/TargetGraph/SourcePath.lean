import TargetGraph.Text.Cut

set_option relaxedAutoImplicit false
set_option autoImplicit false

/-!
# Source paths

A path keeps the text it was written as, and means its components: repeated slashes, a slash at
the end and `.` components (other than a leading one) make no difference. Paths are equal, and
ordered, by their components; they print as they were written.

## Main definitions

* `TargetGraph.Component`, `TargetGraph.SourcePath`, `TargetGraph.SourcePath.components`.
* `TargetGraph.SourcePath.join` — a path below another.
* `TargetGraph.SourcePath.parent?`, `TargetGraph.SourcePath.ancestors` — the way up.
* `TargetGraph.SourcePath.below` — a path relative to a root that contains it.
-/

namespace TargetGraph

open Text

/-- A component of a path. -/
inductive Component where
  /-- The leading slash of an absolute path. -/
  | root
  /-- A leading `.`. -/
  | current
  /-- `..`. -/
  | parent
  /-- A name. -/
  | named (name : String)
  deriving DecidableEq, Repr

namespace Component

/-- The place of a component among others: the root first, then `.`, then `..`, then the names in
the order of their code points. -/
def rank : Component → Nat × String
  | .root => (0, "")
  | .current => (1, "")
  | .parent => (2, "")
  | .named name => (3, name)

/-- Components are told apart by their places. -/
theorem rank_injective {a b : Component} (h : a.rank = b.rank) : a = b := by
  cases a <;> cases b <;> simp_all [rank]

/-- Places are compared number first, name second. -/
def compareRanks (a b : Component) : Ordering :=
  compareLex (compareOn fun c => c.rank.1) (compareOn fun c => c.rank.2) a b

instance : Ord Component := ⟨compareRanks⟩

instance : Std.TransOrd Component :=
  inferInstanceAs (Std.TransCmp
    (compareLex (compareOn fun c : Component => c.rank.1) (compareOn fun c => c.rank.2)))

instance : Std.LawfulEqOrd Component where
  eq_of_compare {a b} h := by
    have both := Ordering.then_eq_eq.mp (show ((compareOn (fun c : Component => c.rank.1) a b).then
      (compareOn (fun c : Component => c.rank.2) a b)) = .eq from h)
    exact rank_injective (Prod.ext (Std.LawfulEqOrd.eq_of_compare both.1)
      (Std.LawfulEqOrd.eq_of_compare both.2))

/-- The component that a part between slashes writes: none for nothing and for `.`. -/
def ofPart? (part : List Char) : Option Component :=
  if part = [] ∨ part = ['.'] then none
  else if part = ['.', '.'] then some .parent
  else some (.named (String.ofList part))

end Component

/-- A path, as the text it was written as. -/
structure SourcePath where
  /-- The text, which is what prints. -/
  text : String
  deriving Repr

namespace SourcePath

/-- The component that the start of the text writes before any part between slashes: the root for a
leading slash, `.` for a leading `.` part. -/
def leading? (path : SourcePath) : Option Component :=
  match path.text.toList with
  | '/' :: _ => some .root
  | ['.'] => some .current
  | '.' :: '/' :: _ => some .current
  | _ => none

/-- The text of the leading component. -/
def leadText (path : SourcePath) : List Char :=
  match path.leading? with
  | none => []
  | some _ => path.text.toList.take 1

/-- The parts between slashes behind the leading component. -/
def parts (path : SourcePath) : List (List Char) :=
  fields '/' (path.text.toList.drop path.leadText.length)

/-- What the path means. -/
def components (path : SourcePath) : List Component :=
  path.leading?.toList ++ path.parts.filterMap Component.ofPart?

/-- Paths are the same when their components are. -/
instance : BEq SourcePath := ⟨fun a b => a.components == b.components⟩

/-- Paths are ordered as their components are. -/
instance : Ord SourcePath := ⟨compareOn SourcePath.components⟩

instance : Std.TransOrd SourcePath :=
  inferInstanceAs (Std.TransCmp (compareOn SourcePath.components))

/-- Two paths compare equal exactly when they have the same components. -/
theorem compare_eq_iff {a b : SourcePath} : compare a b = .eq ↔ a.components = b.components := by
  show compare a.components b.components = .eq ↔ _
  exact Std.LawfulEqCmp.compare_eq_iff_eq

/-- The path starts at the root. -/
def isAbsolute (path : SourcePath) : Bool :=
  path.text.toList.head? == some '/'

/-- The path `child` taken below `base`; an absolute one is taken as it is. -/
def join (base child : SourcePath) : SourcePath :=
  if child.isAbsolute then child
  else if base.text.isEmpty || base.text.toList.getLast? == some '/' then ⟨base.text ++ child.text⟩
  else ⟨base.text ++ "/" ++ child.text⟩

/-- The part writes a component. -/
def isSignificant (part : List Char) : Bool :=
  (Component.ofPart? part).isSome

/-- The parts up to the last one that writes a component. -/
def trimEnd (parts : List (List Char)) : List (List Char) :=
  (parts.reverse.dropWhile fun part => !isSignificant part).reverse

/-- The parts behind the first `count` ones that write a component. -/
def dropComponents : Nat → List (List Char) → List (List Char)
  | 0, parts => parts
  | _ + 1, [] => []
  | count + 1, part :: rest =>
    if isSignificant part then dropComponents count rest else dropComponents (count + 1) rest

/-- The path whose text is `lead` and then the parts with slashes between them. -/
def assemble (lead : List Char) (parts : List (List Char)) : SourcePath :=
  ⟨String.ofList (lead ++ joinFields '/' parts)⟩

/-- The path without its last component; the root and the empty path have none to lose. -/
def parent? (path : SourcePath) : Option SourcePath :=
  match trimEnd path.parts with
  | [] => if path.leading? = some .current then some ⟨""⟩ else none
  | parts => some (assemble path.leadText (trimEnd parts.dropLast))

/-- The path and at most `steps` paths above it, nearest first. -/
def ancestorsWithin : Nat → SourcePath → List SourcePath
  | 0, path => [path]
  | steps + 1, path =>
    match path.parent? with
    | none => [path]
    | some parent => path :: ancestorsWithin steps parent

/-- The path and all the paths above it, nearest first. -/
def ancestors (path : SourcePath) : List SourcePath :=
  ancestorsWithin path.components.length path

/-- The path `file` relative to `root`, where the components of `root` are the first ones of
`file`. -/
def below? (root file : SourcePath) : Option SourcePath :=
  if root.components.isPrefixOf file.components then
    let parts := trimEnd file.parts
    if root.components.isEmpty then some (assemble file.leadText parts)
    else
      let count := root.components.length - file.leading?.toList.length
      some (assemble [] ((dropComponents count parts).dropWhile fun part => !isSignificant part))
  else none

end SourcePath

end TargetGraph
