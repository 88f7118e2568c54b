set_option relaxedAutoImplicit false
set_option autoImplicit false

/-!
# Wildcard patterns

## Main definitions

* `TargetGraph.Script.Wildcard`, `TargetGraph.Script.wildcards` — patterns, and the one that a text
  writes.
* `TargetGraph.Script.fits` — a text fits a pattern as a whole.
* `TargetGraph.Script.trim` — a text without what fits a pattern at one end.
-/

namespace TargetGraph.Script

/-- A part of a pattern. -/
inductive Wildcard where
  /-- Any text. -/
  | anything
  /-- Any character. -/
  | any
  /-- A character of some ranges, or of none of them. -/
  | range (negated : Bool) (ranges : List (Char × Char))
  /-- One character. -/
  | exactly (c : Char)
  deriving DecidableEq, Repr

/-- The ranges that some characters between brackets write. -/
def rangesOf : List Char → List (Char × Char)
  | low :: '-' :: high :: rest => (low, high) :: rangesOf rest
  | c :: rest => (c, c) :: rangesOf rest
  | [] => []

/-- The pattern that a text writes; characters that are marked stand for themselves. The number
bounds the length. -/
def wildcardsWithin : Nat → List (Char × Bool) → List Wildcard
  | 0, _ => []
  | _, [] => []
  | n + 1, (c, literal) :: rest =>
    if literal then .exactly c :: wildcardsWithin n rest
    else if c = '*' then .anything :: wildcardsWithin n rest
    else if c = '?' then .any :: wildcardsWithin n rest
    else if c = '[' then
      let negated := rest.head?.any fun (d, literal) => !literal && (d == '!' || d == '^')
      let body := if negated then rest.drop 1 else rest
      let inner := body.take 1 ++ (body.drop 1).takeWhile fun (d, literal) => literal || d != ']'
      match body.drop inner.length with
      | [] => .exactly c :: wildcardsWithin n rest
      | _ :: after => .range negated (rangesOf (inner.map Prod.fst)) :: wildcardsWithin n after
    else .exactly c :: wildcardsWithin n rest

/-- The pattern that a text writes; characters that are marked stand for themselves. -/
def wildcards (text : List (Char × Bool)) : List Wildcard :=
  wildcardsWithin text.length text

/-- A text fits a pattern as a whole. -/
def fits : List Wildcard → List Char → Bool
  | [], cs => cs.isEmpty
  | .anything :: rest, [] => fits rest []
  | .anything :: rest, c :: cs => fits rest (c :: cs) || fits (.anything :: rest) cs
  | _ :: _, [] => false
  | .any :: rest, _ :: cs => fits rest cs
  | .range negated ranges :: rest, c :: cs =>
    (negated != ranges.any fun (low, high) => low ≤ c && c ≤ high) && fits rest cs
  | .exactly d :: rest, c :: cs => c == d && fits rest cs
termination_by pattern cs => pattern.length + cs.length

/-- A text without the shortest or longest part at one end that fits a pattern. -/
def trim (pattern : List Wildcard) (atEnd longest : Bool) (text : List Char) : List Char :=
  let sizes := List.range (text.length + 1)
  let ordered := if longest then sizes.reverse else sizes
  let cut (size : Nat) : List Char × List Char :=
    if atEnd then (text.drop (text.length - size), text.take (text.length - size))
    else (text.take size, text.drop size)
  match ordered.find? fun size => fits pattern (cut size).1 with
  | some size => (cut size).2
  | none => text

end TargetGraph.Script
