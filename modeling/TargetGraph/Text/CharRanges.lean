set_option relaxedAutoImplicit false
set_option autoImplicit false

/-!
# Sets of characters as ranges of code points

Unicode properties are data: lists of ranges of code points, both ends included.

## Main definitions

* `TargetGraph.Text.inRanges` — membership of a character in such a list.
-/

namespace TargetGraph.Text

/-- The character lies in one of the ranges, both ends included. -/
def inRanges (ranges : List (Nat × Nat)) (c : Char) : Bool :=
  ranges.any fun range => range.1 ≤ c.toNat && c.toNat ≤ range.2

end TargetGraph.Text
