import TargetGraph.Text.CharRanges

set_option relaxedAutoImplicit false
set_option autoImplicit false

/-!
# White space

The characters of the Unicode property White_Space. Labels may hold none of them, and an
argument that holds one is quoted when a command line is printed.

## Main definitions

* `TargetGraph.Text.isBlank` — the property, for one character.
* `TargetGraph.Text.trim` — a text without the blanks at its two ends.
-/

namespace TargetGraph.Text

/-- The code points of White_Space. -/
def blankRanges : List (Nat × Nat) :=
  [(0x9, 0xd), (0x20, 0x20), (0x85, 0x85), (0xa0, 0xa0), (0x1680, 0x1680), (0x2000, 0x200a),
    (0x2028, 0x2029), (0x202f, 0x202f), (0x205f, 0x205f), (0x3000, 0x3000)]

/-- The character is white space. -/
def isBlank (c : Char) : Bool :=
  inRanges blankRanges c

/-- The text without the blanks at its two ends. -/
def trim (text : String) : String :=
  String.ofList ((text.toList.dropWhile isBlank).reverse.dropWhile isBlank).reverse

end TargetGraph.Text
