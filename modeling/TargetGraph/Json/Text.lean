import TargetGraph.Json.Scanner

set_option relaxedAutoImplicit false
set_option autoImplicit false

/-!
# Documents that are a text

## Main definitions

* `TargetGraph.Json.readText?` — the text that a JSON document writes, if it is one.
-/

namespace TargetGraph.Json

/-- The bytes without the spaces at their two ends. -/
def trimSpaces (bytes : List UInt8) : List UInt8 :=
  ((bytes.dropWhile isSpace).reverse.dropWhile isSpace).reverse

/-- The text that a JSON document writes: one text, with spaces around it. -/
def readText? (document : List UInt8) : Option String :=
  match trimSpaces document with
  | 0x22 :: rest =>
    match Progress.feed (.reading ⟨[], .text false [] .outside⟩) rest with
    | .complete value => value.text?
    | .reading _ | .malformed => none
  | _ => none

end TargetGraph.Json
