import TargetGraph.Json.Document
import TargetGraph.Json.Text
import TargetGraph.Label

set_option relaxedAutoImplicit false
set_option autoImplicit false

/-!
# Labels in JSON

A label is written as a JSON text, and any way of writing it is read.

## Main definitions

* `TargetGraph.Label.json`, `TargetGraph.Label.ofJson?` — the JSON document of a label, and the
  label of a JSON document.
-/

namespace TargetGraph.Label

/-- The JSON document of a label. -/
def json (label : Label) : String :=
  Json.written label.text

/-- The label that a JSON document writes: a text that writes a label. -/
def ofJson? (document : String) : Option Label :=
  (Json.readText? (Text.utf8 document)).bind parse?

end TargetGraph.Label
