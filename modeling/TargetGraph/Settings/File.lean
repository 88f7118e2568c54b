import TargetGraph.Settings
import TargetGraph.Text.Utf8
import TargetGraph.Toml.Reader

set_option relaxedAutoImplicit false
set_option autoImplicit false

/-!
# Settings files

A settings file is a TOML document. Keys that mean nothing are passed over; a known key with a value
of a wrong type makes the whole file invalid.

## Main definitions

* `TargetGraph.Toml.Value.fields?` — the fields of a record.
* `TargetGraph.Settings.ofBytes?` — the settings in a file.
-/

namespace TargetGraph

open Toml

namespace Toml.Value

/-- The text that a value is. -/
def text? : Value → Option String
  | .text value => some value
  | _ => none

/-- The truth value that a value is. -/
def bool? : Value → Option Bool
  | .bool value => some value
  | _ => none

/-- The texts that a value lists. -/
def texts? : Value → Option (List String)
  | .array items => items.mapM text?
  | _ => none

/-- The values of a record's fields. A record is written as a table, in which fields may be missing,
or as an array of the fields in their order, all of them present and perhaps more behind them. A
time counts as a table with no known key. -/
def fields? (names : List String) : Value → Option (List (Option Value))
  | .table entries => some (names.map fun name => entries.lookup name)
  | .array items =>
    if names.length ≤ items.length then some ((items.take names.length).map some) else none
  | .time => some (names.map fun _ => none)
  | _ => none

end Toml.Value

/-- The value of a field that may be missing but not be of a wrong type. -/
def readField {α : Type} (read : Value → Option α) : Option Value → Option (Option α)
  | none => some none
  | some value => (read value).map some

/-- How the build tool is asked, as a value says it. -/
def QuerySettings.ofValue? (value : Value) : Option QuerySettings := do
  match ← value.fields? ["binary", "targets", "flags", "default_format", "warm_cache"] with
  | [binary, targets, flags, defaultFormat, warmCache] =>
    return { binary := ← readField Value.text? binary
             targets := ← readField Value.texts? targets
             flags := ← readField Value.texts? flags
             defaultFormat := ← readField Value.text? defaultFormat
             warmCache := ← readField Value.bool? warmCache }
  | _ => none

/-- The vocabulary that a value gives. -/
def VocabularySettings.ofValue? (value : Value) : Option VocabularySettings := do
  match ← value.fields? ["source_kinds", "source_attributes", "dependency_attributes"] with
  | [sourceKinds, sourceAttributes, dependencyAttributes] =>
    return { sourceKinds := ← readField Value.texts? sourceKinds
             sourceAttributes := ← readField Value.texts? sourceAttributes
             dependencyAttributes := ← readField Value.texts? dependencyAttributes }
  | _ => none

namespace Settings

/-- The settings that the entries of a document make. -/
def ofEntries? (entries : List (String × Value)) : Option Settings := do
  return { root := ← readField Value.text? (entries.lookup "root")
           query := ← readField QuerySettings.ofValue? (entries.lookup "query")
           rules := ← readField VocabularySettings.ofValue? (entries.lookup "rules") }

/-- The settings in a file, if its bytes are a text, the text is a TOML document and the document is
one of settings. -/
def ofBytes? (bytes : List UInt8) : Option Settings := do
  let text ← Text.ofUtf8? bytes
  let entries ← Toml.parse? text
  ofEntries? entries

end Settings

end TargetGraph
