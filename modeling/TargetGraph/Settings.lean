import TargetGraph.Vocabulary

set_option relaxedAutoImplicit false
set_option autoImplicit false

/-!
# Settings

What a workspace may say about how it wants to be synced. Everything may be left out.

## Main definitions

* `TargetGraph.QuerySettings`, `TargetGraph.Settings` — the settings.
* `TargetGraph.settingsFileName` — where they are kept in a workspace.
-/

namespace TargetGraph

/-- The name of the settings file in the root of a workspace. -/
def settingsFileName : String := "querysync.toml"

/-- How the build tool is asked. -/
structure QuerySettings where
  /-- The build tool's program. -/
  binary : Option String := none
  /-- The targets to ask for. -/
  targets : Option (List String) := none
  /-- More flags for the tool. -/
  flags : Option (List String) := none
  /-- The format of printed results. -/
  defaultFormat : Option String := none
  /-- Whether closures are worked out before a snapshot is published. -/
  warmCache : Option Bool := none
  deriving DecidableEq, Repr

/-- The settings of a workspace. -/
structure Settings where
  /-- Where the build tool runs, relative to the workspace root. -/
  root : Option String := none
  /-- How the build tool is asked. -/
  query : Option QuerySettings := none
  /-- The vocabulary of its reports. -/
  rules : Option VocabularySettings := none
  deriving DecidableEq, Repr

namespace Settings

/-- The format of printed results, if the settings name one. -/
def defaultFormat? (s : Settings) : Option String :=
  s.query.bind QuerySettings.defaultFormat

/-- Closures are worked out in advance. -/
def warmCache (s : Settings) : Bool :=
  (s.query.bind QuerySettings.warmCache).getD false

end Settings

end TargetGraph
