set_option relaxedAutoImplicit false
set_option autoImplicit false

/-!
# Vocabulary

Which rule classes carry sources, and which of their attributes hold sources and dependencies.

## Main definitions

* `TargetGraph.Vocabulary` — the names that mean something.
* `TargetGraph.VocabularySettings`, `TargetGraph.Vocabulary.ofSettings` — the usual names, replaced
  where the settings say so.
* `TargetGraph.Role`, `TargetGraph.Vocabulary.role` — what an attribute holds.
-/

namespace TargetGraph

/-- The names that mean something in a report. -/
structure Vocabulary where
  /-- The rule classes that carry sources. -/
  sourceKinds : List String :=
    ["java_library", "java_binary", "java_test", "java_plugin", "java_proto_library",
      "java_lite_proto_library", "android_library", "android_binary", "android_local_test",
      "android_instrumentation_test", "kt_jvm_library", "kt_jvm_binary", "kt_jvm_test",
      "kt_android_library"]
  /-- The attributes that hold sources. -/
  sourceAttributes : List String := ["srcs"]
  /-- The attributes that hold dependencies. -/
  dependencyAttributes : List String := ["deps", "runtime_deps", "exports"]
  deriving DecidableEq, Repr

/-- The names that the settings give instead of the usual ones. -/
structure VocabularySettings where
  /-- The rule classes that carry sources. -/
  sourceKinds : Option (List String) := none
  /-- The attributes that hold sources. -/
  sourceAttributes : Option (List String) := none
  /-- The attributes that hold dependencies. -/
  dependencyAttributes : Option (List String) := none
  deriving DecidableEq, Repr

/-- What an attribute holds. -/
inductive Role where
  /-- Sources. -/
  | source
  /-- Dependencies. -/
  | dependency
  /-- Nothing of interest. -/
  | neither
  deriving DecidableEq, Repr

namespace Vocabulary

/-- The usual names, each list replaced by the one in the settings if there is one. -/
def ofSettings (settings : Option VocabularySettings) : Vocabulary :=
  let usual : Vocabulary := {}
  match settings with
  | none => usual
  | some given =>
    { sourceKinds := given.sourceKinds.getD usual.sourceKinds
      sourceAttributes := given.sourceAttributes.getD usual.sourceAttributes
      dependencyAttributes := given.dependencyAttributes.getD usual.dependencyAttributes }

/-- Rules of this class carry sources. -/
def isSourceKind (v : Vocabulary) (kind : String) : Bool :=
  v.sourceKinds.contains kind

/-- What the attribute of this name holds; sources, if it is named for both. -/
def role (v : Vocabulary) (name : String) : Role :=
  if v.sourceAttributes.contains name then .source
  else if v.dependencyAttributes.contains name then .dependency
  else .neither

end Vocabulary

end TargetGraph
