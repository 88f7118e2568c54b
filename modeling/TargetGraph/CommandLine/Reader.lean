import TargetGraph.Command.Request
import TargetGraph.CommandLine.Option

set_option relaxedAutoImplicit false
set_option autoImplicit false

/-!
# Reading command lines

## Main definitions

* `TargetGraph.CommandLine.read` — the request that the words of a command line make.
* `TargetGraph.CommandLine.Accepted` — the words make a request.
-/

namespace TargetGraph.CommandLine

/-- The options of every level. -/
def commonFlags : List Flag := [.verbose, .quiet, .help]

/-- The options of a task. -/
def taskFlags : List Flag := [.path, .config, .input, .format] ++ commonFlags

/-- The names of the questions. -/
def questionNames : List String := ["owner", "deps", "closure", "sources", "dependents"]

/-- The first level. -/
def firstLevel : Level where
  flags := .version :: commonFlags
  commands := ["sync", "query", "completions", "help"]

/-- The level of queries. -/
def queryLevel : Level where
  flags := commonFlags
  commands := questionNames ++ ["help"]

/-- The level of completion scripts. -/
def completionsLevel : Level where
  flags := commonFlags
  words := 1

/-- The level of a task, with options of its own. -/
def taskLevel (flags : List Flag) : Level where
  flags := flags ++ taskFlags

/-- The value of an option that has to be given. -/
def Given.required (given : Given) (flag : Flag) : Except Stop String :=
  match given.lookup flag with
  | some value => .ok value
  | none => .error .misuse

/-- Where a task gets its snapshot from, by its options. -/
def Given.source (given : Given) : Source where
  root := (given.lookup .path).map SourcePath.mk
  settingsFile := (given.lookup .config).map SourcePath.mk
  input := (given.lookup .input).map SourcePath.mk

/-- The format of results, by the options. -/
def Given.format (given : Given) : Format :=
  ((given.lookup .format).bind Format.ofName?).getD .text

/-- The selection of source files, by the options; a rule class goes before a kind. -/
def Given.selection (given : Given) : Selection :=
  match given.lookup .ruleKind, given.lookup .kind with
  | some kind, _ => .ruleKind kind
  | none, some "language" => .language
  | none, some "android" => .android
  | none, _ => .all

/-- A task without more words on its level. -/
def readTask (flags : List Flag) (task : Given → Except Stop Task) (quiet : Bool)
    (words : List String) : Except Stop Request := do
  let scan ← (taskLevel flags).scan [] [] none words
  let task ← task scan.given
  return .task scan.given.source task scan.given.format (quiet || scan.given.has .quiet)

/-- A question by its name. -/
def readQuestion (name : String) (quiet : Bool) (words : List String) : Except Stop Request :=
  match name with
  | "owner" =>
    readTask [.file] (fun given => do return .ask (.owner ⟨← given.required .file⟩)) quiet words
  | "deps" =>
    readTask [.file] (fun given => do return .ask (.deps ⟨← given.required .file⟩)) quiet words
  | "closure" =>
    readTask [.target] (fun given => do
      return .ask (.closure (← given.required .target))) quiet words
  | "sources" =>
    readTask [.kind, .ruleKind] (fun given => .ok (.ask (.sources given.selection))) quiet words
  | "dependents" =>
    readTask [.dependency] (fun given => do
      return .ask (.dependents (← given.required .dependency))) quiet words
  | _ => .error .misuse

/-- Help is asked for with the names of a command, which has to exist. -/
def readHelp (commands : List String) : List String → Except Stop Request
  | [] => .error .help
  | [name] => if commands.contains name then .error .help else .error .misuse
  | ["query", name] =>
    if commands.contains "query" && queryLevel.commands.contains name then .error .help
    else .error .misuse
  | _ => .error .misuse

/-- The words behind `query`. -/
def readQuery (quiet : Bool) (words : List String) : Except Stop Request := do
  let scan ← queryLevel.scan [] [] none words
  match scan.command with
  | none => .error .misuse
  | some ("help", names) => readHelp queryLevel.commands names
  | some (name, rest) => readQuestion name (quiet || scan.given.has .quiet) rest

/-- The words behind `completions`. -/
def readCompletions (words : List String) : Except Stop Request := do
  let scan ← completionsLevel.scan [] [] none words
  match scan.words.map Shell.ofName? with
  | [some shell] => return .completions shell
  | _ => .error .misuse

/-- All words, or why they are not read to the end. -/
def readWords (words : List String) : Except Stop Request := do
  let scan ← firstLevel.scan [] [] none words
  match scan.command with
  | none => .error .misuse
  | some ("help", names) => readHelp firstLevel.commands names
  | some ("sync", rest) => readTask [] (fun _ => .ok .sync) (scan.given.has .quiet) rest
  | some ("query", rest) => readQuery (scan.given.has .quiet) rest
  | some (_, rest) => readCompletions rest

/-- The request that the words of a command line make, if they make one. -/
def read (words : List String) : Option Request :=
  match readWords words with
  | .ok request => some request
  | .error .help => some .help
  | .error .version => some .version
  | .error .misuse => none

/-- The words make a request. -/
def Accepted (words : List String) : Prop :=
  (read words).isSome = true

instance (words : List String) : Decidable (Accepted words) :=
  inferInstanceAs (Decidable (_ = true))

end TargetGraph.CommandLine
