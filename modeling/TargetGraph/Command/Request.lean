import TargetGraph.Selection
import TargetGraph.Workspace

set_option relaxedAutoImplicit false
set_option autoImplicit false

/-!
# Requests

## Main definitions

* `TargetGraph.Question` — what can be asked about a snapshot.
* `TargetGraph.Task`, `TargetGraph.Request` — what a command line asks for.
* `TargetGraph.Shell` — the shells that a completion script may be asked for.
-/

namespace TargetGraph

/-- A question about a snapshot. Labels are still as they were written. -/
inductive Question where
  /-- The rule that owns a file. -/
  | owner (file : SourcePath)
  /-- The external labels that a file reaches. -/
  | deps (file : SourcePath)
  /-- The external labels that a target reaches. -/
  | closure (target : String)
  /-- The source files of a selection. -/
  | sources (selection : Selection)
  /-- The source files that reach an external label. -/
  | dependents (dependency : String)
  deriving Repr

/-- Something to do with the snapshot of a workspace. -/
inductive Task where
  /-- Only to make it. -/
  | sync
  /-- To ask about it. -/
  | ask (question : Question)
  deriving Repr

/-- The shells that a completion script may be asked for. -/
inductive Shell where
  /-- The shell `bash`. -/
  | bash
  /-- The shell `elvish`. -/
  | elvish
  /-- The shell `fish`. -/
  | fish
  /-- The shell `powershell`. -/
  | powershell
  /-- The shell `zsh`. -/
  | zsh
  deriving DecidableEq, Repr

/-- The shell of a name. -/
def Shell.ofName? : String → Option Shell
  | "bash" => some .bash
  | "elvish" => some .elvish
  | "fish" => some .fish
  | "powershell" => some .powershell
  | "zsh" => some .zsh
  | _ => none

/-- What a command line asks for. -/
inductive Request where
  /-- A task on the workspace of a source, with results in a format. If it is to be quiet, what is
  not a result is not printed. -/
  | task (source : Source) (task : Task) (format : Format) (quiet : Bool)
  /-- A completion script. -/
  | completions (shell : Shell)
  /-- The version. -/
  | version
  /-- Help. -/
  | help
  deriving Repr

end TargetGraph
