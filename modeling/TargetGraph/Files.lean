import TargetGraph.SourcePath
import TargetGraph.SystemError

set_option relaxedAutoImplicit false
set_option autoImplicit false

/-!
# Files

Files are reached through a record of actions, so that the same code runs on the files of a machine
and on a tree of files that is only a value.

## Main definitions

* `TargetGraph.FileKind` — what a path leads to.
* `TargetGraph.Files` — the actions.
* `TargetGraph.Files.below` — the same files with relative paths taken below a directory.
-/

namespace TargetGraph

/-- What a path leads to. -/
inductive FileKind where
  /-- A directory. -/
  | directory
  /-- A file, which may be a program. -/
  | file (executable : Bool)
  deriving DecidableEq, Repr

/-- Access to files. -/
structure Files (m : Type → Type) where
  /-- What a path leads to. -/
  kind : SourcePath → m (Except SystemError FileKind)
  /-- The bytes of a file. -/
  read : SourcePath → m (Except SystemError (List UInt8))

namespace Files

variable {m : Type → Type}

/-- A path leads to a file. -/
def isFile [Monad m] (files : Files m) (path : SourcePath) : m Bool := do
  match ← files.kind path with
  | .ok (.file _) => return true
  | _ => return false

/-- The same files, where relative paths start at a directory. The empty path leads nowhere. -/
def below [Monad m] (files : Files m) (directory : SourcePath) : Files m where
  kind path :=
    if path.text.isEmpty then pure (.error .notFound) else files.kind (directory.join path)
  read path :=
    if path.text.isEmpty then pure (.error .notFound) else files.read (directory.join path)

end Files

end TargetGraph
