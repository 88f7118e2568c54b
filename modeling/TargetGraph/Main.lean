import TargetGraph.Command.Line
import TargetGraph.Script.Tool

set_option relaxedAutoImplicit false
set_option autoImplicit false

/-!
# The program

The command line on the files of the machine. No process is started: a build tool is run only if it
is a script, or one of the simple programs that scripts use.

## Main definitions

* `TargetGraph.machine` — the machine as a host.
* `main` — the program.
-/

namespace TargetGraph

/-- Why the machine cannot use a file. -/
def systemErrorOf : IO.Error → SystemError
  | .noFileOrDirectory _ _ _ => .notFound
  | .permissionDenied _ _ _ => .denied
  | .inappropriateType _ code _ => if code = 21 then .isDirectory else .notDirectory
  | .invalidArgument _ code _ => if code = 36 then .nameTooLong else .notFound
  | _ => .notFound

/-- An action on a file, or why it is not possible. -/
def attempt {α : Type} (action : IO α) : IO (Except SystemError α) := do
  try return .ok (← action)
  catch e => return .error (systemErrorOf e)

/-- The bytes of a file. -/
def readBytes (path : SourcePath) : IO (List UInt8) := do
  return (← IO.FS.readBinFile path.text).data.toList

/-- What a path leads to. A file counts as a program if it starts as a script does. -/
def kindOf (path : SourcePath) : IO FileKind := do
  let real ← IO.FS.realPath path.text
  match (← real.metadata).type with
  | .dir => return .directory
  | _ => return .file ((← readBytes path).take 2 == [0x23, 0x21])

/-- The files of the machine. -/
def machineFiles : Files IO where
  kind path := attempt (kindOf path)
  read path := attempt (readBytes path)

/-- The machine, seen from its current directory. -/
def machine (here : SourcePath) : Host IO where
  currentDirectory := return here
  files := machineFiles
  run := Script.runTool machineFiles here

/-- How the program is to be called. -/
def usage : String :=
  "Usage: querysync [OPTIONS] <COMMAND>\n\nCommands: sync, query, completions, help\n"

end TargetGraph

open TargetGraph in
/-- Does what the words of the command line ask for. -/
def main (words : List String) : IO UInt32 := do
  let here ← IO.currentDir
  match ← runCommandLine? (machine ⟨here.toString⟩) words with
  | none =>
    IO.eprint usage
    return 2
  | some outcome =>
    IO.print outcome.output
    IO.eprint outcome.errors
    return UInt32.ofNat outcome.code
