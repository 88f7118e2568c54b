import TargetGraph.Script.Evaluate
import TargetGraph.Tool.Run

set_option relaxedAutoImplicit false
set_option autoImplicit false

/-!
# Tools that are scripts

What a shell makes of a build tool that is a script. This and all that it is built on only serve the
host that is the machine, which has no processes to start. Commands take any host, and every result
about them holds for any host; none rests on how scripts are run here.

## Main definitions

* `TargetGraph.Script.runTool` — what becomes of a call, if its program is a shell, a script, or one
  of the simple programs that scripts use.
-/

namespace TargetGraph.Script

/-- The shells. -/
def shells : List String := ["sh", "bash", "dash"]

/-- The simple programs that need no script. -/
def simplePrograms : List String :=
  ["sleep", "cat", "echo", "printf", "true", "false", "pwd", "test", "[", "seq", "head", "tail",
    "dirname", "basename"]

/-- The greatest depth of what a script does, and the greatest number of rounds of its loops. -/
def patience : Nat := 20000

section

variable {m : Type → Type} [Monad m]

/-- There is a zero byte in a name or an argument of a call. -/
def hasZeroByte (call : ToolCall) : Bool :=
  let texts := call.program :: call.arguments ++
    (call.directory.map SourcePath.text).toList ++
    call.environment.flatMap fun (name, value) => [name, value]
  texts.any fun text => text.toList.contains (Char.ofNat 0)

/-- Why a program in a file cannot be started, if it cannot. -/
def obstacle? (files : Files m) (file : SourcePath) : m (Option SystemError) := do
  match ← files.kind file with
  | .error cause => return some cause
  | .ok .directory | .ok (.file false) => return some .denied
  | .ok (.file true) =>
    match ← files.read file with
    | .error cause => return some cause
    | .ok bytes => return if (strictness? (octets bytes)).isSome then none else some .notFound

/-- Why the program of a call cannot be started, if it cannot. -/
def programObstacle? (files : Files m) (program : String) : m (Option SystemError) :=
  if program.toList.contains '/' then obstacle? files ⟨program⟩
  else return if shells.contains program || simplePrograms.contains program then none
    else some .notFound

/-- Why the directory of a call cannot be gone to, if it cannot. -/
def directoryObstacle? (files : Files m) (directory : SourcePath) : m (Option SystemError) := do
  match ← files.kind directory with
  | .error cause => return some cause
  | .ok .directory => return none
  | .ok (.file _) => return some .notDirectory

/-- What became of a program. -/
def result (leaving : Except Leaving Unit) (s : State) : ToolRun :=
  let output (number : Nat) := ofOctets (s.buffers.getD number "")
  match leaving with
  | .error .endless => .endless
  | .error .killed => .ended none (output 0) (output 1) s.elapsed
  | _ => .ended (some (Int.ofNat s.status)) (output 0) (output 1) s.elapsed

/-- What becomes of a call in a directory, where relative paths start. -/
def runTool (files : Files m) (here : SourcePath) (call : ToolCall) : m ToolRun := do
  if hasZeroByte call then return .refused .zeroByte
  match ← directoryObstacle? (files.below here) (call.directory.getD ⟨"."⟩) with
  | some cause => return .refused cause
  | none =>
    let directory := direct (here.join (call.directory.getD ⟨"."⟩))
    match ← programObstacle? (files.below directory) call.program with
    | some cause => return .refused cause
    | none =>
      let program := octets (Text.utf8 call.program)
      let values := call.environment.reverse.map fun (name, value) =>
        (octets (Text.utf8 name), octets (Text.utf8 value))
      let start : State := {
        name := program
        directory
        values
        exported := values.map Prod.fst }
      let arguments := call.arguments.map fun text => octets (Text.utf8 text)
      let (leaving, after) ← (runProgram files patience program arguments).run start
      return result leaving after

end

end TargetGraph.Script
