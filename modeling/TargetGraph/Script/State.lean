import TargetGraph.Files
import TargetGraph.Script.Command
import TargetGraph.Text.Utf8

set_option relaxedAutoImplicit false
set_option autoImplicit false

/-!
# The state of a script

## Main definitions

* `TargetGraph.Script.State` — what a script has done so far.
* `TargetGraph.Script.Leaving` — why what comes next is not run.
* `TargetGraph.Script.Action` — what a script does.
* `TargetGraph.Script.octets`, `TargetGraph.Script.ofOctets` — bytes as the characters of scripts,
  and back.
-/

namespace TargetGraph.Script

/-- Bytes as characters below 256. -/
def octets (bytes : List UInt8) : String :=
  String.ofList (bytes.map fun b => Char.ofNat b.toNat)

/-- The bytes that characters below 256 stand for. -/
def ofOctets (text : String) : List UInt8 :=
  text.toList.map fun c => UInt8.ofNat c.toNat

/-- The path that characters below 256 stand for. -/
def pathOf (text : String) : SourcePath :=
  ⟨(Text.ofUtf8? (ofOctets text)).getD text⟩

/-- The numbers of buffers that outputs go to, or nowhere; and what is read. -/
structure Wiring where
  /-- What is read. -/
  input : String := ""
  /-- Where the output goes. -/
  output : Option Nat := some 0
  /-- Where the error output goes. -/
  errors : Option Nat := some 1
  deriving Repr

/-- What a script has done so far. -/
structure State where
  /-- The name of the script, as it shows in messages. -/
  name : String
  /-- Its arguments. -/
  arguments : List String := []
  /-- Its variables. -/
  values : List (String × String) := []
  /-- The names of the variables that programs get. -/
  exported : List String := []
  /-- Its functions. -/
  functions : List (String × Command) := []
  /-- Its directory. -/
  directory : SourcePath
  /-- How the last command ended. -/
  status : Nat := 0
  /-- The line of the last command. -/
  line : Nat := 1
  /-- It ends with the first command that fails and is not a test. -/
  strict : Bool := false
  /-- How many milliseconds it waited. -/
  elapsed : Nat := 0
  /-- Where commands read and write. -/
  wiring : Wiring := {}
  /-- What was written: to the output, to the error output, and to what else was read from. -/
  buffers : Array String := #["", ""]

/-- Why what comes next is not run. -/
inductive Leaving where
  /-- The script ends. -/
  | exit
  /-- The script is ended by a signal. -/
  | killed
  /-- The script goes on without end. -/
  | endless
  /-- The function ends. -/
  | function
  /-- So many loops are left. -/
  | loops (count : Nat)
  /-- All but one of so many loops are left, and that begins its next round. -/
  | round (count : Nat)
  deriving DecidableEq, Repr

/-- What a script does. -/
abbrev Action (m : Type → Type) := ExceptT Leaving (StateT State m)

section

variable {m : Type → Type} [Monad m]

/-- A text is written to a buffer. -/
def write (buffer : Option Nat) (text : String) : Action m Unit :=
  match buffer with
  | none => pure ()
  | some number => modify fun s => { s with buffers := s.buffers.modify number (· ++ text) }

/-- A text is written to the output. -/
def say (text : String) : Action m Unit := do
  write (← get).wiring.output text

/-- A message is written to the error output, behind the name of the script and the line. -/
def complain (message : String) : Action m Unit := do
  let s ← get
  write s.wiring.errors (s.name ++ ": " ++ toString s.line ++ ": " ++ message ++ "\n")

/-- A command ends with a status. -/
def finish (status : Nat) : Action m Unit :=
  modify fun s => { s with status }

/-- The script ends with a status. -/
def leave {α : Type} (status : Nat) : Action m α := do
  finish status
  throw .exit

/-- The script ends with a message. -/
def abandon {α : Type} (message : String) : Action m α := do
  complain message
  leave 2

/-- The value of a variable. -/
def State.variable? (s : State) (name : String) : Option String :=
  s.values.lookup name

/-- A variable gets a value. -/
def assign (name value : String) : Action m Unit :=
  modify fun s => { s with values := (name, value) :: s.values.filter fun v => v.1 != name }

/-- The number that a script takes for that of its process. -/
def processNumber : String := "1000"

/-- The value of a parameter, if it has one. -/
def State.parameter? (s : State) (name : String) : Option String :=
  match name with
  | "@" | "*" => if s.arguments.isEmpty then none else some (" ".intercalate s.arguments)
  | "#" => some (toString s.arguments.length)
  | "?" => some (toString s.status)
  | "$" => some processNumber
  | "!" => none
  | "-" => some ""
  | "0" => some s.name
  | _ =>
    match name.toNat? with
    | some place => s.arguments[place - 1]?
    | none => s.variable? name

/-- An action whose changes of variables, arguments, directory and wiring do not last. -/
def isolated {α : Type} (action : Action m α) : Action m α := fun s => do
  let (result, after) ← action s
  return (result, { s with
    status := after.status
    line := after.line
    elapsed := after.elapsed
    buffers := after.buffers })

/-- An action with its end taken for the end of this command, unless a signal ends the script. -/
def contained (action : Action m Unit) : Action m Unit := fun s => do
  let (result, after) ← action s
  match result with
  | .error .killed => return (.error .killed, after)
  | .error .endless => return (.error .endless, after)
  | _ => return (.ok (), after)

/-- An action with another wiring. -/
def wired {α : Type} (wiring : Wiring) (action : Action m α) : Action m α := fun s => do
  let (result, after) ← action { s with wiring }
  return (result, { after with wiring := s.wiring })

/-- An action that the script does not wait for. -/
def unawaited (action : Action m Unit) : Action m Unit := fun s => do
  let (result, after) ← action s
  return (result, { after with elapsed := s.elapsed, status := 0 })

/-- An action of a function: with other arguments, and until it returns. -/
def called (arguments : List String) (action : Action m Unit) : Action m Unit := fun s => do
  let (result, after) ← action { s with arguments }
  let after := { after with arguments := s.arguments }
  match result with
  | .error .function => return (.ok (), after)
  | result => return (result, after)

/-- An action for which some variables have other values. -/
def supplied {α : Type} (values : List (String × String)) (action : Action m α) : Action m α :=
  fun s => do
    let names := values.map Prod.fst
    let isKept (v : String × String) := !names.contains v.1
    let (result, after) ← action { s with
      values := values ++ s.values.filter isKept
      exported := names ++ s.exported }
    return (result, { after with
      values := (s.values.filter fun v => names.contains v.1) ++ after.values.filter isKept
      exported := s.exported })

/-- An action that may fail without ending the script. -/
def tested {α : Type} (action : Action m α) : Action m α := fun s => do
  let (result, after) ← action { s with strict := false }
  return (result, { after with strict := s.strict })

/-- What an action writes to its output, besides doing it. -/
def captured (action : Action m Unit) : Action m String := do
  let s ← get
  let number := s.buffers.size
  set { s with buffers := s.buffers.push "" }
  wired { s.wiring with output := some number } action
  let after ← get
  set { after with buffers := after.buffers.take number }
  return after.buffers.getD number ""

/-- The lines of a loop are run again as long as they say so, at most so many times. -/
def rounds (body : Action m Bool) : Nat → Action m Unit
  | 0 => throw .endless
  | n + 1 => do if ← body then rounds body n

end

end TargetGraph.Script
