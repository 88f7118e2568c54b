import TargetGraph.Script.Builtin
import TargetGraph.Script.Pattern
import TargetGraph.Script.Reader

set_option relaxedAutoImplicit false
set_option autoImplicit false

/-!
# Running scripts

Everything here is bounded by a number that goes down with each nested part and with each round of a
loop; a script that needs more goes on without end, as far as anyone can tell.

## Main definitions

* `TargetGraph.Script.expand` — the fields that words become.
* `TargetGraph.Script.run` — a command.
* `TargetGraph.Script.runText`, `TargetGraph.Script.runProgram` — a script, and a program by its
  name.
-/

namespace TargetGraph.Script

/-! ### Fields -/

/-- What a piece of a word becomes. -/
inductive Fragment where
  /-- A text that is not split; its wildcards have a meaning if it is not quoted. -/
  | solid (text : String) (quoted : Bool)
  /-- A text that is split at blanks. -/
  | loose (text : String)
  /-- A boundary between two fields. -/
  | boundary
  deriving DecidableEq, Repr

/-- The character separates fields. -/
def separatesFields (c : Char) : Bool :=
  c == ' ' || c == '\t' || c == '\n'

/-- A loose text is split: `current` is the field that is open, `done` those before, last first. -/
def splitLoose (current : Option String) (done : List String) :
    List Char → Option String × List String
  | [] => (current, done)
  | c :: rest =>
    if separatesFields c then splitLoose none (current.toList ++ done) rest
    else splitLoose (some ((current.getD "").push c)) done rest

/-- The fields that fragments make. -/
def fields (fragments : List Fragment) : List String :=
  let (current, done) := fragments.foldl (fun (current, done) fragment =>
    match fragment with
    | .solid text _ => (some (current.getD "" ++ text), done)
    | .loose text => splitLoose current done text.toList
    | .boundary => (none, current.toList ++ done)) (none, [])
  (current.toList ++ done).reverse

/-- The text that fragments make where nothing is split. -/
def joined (fragments : List Fragment) : String :=
  String.join (fragments.map fun
    | .solid text _ => text
    | .loose text => text
    | .boundary => " ")

/-- The characters that fragments make, marked where wildcards have no meaning. -/
def marked (fragments : List Fragment) : List (Char × Bool) :=
  fragments.flatMap fun
    | .solid text quoted => text.toList.map fun c => (c, quoted)
    | .loose text => text.toList.map fun c => (c, false)
    | .boundary => [(' ', true)]

/-- A text that is put in: split only if it is not quoted. -/
def put (quoted : Bool) (text : String) : Fragment :=
  if quoted then .solid text true else .loose text

/-- All the arguments of the script, each a field of its own. -/
def putArguments (quoted : Bool) (arguments : List String) : List Fragment :=
  match arguments with
  | [] => []
  | first :: rest => put quoted first :: rest.flatMap fun text => [.boundary, put quoted text]

/-- A text without the line ends at its end. -/
def dropLineEnds (text : String) : String :=
  (text.dropEndWhile (· == '\n')).toString

/-- The value of a variable in an expression; one without a value is zero. -/
def State.numeric (s : State) (name : String) : Option Int :=
  match s.variable? name with
  | none | some "" => some 0
  | some text => number? text

/-- The interpreters of scripts. -/
def interpreters : List String :=
  ["/bin/sh", "/usr/bin/sh", "/bin/bash", "/usr/bin/bash", "/bin/dash", "/usr/bin/dash",
    "/usr/bin/env sh", "/usr/bin/env bash"]

/-- The interpreter that the first line of a program asks for. -/
def interpreter? (text : String) : Option String :=
  match text.toList with
  | '#' :: '!' :: rest =>
    let line := rest.takeWhile (· != '\n')
    some (String.ofList ((line.dropWhile (· == ' ')).reverse.dropWhile (· == ' ')).reverse)
  | _ => none

/-- How a program is run that has this text: nothing if it is no script; else whether it ends with
the first command that fails. -/
def strictness? (text : String) : Option Bool :=
  match interpreter? text with
  | none => some false
  | some line =>
    if interpreters.contains line then some false
    else if line.endsWith " -e" && interpreters.contains (line.dropEnd 3).toString then some true
    else none

section

variable {m : Type → Type} [Monad m]

/-- A strict script ends if its last command failed. -/
def checkStrict : Action m Unit := do
  let s ← get
  if s.strict && s.status != 0 then throw .exit

/-- A redirection is not possible: its command is not run, and has failed. -/
def refuse {α : Type} (message : String) : Action m (Option α) := do
  complain message
  finish 2
  return none

/-- Nothing is done with what is written to a file, but its directory has to exist. -/
def reachable (files : Files m) (path : String) : Action m Bool :=
  kindIs files (directoryPart path) fun kind => kind == .directory

mutual

/-- What a piece of a word becomes. -/
def putPiece (files : Files m) (fuel : Nat) (piece : Piece) : Action m (List Fragment) :=
  match fuel with
  | 0 => throw .endless
  | fuel + 1 => do
    let s ← get
    match piece with
    | .text text quoted => return [.solid text quoted]
    | .parameter "@" quoted => return putArguments quoted s.arguments
    | .parameter name quoted => return [put quoted ((s.parameter? name).getD "")]
    | .length name => return [.loose (toString ((s.parameter? name).getD "").length)]
    | .alternative name fallback emptyIsNone word quoted =>
      let value? := (s.parameter? name).filter fun value => !(emptyIsNone && value.isEmpty)
      match fallback, value? with
      | .invert, none => return []
      | .invert, some _ => putWord files fuel word
      | _, some value => return [put quoted value]
      | .use, none => putWord files fuel word
      | .assign, none =>
        let text := joined (← putWord files fuel word)
        assign name text
        return [put quoted text]
      | .fail, none =>
        let text := joined (← putWord files fuel word)
        let usual := if emptyIsNone then "parameter not set or null" else "parameter not set"
        abandon (name ++ ": " ++ if text.isEmpty then usual else text)
    | .trimmed name atEnd longest pattern quoted =>
      let pattern := wildcards (marked (← putWord files fuel pattern))
      let text := ((s.parameter? name).getD "").toList
      return [put quoted (String.ofList (trim pattern atEnd longest text))]
    | .number expression =>
      let text := joined (← putWord files fuel expression)
      match evaluate (← get).numeric text with
      | .ok value => return [.loose (toString value)]
      | .error fault => abandon (fault.message text)
    | .output script quoted =>
      let text ← captured (contained (isolated (runAll files fuel script)))
      return [put quoted (dropLineEnds text)]

/-- What the pieces of a word become. -/
def putWord (files : Files m) (fuel : Nat) (word : List Piece) : Action m (List Fragment) :=
  match fuel with
  | 0 => throw .endless
  | fuel + 1 =>
    match word with
    | [] => return []
    | piece :: rest => do
      let first ← putPiece files fuel piece
      return first ++ (← putWord files fuel rest)

/-- The fields that words become. -/
def expand (files : Files m) (fuel : Nat) (words : List Word) : Action m (List String) :=
  match fuel with
  | 0 => throw .endless
  | fuel + 1 =>
    match words with
    | [] => return []
    | word :: rest => do
      let first := fields (← putWord files fuel word)
      return first ++ (← expand files fuel rest)

/-- The wiring that redirections make, if they are possible. -/
def rewire (files : Files m) (fuel : Nat) (redirects : List Redirect) : Action m (Option Wiring) :=
  match fuel with
  | 0 => throw .endless
  | fuel + 1 =>
    match redirects with
    | [] => return some (← get).wiring
    | redirect :: rest => do
      let here := (← get).wiring
      let direct (number : Nat) (place : Option Nat) : Option Wiring :=
        some (if number = 2 then { here with errors := place } else { here with output := place })
      let next ← match redirect with
        | .read file =>
          let path := joined (← putWord files fuel file)
          if path == "/dev/null" then pure (some { here with input := "" })
          else match ← contents files path with
            | .ok text => pure (some { here with input := text })
            | .error _ => refuse ("cannot open " ++ path ++ ": No such file")
        | .here text => pure (some { here with input := joined (← putWord files fuel text) })
        | .write number file =>
          let path := joined (← putWord files fuel file)
          if ← reachable files path then pure (direct number none)
          else refuse ("cannot create " ++ path ++ ": Directory nonexistent")
        | .copy number other =>
          match joined (← putWord files fuel other) with
          | "1" => pure (direct number here.output)
          | "2" => pure (direct number here.errors)
          | "-" => pure (direct number none)
          | "0" => pure (some here)
          | name => refuse (name ++ ": Bad file descriptor")
      match next with
      | some next => wired next (rewire files fuel rest)
      | none => return none

/-- Commands, one after another. -/
def runAll (files : Files m) (fuel : Nat) (commands : List Command) : Action m Unit :=
  match fuel with
  | 0 => throw .endless
  | fuel + 1 =>
    match commands with
    | [] => return ()
    | command :: rest => do
      run files fuel command
      runAll files fuel rest

/-- The stages of a pipeline: each but the last writes what the next one reads. -/
def runStages (files : Files m) (fuel : Nat) (stages : List Command) : Action m Unit :=
  match fuel with
  | 0 => throw .endless
  | fuel + 1 =>
    match stages with
    | [] => return ()
    | [last] => contained (isolated (run files fuel last))
    | stage :: rest => do
      let text ← captured (contained (isolated (run files fuel stage)))
      wired { (← get).wiring with input := text } (runStages files fuel rest)

/-- One round of a loop; whether there may be another one. -/
def runRound (files : Files m) (fuel : Nat) (body : Command) : Action m Bool := fun s => do
  match fuel with
  | 0 => return (.error .endless, s)
  | fuel + 1 =>
    let (result, after) ← run files fuel body s
    match result with
    | .error (.loops count) =>
      if count ≤ 1 then return (.ok false, after) else return (.error (.loops (count - 1)), after)
    | .error (.round count) =>
      if count ≤ 1 then return (.ok true, after) else return (.error (.round (count - 1)), after)
    | .error leaving => return (.error leaving, after)
    | .ok () => return (.ok true, after)

/-- A round of a loop for each of some words. -/
def runEach (files : Files m) (fuel : Nat) (name : String) (body : Command)
    (words : List String) : Action m Unit :=
  match fuel with
  | 0 => throw .endless
  | fuel + 1 =>
    match words with
    | [] => return ()
    | word :: rest => do
      assign name word
      if ← runRound files fuel body then runEach files fuel name body rest

/-- The first branch of a selection that has a pattern for a text. -/
def runBranch (files : Files m) (fuel : Nat) (text : List Char)
    (branches : List (List Word × Command)) : Action m Unit :=
  match fuel with
  | 0 => throw .endless
  | fuel + 1 =>
    match branches with
    | [] => finish 0
    | (patterns, body) :: rest => do
      let found ← patterns.anyM fun pattern => do
        return fits (wildcards (marked (← putWord files fuel pattern))) text
      if found then
        finish 0
        run files fuel body
      else runBranch files fuel text rest

/-- A command. -/
def run (files : Files m) (fuel : Nat) (command : Command) : Action m Unit :=
  match fuel with
  | 0 => throw .endless
  | fuel + 1 => do
    match command with
    | .simple line assignments words redirects =>
      modify fun s => { s with line }
      let words ← expand files fuel words
      match words with
      | [] =>
        finish 0
        for (name, value) in assignments do assign name (joined (← putWord files fuel value))
        discard (rewire files fuel redirects)
      | name :: arguments =>
        let values ← assignments.mapM fun (name, value) => do
          return (name, joined (← putWord files fuel value))
        let action :=
          if values.isEmpty then runProgram files fuel name arguments
          else supplied values (runProgram files fuel name arguments)
        if redirects.isEmpty then action
        else match ← rewire files fuel redirects with
          | none => if name == "exec" then throw .exit
          | some wiring =>
            if name == "exec" && arguments.isEmpty then modify fun s => { s with wiring }
            else wired wiring action
      checkStrict
    | .pipeline negated stages =>
      if negated then
        tested (runStages files fuel stages)
        modify fun s => { s with status := if s.status = 0 then 1 else 0 }
      else
        runStages files fuel stages
        checkStrict
    | .both first second =>
      tested (run files fuel first)
      if (← get).status = 0 then run files fuel second
    | .either first second =>
      tested (run files fuel first)
      if (← get).status != 0 then run files fuel second
    | .sequence commands => runAll files fuel commands
    | .conditional test body otherwise =>
      tested (run files fuel test)
      if (← get).status = 0 then run files fuel body
      else
        finish 0
        run files fuel otherwise
    | .loop success test body =>
      rounds (do
        let last := (← get).status
        tested (run files fuel test)
        if ((← get).status = 0) = success then runRound files fuel body
        else
          finish last
          return false) fuel
    | .each name words body =>
      let words ← match words with
        | some words => expand files fuel words
        | none => pure (← get).arguments
      finish 0
      runEach files fuel name body words
    | .select subject branches =>
      let text := joined (← putWord files fuel subject)
      runBranch files fuel text.toList branches
    | .redirected body redirects =>
      match ← rewire files fuel redirects with
      | none => checkStrict
      | some wiring => wired wiring (run files fuel body)
    | .isolated body =>
      contained (isolated (run files fuel body))
      checkStrict
    | .background body => unawaited (contained (isolated (run files fuel body)))
    | .define name body =>
      modify fun s => { s with functions := (name, body) :: s.functions }
      finish 0

/-- A program or command by its name. -/
def runProgram (files : Files m) (fuel : Nat) (name : String) (arguments : List String) :
    Action m Unit :=
  match fuel with
  | 0 => throw .endless
  | fuel + 1 => do
    if let some body := (← get).functions.lookup name then
      return ← called arguments (run files fuel body)
    match name, builtin? files name arguments with
    | _, some action => action
    | "eval", _ => runText files fuel ⟨(" ".intercalate arguments).toList, (← get).line⟩
    | "command", _ => runProgram files fuel (arguments.headD ":") (arguments.drop 1)
    | "exec", _ =>
      runProgram files fuel (arguments.headD ":") (arguments.drop 1)
      throw .exit
    | "sh", _ | "bash", _ | "dash", _ => runShell files fuel name arguments
    | _, none =>
      if !name.toList.contains '/' then
        complain (name ++ ": not found")
        finish 127
      else match ← (files.below (← get).directory).kind (pathOf name) with
        | .error _ =>
          complain (name ++ ": not found")
          finish 127
        | .ok (.file true) => runFile files fuel name arguments
        | .ok _ =>
          complain (name ++ ": Permission denied")
          finish 126

/-- A shell with its arguments: a script as text behind `-c`, or in a file. -/
def runShell (files : Files m) (fuel : Nat) (shell : String) (arguments : List String) :
    Action m Unit :=
  match fuel with
  | 0 => throw .endless
  | fuel + 1 => do
    match arguments with
    | [] => finish 0
    | "-e" :: rest => isolated do
      modify fun s => { s with strict := true }
      runShell files fuel shell rest
    | "-c" :: text :: rest =>
      runFresh files fuel (rest.headD shell) (rest.drop 1) text
    | "-ec" :: text :: rest => isolated do
      modify fun s => { s with strict := true }
      runFresh files fuel (rest.headD shell) (rest.drop 1) text
    | ["-c"] => do
      mishap (shell ++ ": 0: -c requires an argument") 2
    | file :: rest => openScript files fuel shell file rest

/-- A script in a file, by a shell of a name. -/
def openScript (files : Files m) (fuel : Nat) (shell file : String) (arguments : List String) :
    Action m Unit :=
  match fuel with
  | 0 => throw .endless
  | fuel + 1 => do
    match ← contents files file with
    | .ok text => runFresh files fuel file arguments text
    | .error cause =>
      let reason := if cause = .notFound then "No such file" else cause.phrase
      mishap (shell ++ ": 0: cannot open " ++ file ++ ": " ++ reason) 2

/-- A program that is a script, by the interpreter that it asks for. -/
def runFile (files : Files m) (fuel : Nat) (file : String) (arguments : List String) :
    Action m Unit :=
  match fuel with
  | 0 => throw .endless
  | fuel + 1 => do
    match ← contents files file with
    | .error _ =>
      complain (file ++ ": not found")
      finish 127
    | .ok text =>
      match strictness? text with
      | some strict => isolated do
        modify fun s => { s with strict }
        runFresh files fuel file arguments text
      | none =>
        complain (file ++ ": not found")
        finish 127

/-- A script with a name and arguments of its own. -/
def runFresh (files : Files m) (fuel : Nat) (name : String) (arguments : List String)
    (text : String) : Action m Unit :=
  match fuel with
  | 0 => throw .endless
  | fuel + 1 => contained (isolated do
      modify fun s => { s with
        name, arguments, status := 0, functions := []
        values := s.values.filter fun v => s.exported.contains v.1 }
      runText files fuel ⟨text.toList, 1⟩)

/-- The lines of a script. A mistake ends it. -/
def runText (files : Files m) (fuel : Nat) (script : Remainder) : Action m Unit :=
  match fuel with
  | 0 => throw .endless
  | fuel + 1 =>
    match readLine script with
    | .ok none => return ()
    | .ok (some (commands, rest)) => do
      runAll files fuel commands
      runText files fuel rest
    | .error cause => do
      modify fun s => { s with line := cause.line }
      abandon cause.message

end

end

end TargetGraph.Script
