import TargetGraph.Script.Format
import TargetGraph.Script.State

set_option relaxedAutoImplicit false
set_option autoImplicit false

/-!
# Commands that scripts have

## Main definitions

* `TargetGraph.Script.condition` — the conditions that `test` decides.
* `TargetGraph.Script.builtin?` — the commands that need nothing but the state of the script and
  files.
-/

namespace TargetGraph.Script

section

variable {m : Type → Type} [Monad m]

/-- A command writes a message of its own and fails. -/
def mishap (message : String) (status : Nat) : Action m Unit := do
  write (← get).wiring.errors (message ++ "\n")
  finish status

/-- The bytes of a file, as characters. -/
def contents (files : Files m) (path : String) : Action m (Except SystemError String) := do
  let found ← (files.below (← get).directory).read (pathOf path)
  return found.map octets

/-! ### Conditions -/

/-- The operators between two numbers. -/
def comparison? : String → Option (Int → Int → Bool)
  | "-eq" => some (· == ·)
  | "-ne" => some (· != ·)
  | "-lt" => some fun a b => a < b
  | "-le" => some fun a b => a ≤ b
  | "-gt" => some fun a b => b < a
  | "-ge" => some fun a b => b ≤ a
  | _ => none

/-- The operators between two texts. -/
def textComparison? : String → Option (String → String → Bool)
  | "=" => some (· == ·)
  | "!=" => some (· != ·)
  | _ => none

/-- The number that an argument writes; without one, the script's command fails. -/
def numeric (command text : String) : Action m (Option Int) :=
  match number? text with
  | some value => return some value
  | none => do
    complain (command ++ ": Illegal number: " ++ text)
    return none

/-- What a path leads to has some property. -/
def kindIs (files : Files m) (path : String) (p : FileKind → Bool) : Action m Bool := do
  match ← (files.below (← get).directory).kind (pathOf path) with
  | .ok kind => return p kind
  | .error _ => return false

/-- The operators before one text. -/
def property? (files : Files m) (op text : String) : Option (Action m Bool) :=
  match op with
  | "-n" => some (return text != "")
  | "-z" => some (return text == "")
  | "-e" | "-r" | "-w" => some (kindIs files text fun _ => true)
  | "-d" => some (kindIs files text fun kind => kind == .directory)
  | "-f" => some (kindIs files text fun kind => kind != .directory)
  | "-x" => some (kindIs files text fun kind => kind != .file false)
  | "-s" => some do
    match ← contents files text with
    | .ok bytes => return bytes != ""
    | .error cause => return cause == .isDirectory
  | _ => none

mutual

/-- A condition and what follows it; nothing if there is none. The number bounds its length. -/
def primary (files : Files m) (command : String) :
    Nat → List String → Action m (Option (Bool × List String))
  | 0, _ => return none
  | n + 1, words =>
    match words with
    | [] => return none
    | left :: op :: right :: rest =>
      match textComparison? op, comparison? op with
      | some compare, _ => return some (compare left right, rest)
      | none, some compare => do
        match ← numeric command left, ← numeric command right with
        | some a, some b => return some (compare a b, rest)
        | _, _ => return none
      | none, none => single files command n words
    | _ => single files command n words

/-- A condition that does not start with a comparison. -/
def single (files : Files m) (command : String) :
    Nat → List String → Action m (Option (Bool × List String))
  | 0, _ => return none
  | n + 1, words =>
    match words with
    | [] => return none
    | "!" :: next :: rest => do
      match ← primary files command n (next :: rest) with
      | some (value, rest) => return some (!value, rest)
      | none => return none
    | "(" :: next :: rest => do
      match ← disjunction files command n (next :: rest) with
      | some (value, ")" :: rest) => return some (value, rest)
      | _ => return none
    | op :: text :: rest =>
      match property? files op text with
      | some value => return some (← value, rest)
      | none => return some (op != "", text :: rest)
    | [text] => return some (text != "", [])

/-- Conditions with `-a` and `-o` between them. -/
def disjunction (files : Files m) (command : String) :
    Nat → List String → Action m (Option (Bool × List String))
  | 0, _ => return none
  | n + 1, words => do
    match ← primary files command n words with
    | some (left, "-o" :: rest) =>
      match ← disjunction files command n rest with
      | some (right, rest) => return some (left || right, rest)
      | none => return none
    | some (left, "-a" :: rest) =>
      match ← disjunction files command n rest with
      | some (right, rest) => return some (left && right, rest)
      | none => return none
    | result => return result

end

/-- Whether some words make a true condition: that is the status of the command. -/
def condition (files : Files m) (command : String) (words : List String) : Action m Unit := do
  if words.isEmpty then finish 1
  else match ← disjunction files command (4 * words.length + 4) words with
    | some (value, []) => finish (if value then 0 else 1)
    | some (_, word :: _) => do
      complain (command ++ ": " ++ word ++ ": unexpected operator")
      finish 2
    | none => finish 2

/-! ### Other commands -/

/-- How many milliseconds `sleep` waits for an argument: a number of seconds, minutes, hours or
days. -/
def milliseconds? (text : String) : Option Nat :=
  let whole := text.toList.takeWhile Char.isDigit
  let rest := text.toList.drop whole.length
  let fraction := match rest with
    | '.' :: digits => digits.takeWhile Char.isDigit
    | _ => []
  let rest := if rest.head? = some '.' then rest.drop (fraction.length + 1) else rest
  let unit? := match rest with
    | [] | ['s'] => some 1
    | ['m'] => some 60
    | ['h'] => some 3600
    | ['d'] => some 86400
    | _ => none
  let digits := whole ++ (fraction ++ ['0', '0', '0']).take 3
  if whole.isEmpty && fraction.isEmpty then none
  else match unit?, natural? 10 digits with
    | some unit, some value => some (unit * value)
    | _, _ => none

/-- The script waits. -/
def sleep : List String → Action m Unit
  | [] => finish 0
  | argument :: rest =>
    if ["inf", "infinity"].contains argument then throw .endless
    else match milliseconds? argument with
      | some time => do
        modify fun s => { s with elapsed := s.elapsed + time }
        sleep rest
      | none => mishap ("sleep: invalid time interval " ++ "'" ++ argument ++ "'\n" ++
          "Try 'sleep --help' for more information.") 1

/-- Files are written to the output, one after another. -/
def concatenate (files : Files m) (status : Nat) : List String → Action m Unit
  | [] => finish status
  | "-" :: rest => do
    say (← get).wiring.input
    concatenate files status rest
  | path :: rest => do
    match ← contents files path with
    | .ok bytes => do
      say bytes
      concatenate files status rest
    | .error cause => do
      mishap ("cat: " ++ path ++ ": " ++ cause.phrase) 1
      concatenate files 1 rest

/-- A directory without `.` and `..` on the way. -/
def direct (path : SourcePath) : SourcePath :=
  let names := path.components.foldl (fun names component => match component with
    | .named name => name :: names
    | .parent => names.drop 1
    | _ => names) []
  ⟨"/" ++ "/".intercalate names.reverse⟩

/-- The script goes to a directory. -/
def changeDirectory (files : Files m) (path : String) : Action m Unit := do
  if ← kindIs files path fun kind => kind == .directory then
    modify fun s => { s with directory := direct (s.directory.join (pathOf path)) }
    finish 0
  else
    complain ("cd: can't cd to " ++ path)
    finish 2

/-- The integers from one to another by a step. -/
def numberLines (first step : Int) (amount : Nat) : String :=
  String.join ((List.range amount).map fun (i : Nat) =>
    toString (first + step * Int.ofNat i) ++ "\n")

/-- The numbers that `seq` writes. -/
def writeNumbers (words : List String) : Action m Unit := do
  let upTo (first step last : Int) : Action m Unit := do
    let rounds := if step = 0 then 0 else (Int.fdiv (last - first) step + 1).toNat
    say (numberLines first step rounds)
    finish 0
  match words.map number? with
  | [some last] => upTo 1 1 last
  | [some first, some last] => upTo first 1 last
  | [some first, some step, some last] => upTo first step last
  | _ => mishap "seq: invalid floating point argument" 1

/-- The lines of a text, each with its line end. -/
def linesOf (text : String) : List String :=
  let lines := text.splitOn "\n"
  let ended := lines.dropLast.map fun line => line ++ "\n"
  match lines.getLast? with
  | some "" | none => ended
  | some rest => ended ++ [rest]

/-- The first or last lines or bytes of the input or a file. -/
def part (files : Files m) (fromEnd : Bool) (words : List String) : Action m Unit := do
  let (amount, bytewise, rest) := match words with
    | "-n" :: amount :: rest => (amount.toNat?, false, rest)
    | "-c" :: amount :: rest => (amount.toNat?, true, rest)
    | first :: rest => match first.toList with
      | '-' :: 'n' :: digits => ((String.ofList digits).toNat?, false, rest)
      | '-' :: 'c' :: digits => ((String.ofList digits).toNat?, true, rest)
      | '-' :: digits => ((String.ofList digits).toNat?, false, rest)
      | _ => (some 10, false, words)
    | [] => (some 10, false, [])
  let text ← match rest with
    | [] => pure (← get).wiring.input
    | path :: _ => match ← contents files path with
      | .ok bytes => pure bytes
      | .error _ => pure ""
  let pieces := if bytewise then text.toList.map String.singleton else linesOf text
  let amount := amount.getD 10
  let kept := if fromEnd then pieces.drop (pieces.length - amount) else pieces.take amount
  say (String.join kept)
  finish 0

/-- A line of the input is read into variables; the last one gets the rest of the line. -/
def readInto (words : List String) : Action m Unit := do
  let names := words.filter fun word => word != "-r"
  let input := (← get).wiring.input
  let line := input.toList.takeWhile (· != '\n')
  let rest := input.toList.drop (line.length + 1)
  modify fun s => { s with wiring.input := String.ofList rest }
  let isSpace (c : Char) := c == ' ' || c == '\t'
  let trimEnds (cs : List Char) := ((cs.dropWhile isSpace).reverse.dropWhile isSpace).reverse
  let rec fill : List String → List Char → Action m Unit
    | [], _ => pure ()
    | [name], cs => assign name (String.ofList (trimEnds cs))
    | name :: others, cs => do
      let cs := cs.dropWhile isSpace
      let field := cs.takeWhile fun c => !isSpace c
      assign name (String.ofList field)
      fill others (cs.drop field.length)
  fill names line
  finish (if line.length < input.length then 0 else 1)

/-- The script sends a signal to itself. -/
def signal (words : List String) : Action m Unit := do
  let (name, rest) := match words with
    | "-s" :: name :: rest => (name, rest)
    | first :: rest =>
      match first.toList with
      | '-' :: name => (String.ofList name, rest)
      | _ => ("TERM", words)
    | [] => ("TERM", [])
  if rest != [processNumber] then
    complain "kill: No such process"
    finish 1
  else if ["0", "CONT", "18", "CHLD", "17", "URG", "23", "WINCH", "28"].contains name then finish 0
  else if ["STOP", "19", "TSTP", "20"].contains name then throw .endless
  else throw .killed

/-- Variables get the values that arguments assign; they may be meant for programs, too. -/
def assignAll (exported : Bool) (words : List String) : Action m Unit := do
  for word in words do
    let name := word.toList.takeWhile (· != '=')
    if name.length < word.length then
      assign (String.ofList name) (String.ofList (word.toList.drop (name.length + 1)))
    if exported then modify fun s => { s with exported := String.ofList name :: s.exported }
  finish 0

/-- The options and arguments of the script are set. -/
def setArguments : List String → Action m Unit
  | [] => finish 0
  | "--" :: words => do
    modify fun s => { s with arguments := words }
    finish 0
  | word :: rest =>
    match word.toList with
    | '-' :: letters => do
      if letters.contains 'e' then modify fun s => { s with strict := true }
      setArguments rest
    | '+' :: letters => do
      if letters.contains 'e' then modify fun s => { s with strict := false }
      setArguments rest
    | _ => do
      modify fun s => { s with arguments := word :: rest }
      finish 0

/-- The first arguments of the script are dropped. -/
def shift (words : List String) : Action m Unit := do
  let amount := ((words.head?.bind String.toNat?)).getD 1
  let s ← get
  if s.arguments.length < amount then abandon "shift: can't shift that many"
  else
    set { s with arguments := s.arguments.drop amount }
    finish 0

/-- The status that a command names. -/
def namedStatus (command : String) (words : List String) : Action m Unit :=
  match words with
  | [] => pure ()
  | word :: _ =>
    match natural? 10 word.toList with
    | some status => finish (status % 256)
    | none => abandon (command ++ ": Illegal number: " ++ word)

/-- The script ends, perhaps with a status. -/
def exitWith (words : List String) : Action m Unit := do
  namedStatus "exit" words
  throw .exit

/-- The function ends, perhaps with a status. -/
def returnWith (words : List String) : Action m Unit := do
  namedStatus "return" words
  throw .function

/-- The number of loops that a command is about. -/
def loopCount (words : List String) : Nat :=
  (words.head?.bind String.toNat?).getD 1

/-- A path without its last part. -/
def directoryPart (path : String) : String :=
  match (pathOf path).parent? with
  | some parent => if parent.text.isEmpty then "." else octets (Text.utf8 parent.text)
  | none => if path.startsWith "/" then "/" else "."

/-- The last part of a path, without an ending. -/
def lastPart (path ending : String) : String :=
  match (pathOf path).components.getLast? with
  | some (.named name) =>
    let name := octets (Text.utf8 name)
    if name.endsWith ending && name != ending then (name.dropEnd ending.length).toString else name
  | _ => path

/-- The commands that need nothing but the state of the script and files. -/
def builtin? (files : Files m) (name : String) (words : List String) : Option (Action m Unit) :=
  match name with
  | ":" | "true" | "trap" | "umask" | "wait" => some (finish 0)
  | "false" => some (finish 1)
  | "echo" => some do
    say (echoed words)
    finish 0
  | "printf" => some do
    match if words.head? = some "--" then words.drop 1 else words with
    | [] => abandon "printf: usage: printf format [arg ...]"
    | format :: arguments =>
      match formatted format arguments with
      | .error form => abandon ("printf: %" ++ String.singleton form ++ ": invalid directive")
      | .ok result => do
        say result.text
        for (word, isPart) in result.unread do
          let reason := if isPart then "not completely converted" else "expected numeric value"
          complain ("printf: " ++ word ++ ": " ++ reason)
        finish (if result.unread.isEmpty then 0 else 1)
  | "test" => some (condition files "test" words)
  | "[" => some do
    if words.getLast? = some "]" then condition files "[" words.dropLast
    else
      complain "[: missing ]"
      finish 2
  | "cat" => some (concatenate files 0 (if words.isEmpty then ["-"] else words))
  | "pwd" => some do
    say (octets (Text.utf8 (← get).directory.text) ++ "\n")
    finish 0
  | "cd" => some (changeDirectory files (words.headD "/"))
  | "sleep" => some (sleep words)
  | "seq" => some (writeNumbers words)
  | "head" => some (part files false words)
  | "tail" => some (part files true words)
  | "read" => some (readInto words)
  | "kill" => some (signal words)
  | "export" => some (assignAll true words)
  | "readonly" | "local" => some (assignAll false words)
  | "unset" => some do
    modify fun s => { s with values := s.values.filter fun v => !words.contains v.1 }
    finish 0
  | "set" => some (setArguments words)
  | "shift" => some (shift words)
  | "exit" => some (exitWith words)
  | "return" => some (returnWith words)
  | "break" => some (throw (.loops (loopCount words)))
  | "continue" => some (throw (.round (loopCount words)))
  | "dirname" => some do
    say (directoryPart (words.headD "") ++ "\n")
    finish 0
  | "basename" => some do
    say (lastPart (words.headD "") ((words[1]?).getD "") ++ "\n")
    finish 0
  | _ => none

end

end TargetGraph.Script
