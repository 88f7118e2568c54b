set_option relaxedAutoImplicit false
set_option autoImplicit false

/-!
# Options of the command line

Options stand between the names of commands, each on the level of some command. A long option is
written `--name`, with its value behind it as a word or behind an equals sign; short options are
single letters behind one dash, of which the last may have a value. A word that starts with a dash
is never the value of the option before it, unless it is a single dash. An option is given at most
once on its level, if it is not meant to be counted.

## Main definitions

* `TargetGraph.CommandLine.Flag` — the options.
* `TargetGraph.CommandLine.Given` — the options that were given, with their values.
* `TargetGraph.CommandLine.Level` — what may stand on a level.
* `TargetGraph.CommandLine.Level.scan` — the options of a level, up to the name of the next command.
-/

namespace TargetGraph.CommandLine

/-- The options. -/
inductive Flag where
  /-- More to be logged, the more often it is given. -/
  | verbose
  /-- Only results to be printed. -/
  | quiet
  /-- Help. -/
  | help
  /-- The version. -/
  | version
  /-- The root of the workspace. -/
  | path
  /-- The settings file. -/
  | config
  /-- A captured query output. -/
  | input
  /-- The format of printed results. -/
  | format
  /-- A source file. -/
  | file
  /-- The label of a target. -/
  | target
  /-- The label of an external target. -/
  | dependency
  /-- A selection of source files. -/
  | kind
  /-- The rule class that a selection is about. -/
  | ruleKind
  deriving DecidableEq, Repr

namespace Flag

/-- The long name of an option. -/
def name : Flag → String
  | .verbose => "verbose"
  | .quiet => "quiet"
  | .help => "help"
  | .version => "version"
  | .path => "path"
  | .config => "config"
  | .input => "input"
  | .format => "format"
  | .file => "file"
  | .target => "target"
  | .dependency => "dependency"
  | .kind => "kind"
  | .ruleKind => "rule-kind"

/-- The letter of an option. -/
def letter? : Flag → Option Char
  | .verbose => some 'v'
  | .quiet => some 'q'
  | .help => some 'h'
  | .version => some 'V'
  | .path => some 'p'
  | _ => none

/-- The option has a value. -/
def takesValue : Flag → Bool
  | .verbose | .quiet | .help | .version => false
  | _ => true

/-- The option may be given more than once. -/
def isCounted : Flag → Bool
  | .verbose => true
  | _ => false

/-- The option may have this value. A path is not empty; a choice is one of its names. -/
def accepts (flag : Flag) (value : String) : Bool :=
  match flag with
  | .path | .input | .file => value != ""
  | .format => ["text", "json"].contains value
  | .kind => ["all", "language", "android"].contains value
  | _ => true

end Flag

/-- Why a command line is not read to its end. -/
inductive Stop where
  /-- It is wrong. -/
  | misuse
  /-- It asks for help. -/
  | help
  /-- It asks for the version. -/
  | version
  deriving DecidableEq, Repr

/-- The options that were given, with their values; those without have the empty one. -/
abbrev Given := List (Flag × String)

/-- An option is given. -/
def Given.has (given : Given) (flag : Flag) : Bool :=
  (given.lookup flag).isSome

/-- One more option is given. -/
def Given.note (given : Given) (flag : Flag) (value : String) : Except Stop Given :=
  match flag with
  | .help => .error .help
  | .version => .error .version
  | _ =>
    if given.has flag && !flag.isCounted then .error .misuse
    else if !flag.accepts value then .error .misuse
    else .ok (given ++ [(flag, value)])

/-- What a word is, by its dashes. -/
inductive WordForm where
  /-- `--`, behind which there are no options. -/
  | separator
  /-- A long option, perhaps with a value. -/
  | long (name : String) (value : Option String)
  /-- Letters behind a dash. -/
  | letters (letters : List Char)
  /-- Any other word. -/
  | plain
  deriving DecidableEq, Repr

/-- What a word is. -/
def formOf (word : String) : WordForm :=
  match word.toList with
  | ['-', '-'] => .separator
  | '-' :: '-' :: rest =>
    .long (String.ofList (rest.takeWhile (· != '=')))
      (match rest.dropWhile (· != '=') with
        | _ :: value => some (String.ofList value)
        | [] => none)
  | '-' :: first :: rest => .letters (first :: rest)
  | _ => .plain

/-- What may stand on a level of the command line. -/
structure Level where
  /-- The options. -/
  flags : List Flag
  /-- The names of commands, which end the level. -/
  commands : List String := []
  /-- How many other words there may be. -/
  words : Nat := 0
  deriving Repr

/-- What stands on a level. -/
structure Scan where
  /-- The options. -/
  given : Given
  /-- The words that are neither options nor values. -/
  words : List String := []
  /-- The name of the command that ends the level, and the words behind it. -/
  command : Option (String × List String) := none
  deriving Repr

namespace Level

/-- The option of a long name. -/
def named? (level : Level) (name : String) : Option Flag :=
  level.flags.find? fun flag => flag.name == name

/-- The option of a letter. -/
def lettered? (level : Level) (letter : Char) : Option Flag :=
  level.flags.find? fun flag => flag.letter? == some letter

/-- Letters behind a dash. The letters behind one that takes a value are that value, with or without
an equals sign before them; if there are none, the option still waits for its value. -/
def scanLetters (level : Level) (given : Given) : List Char → Except Stop (Given × Option Flag)
  | [] => .ok (given, none)
  | letter :: rest =>
    match level.lettered? letter with
    | none => .error .misuse
    | some flag =>
      if flag.takesValue then
        match rest with
        | [] => .ok (given, some flag)
        | '=' :: value => do return (← given.note flag (String.ofList value), none)
        | value => do return (← given.note flag (String.ofList value), none)
      else do level.scanLetters (← given.note flag "") rest

/-- One option word; an option without its value waits for that. -/
def scanOption (level : Level) (given : Given) : WordForm → Except Stop (Given × Option Flag)
  | .long name value =>
    match level.named? name with
    | none => .error .misuse
    | some flag =>
      match flag.takesValue, value with
      | true, some value => do return (← given.note flag value, none)
      | true, none => .ok (given, some flag)
      | false, some _ => .error .misuse
      | false, none => do return (← given.note flag "", none)
  | .letters letters => level.scanLetters given letters
  | _ => .error .misuse

/-- The words of a level, up to the name of the next command. -/
def scan (level : Level) (given : Given) (words : List String) (waiting : Option Flag) :
    List String → Except Stop Scan
  | [] => if waiting.isSome then .error .misuse else .ok { given, words }
  | word :: rest =>
    match waiting, formOf word with
    | some flag, .plain => do level.scan (← given.note flag word) words none rest
    | some _, _ => .error .misuse
    | none, .separator =>
      if words.length + rest.length ≤ level.words then .ok { given, words := words ++ rest }
      else .error .misuse
    | none, .plain =>
      if level.commands.contains word then .ok { given, words, command := some (word, rest) }
      else if words.length < level.words then level.scan given (words ++ [word]) none rest
      else .error .misuse
    | none, form => do
      let (given, waiting) ← level.scanOption given form
      level.scan given words waiting rest

end Level

end TargetGraph.CommandLine
