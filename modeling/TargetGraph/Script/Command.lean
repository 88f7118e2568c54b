set_option relaxedAutoImplicit false
set_option autoImplicit false

/-!
# Commands of scripts

A build tool may be a shell script. Such a script is run here without a process of its own, as far
as it keeps to the part of the command language that these types describe. Scripts and all they
handle are bytes; each byte is a character below 256 here.

## Main definitions

* `TargetGraph.Script.Piece`, `TargetGraph.Script.Word` — words, with what is put in for their
  parameters.
* `TargetGraph.Script.Redirect` — where a command reads and writes.
* `TargetGraph.Script.Command` — commands.
-/

namespace TargetGraph.Script

/-- What is put in for a parameter that has no value. -/
inductive Fallback where
  /-- Another word. -/
  | use
  /-- Another word, which becomes its value. -/
  | assign
  /-- Nothing: the script fails. -/
  | fail
  /-- Nothing; but for one with a value, another word. -/
  | invert
  deriving DecidableEq, Repr

mutual

/-- A piece of a word. Only what is not quoted is split into fields or has wildcards. -/
inductive Piece where
  /-- Itself. -/
  | text (text : String) (quoted : Bool)
  /-- The value of a parameter. -/
  | parameter (name : String) (quoted : Bool)
  /-- The number of bytes in the value of a parameter. -/
  | length (name : String)
  /-- The value of a parameter, or another word. An empty value may count as none. -/
  | alternative (name : String) (fallback : Fallback) (emptyIsNone : Bool) (word : List Piece)
      (quoted : Bool)
  /-- The value of a parameter without the shortest or longest match of a pattern at one end. -/
  | trimmed (name : String) (atEnd longest : Bool) (pattern : List Piece) (quoted : Bool)
  /-- The value of an arithmetic expression. -/
  | number (expression : List Piece)
  /-- What a script writes to its output. -/
  | output (script : List Command) (quoted : Bool)

/-- A change of where a command reads or writes. -/
inductive Redirect where
  /-- It reads a file. -/
  | read (file : List Piece)
  /-- It reads a text. -/
  | here (text : List Piece)
  /-- Output of a number goes to a file. -/
  | write (number : Nat) (file : List Piece)
  /-- Output of a number goes where that of another does. -/
  | copy (number : Nat) (other : List Piece)

/-- A command. -/
inductive Command where
  /-- Assignments, and a program with its arguments; the number is that of its line. -/
  | simple (line : Nat) (assignments : List (String × List Piece)) (words : List (List Piece))
      (redirects : List Redirect)
  /-- Commands that read what the one before writes. -/
  | pipeline (negated : Bool) (stages : List Command)
  /-- A second command if the first succeeds. -/
  | both (first second : Command)
  /-- A second command if the first fails. -/
  | either (first second : Command)
  /-- Commands after another. -/
  | sequence (commands : List Command)
  /-- One of two commands, by how a test ends. -/
  | conditional (test body otherwise : Command)
  /-- A command as long as a test ends as it should. -/
  | loop (success : Bool) (test body : Command)
  /-- A command for each of some words, or else for each argument. -/
  | each (name : String) (words : Option (List (List Piece))) (body : Command)
  /-- The first command one of whose patterns matches a word. -/
  | select (subject : List Piece) (branches : List (List (List Piece) × Command))
  /-- A command with changes of where it reads and writes. -/
  | redirected (body : Command) (redirects : List Redirect)
  /-- A command whose changes of variables and directory do not last. -/
  | isolated (body : Command)
  /-- A command that is not waited for. -/
  | background (body : Command)
  /-- A function gets a name. -/
  | define (name : String) (body : Command)

end

/-- A word. -/
abbrev Word := List Piece

end TargetGraph.Script
