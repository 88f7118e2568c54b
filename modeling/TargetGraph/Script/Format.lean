import TargetGraph.Script.Arithmetic

set_option relaxedAutoImplicit false
set_option autoImplicit false

/-!
# Written arguments

The rules by which `echo` and `printf` write their arguments.

## Main definitions

* `TargetGraph.Script.unescape` — a text with its escapes replaced.
* `TargetGraph.Script.formatted` — arguments written by a format.
-/

namespace TargetGraph.Script

/-- Which texts escapes are replaced in. -/
inductive EscapeRule where
  /-- Written arguments: an octal number starts with a zero, and `\c` ends all. -/
  | argument
  /-- Formats: an octal number needs no zero. -/
  | format
  deriving DecidableEq, Repr

/-- The character that a letter behind a backslash stands for. -/
def escapedChar? : Char → Option Char
  | 'a' => some (Char.ofNat 7)
  | 'b' => some (Char.ofNat 8)
  | 'f' => some (Char.ofNat 12)
  | 'n' => some '\n'
  | 'r' => some '\r'
  | 't' => some '\t'
  | 'v' => some (Char.ofNat 11)
  | '\\' => some '\\'
  | _ => none

/-- The octal digits at the start of a text, at most so many. -/
def octalDigits (limit : Nat) (cs : List Char) : List Char :=
  (cs.take limit).takeWhile fun c => '0' ≤ c && c ≤ '7'

/-- The byte that octal digits write. -/
def octalByte (digits : List Char) : Char :=
  Char.ofNat (((natural? 8 digits).getD 0) % 256)

/-- What an escape behind a backslash stands for, and how many characters it has; nothing for what
is no escape. -/
def escape? (rule : EscapeRule) (cs : List Char) : Option (Char × Nat) :=
  match cs with
  | [] => none
  | c :: rest =>
    match escapedChar? c with
    | some char => some (char, 1)
    | none =>
      match rule with
      | .argument =>
        if c = '0' then
          let digits := octalDigits 3 rest
          some (octalByte digits, digits.length + 1)
        else none
      | .format =>
        let digits := octalDigits 3 cs
        if digits.isEmpty then
          if c = '"' ∨ c = Char.ofNat 39 then some (c, 1) else none
        else some (octalByte digits, digits.length)

/-- A text with its escapes replaced, and whether it ends everything. The number bounds its
length. -/
def unescapeWithin (rule : EscapeRule) : Nat → List Char → List Char × Bool
  | 0, _ => ([], false)
  | _, [] => ([], false)
  | n + 1, '\\' :: rest =>
    if rule = .argument ∧ rest.head? = some 'c' then ([], true)
    else
      let (char, size) := (escape? rule rest).getD ('\\', 0)
      let (others, ends) := unescapeWithin rule n (rest.drop size)
      (char :: others, ends)
  | n + 1, c :: rest =>
    let (others, ends) := unescapeWithin rule n rest
    (c :: others, ends)

/-- A text with its escapes replaced, and whether it ends everything that is written. -/
def unescape (rule : EscapeRule) (text : String) : String × Bool :=
  let (cs, ends) := unescapeWithin rule (text.length + 1) text.toList
  (String.ofList cs, ends)

/-- What `echo` writes: its arguments with blanks between them, and a line end unless the first one
says otherwise. -/
def echoed (arguments : List String) : String :=
  let (words, lineEnd) := match arguments with
    | "-n" :: rest => (rest, "")
    | words => (words, "\n")
  let (text, ends) := unescape .argument (" ".intercalate words)
  if ends then text else text ++ lineEnd

/-- How one argument is to be written. -/
structure Directive where
  /-- The letters before the width. -/
  flags : List Char := []
  /-- The least number of characters. -/
  width : Nat := 0
  /-- The greatest number of characters, or the least number of digits. -/
  precision : Option Nat := none
  /-- The form. -/
  form : Char
  deriving DecidableEq, Repr

/-- The directive behind a percent sign, and what follows it. -/
def directive? (cs : List Char) : Option (Directive × List Char) :=
  let flags := cs.takeWhile fun c => ['-', '+', ' ', '0', '#'].contains c
  let cs := cs.drop flags.length
  let width := cs.takeWhile Char.isDigit
  let cs := cs.drop width.length
  let (precision, cs) := match cs with
    | '.' :: rest =>
      let digits := rest.takeWhile Char.isDigit
      (some ((natural? 10 digits).getD 0), rest.drop digits.length)
    | _ => (none, cs)
  match cs with
  | [] => none
  | form :: rest => some ({ flags, width := (natural? 10 width).getD 0, precision, form }, rest)

/-- A text filled up to the width of a directive. -/
def Directive.fill (d : Directive) (zeros : Bool) (sign body : List Char) : List Char :=
  let missing := d.width - (sign.length + body.length)
  if d.flags.contains '-' then sign ++ body ++ List.replicate missing ' '
  else if zeros then sign ++ List.replicate missing '0' ++ body
  else List.replicate missing ' ' ++ sign ++ body

/-- The integer that an argument writes, in any base; a quote before a character stands for its
number. -/
def integerArgument? (text : String) : Option Int :=
  match text.toList with
  | [] => some 0
  | '"' :: c :: _ => some c.toNat
  | '-' :: digits => (constant? digits).map fun n => -Int.ofNat n
  | '+' :: digits => (constant? digits).map Int.ofNat
  | c :: rest => if c = Char.ofNat 39 then some ((rest.headD (Char.ofNat 0)).toNat)
    else (constant? (c :: rest)).map Int.ofNat

/-- An integer, written by a directive. -/
def Directive.integer (d : Directive) (value : Int) : List Char :=
  let unsigned := if value < 0 then Nat.pow 2 64 - value.natAbs else value.toNat
  let digits := match d.form with
    | 'o' => Nat.toDigits 8 unsigned
    | 'x' => Nat.toDigits 16 unsigned
    | 'X' => (Nat.toDigits 16 unsigned).map Char.toUpper
    | 'u' => Nat.toDigits 10 unsigned
    | _ => Nat.toDigits 10 value.natAbs
  let isSigned := d.form = 'd' ∨ d.form = 'i'
  let sign :=
    if isSigned then
      if value < 0 then ['-'] else if d.flags.contains '+' then ['+']
      else if d.flags.contains ' ' then [' '] else []
    else []
  let digits := List.replicate (d.precision.getD 1 - digits.length) '0' ++ digits
  d.fill (d.flags.contains '0' && d.precision.isNone) sign digits

/-- The integer at the start of an argument. -/
def leadingInteger (text : String) : Int :=
  let (sign, digits) := match text.toList with
    | '-' :: digits => ((-1 : Int), digits)
    | digits => (1, digits)
  sign * Int.ofNat ((natural? 10 (digits.takeWhile Char.isDigit)).getD 0)

/-- An argument, written by a directive, and whether it ends everything; also the argument if it was
no number where one was needed, with whether it starts with one. -/
def Directive.written (d : Directive) (argument : String) :
    Option (List Char × Bool × Option (String × Bool)) :=
  let cut (cs : List Char) := match d.precision with
    | some limit => cs.take limit
    | none => cs
  match d.form with
  | 's' => some (d.fill false [] (cut argument.toList), false, none)
  | 'b' =>
    let (text, ends) := unescape .argument argument
    some (d.fill false [] (cut text.toList), ends, none)
  | 'c' => some (d.fill false [] (argument.toList.take 1), false, none)
  | 'd' | 'i' | 'o' | 'u' | 'x' | 'X' =>
    match integerArgument? argument with
    | some value => some (d.integer value, false, none)
    | none =>
      let value := leadingInteger argument
      some (d.integer value, false, some (argument, value != 0))
  | _ => none

/-- What was written by a format so far. -/
structure Formatted where
  /-- The text, last character first. -/
  written : List Char := []
  /-- The arguments that are left. -/
  arguments : List String
  /-- The arguments that were no numbers where some were needed, with whether they start with
  one. -/
  unread : List (String × Bool) := []
  /-- An argument ended everything. -/
  ended : Bool := false
  deriving Repr

/-- The text that was written. -/
def Formatted.text (f : Formatted) : String :=
  String.ofList f.written.reverse

/-- The arguments written by one pass over a format, or the letter of a form that does not exist.
The number bounds the length of the format. -/
def formatOnce (f : Formatted) : Nat → List Char → Except Char Formatted
  | 0, _ => .ok f
  | _, [] => .ok f
  | n + 1, '%' :: '%' :: rest => formatOnce { f with written := '%' :: f.written } n rest
  | n + 1, '%' :: rest =>
    match directive? rest with
    | none => .error '%'
    | some (d, rest) =>
      let argument := f.arguments.headD ""
      match d.written argument with
      | none => .error d.form
      | some (text, ends, unread) =>
        let f := { f with
          written := text.reverse ++ f.written
          arguments := f.arguments.drop 1
          unread := f.unread ++ unread.toList
          ended := ends }
        if ends then .ok f else formatOnce f n rest
  | n + 1, '\\' :: rest =>
    let (char, size) := (escape? .format rest).getD ('\\', 0)
    formatOnce { f with written := char :: f.written } n (rest.drop size)
  | n + 1, c :: rest => formatOnce { f with written := c :: f.written } n rest

/-- The arguments written by a format, which is used again as long as there are arguments and it
uses some. The number bounds how often. -/
def formatAll (format : List Char) (f : Formatted) : Nat → Except Char Formatted
  | 0 => .ok f
  | n + 1 => do
    let after ← formatOnce f (format.length + 1) format
    if after.ended || after.arguments.isEmpty || after.arguments.length == f.arguments.length then
      return after
    else formatAll format after n

/-- The arguments written by a format, or the letter of a form that does not exist. -/
def formatted (format : String) (arguments : List String) : Except Char Formatted :=
  formatAll format.toList { arguments } (arguments.length + 1)

end TargetGraph.Script
