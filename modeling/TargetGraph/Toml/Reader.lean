import TargetGraph.Toml.Scalar
import TargetGraph.Toml.Value

set_option relaxedAutoImplicit false
set_option autoImplicit false

/-!
# Reading TOML

A document is read line by line, and refused as a whole if anything in it is wrong.

## Main definitions

* `TargetGraph.Toml.parse?` — the entries of a document.
-/

namespace TargetGraph.Toml

/-- Reads something from the start of a text and leaves the rest. -/
abbrev Reader (α : Type) := StateT (List Char) Option α

namespace Reader

/-- Nothing can be read. -/
def refuse {α : Type} : Reader α := fun _ => none

/-- The next character, which stays. -/
def peek? : Reader (Option Char) := fun cs => some (cs.head?, cs)

/-- The text is at its end. -/
def atEnd : Reader Bool := fun cs => some (cs.isEmpty, cs)

/-- The next characters that satisfy `p`. -/
def takeWhile (p : Char → Bool) : Reader (List Char) := fun cs =>
  some (cs.takeWhile p, cs.dropWhile p)

/-- The given text, if it comes next. -/
def word? (word : List Char) : Reader Bool := fun cs =>
  some (if word.isPrefixOf cs then (true, cs.drop word.length) else (false, cs))

/-- The given text, which has to come next. -/
def expect (word : List Char) : Reader Unit := do
  unless ← word? word do refuse

end Reader

open Reader

/-- A space or a tab. -/
def isGap (c : Char) : Bool := c == ' ' || c == '\t'

/-- Spaces and tabs. -/
def gap : Reader Unit := discard (takeWhile isGap)

/-- A line ends here. -/
def newline? : Reader Bool := do
  if ← word? ['\n'] then return true else word? ['\r', '\n']

/-- The character may stand in a text or a comment: a tab, or anything that is no control
character. -/
def isPlain (c : Char) : Bool :=
  c == '\t' || (0x20 ≤ c.toNat && c.toNat != 0x7f)

/-- A comment, if one comes next. -/
def comment : Reader Unit := do
  if ← word? ['#'] then discard (takeWhile isPlain)

/-- What may follow on a line that is complete: a comment, and the end of the line or of the
text. -/
def endLine : Reader Unit := do
  gap
  comment
  unless ← newline? do
    unless ← atEnd do refuse

/-- Gaps, line ends and comments, at most so many of them. -/
def spaces : Nat → Reader Unit
  | 0 => pure ()
  | n + 1 => do
    gap
    comment
    if ← newline? then spaces n

/-- Gaps, line ends and comments. -/
def allSpaces : Reader Unit := fun cs => spaces cs.length cs

/-! ### Texts -/

/-- The value of hexadecimal digits, if it is a character. -/
def scalarValue? (digits : List Char) : Option Char :=
  match digits.mapM (digitIn? 16) with
  | none => none
  | some ds =>
    let n := valueOf 16 ds
    if n < 0xd800 ∨ (0xdfff < n ∧ n < 0x110000) then some (Char.ofNat n) else none

/-- The character that a one-letter escape stands for. -/
def escape? (c : Char) : Option Char :=
  match c with
  | 'b' => some (Char.ofNat 8)
  | 't' => some '\t'
  | 'n' => some '\n'
  | 'f' => some (Char.ofNat 12)
  | 'r' => some '\r'
  | '"' => some '"'
  | '\\' => some '\\'
  | _ => none

/-- The rest of a text between double quotes; `seen` is what came before, last first. -/
def basicText (seen : List Char) : List Char → Option (String × List Char)
  | [] => none
  | '"' :: rest => some (String.ofList seen.reverse, rest)
  | '\\' :: 'u' :: a :: b :: c :: d :: rest =>
    match scalarValue? [a, b, c, d] with
    | some char => basicText (char :: seen) rest
    | none => none
  | '\\' :: 'U' :: a :: b :: c :: d :: e :: f :: g :: h :: rest =>
    match scalarValue? [a, b, c, d, e, f, g, h] with
    | some char => basicText (char :: seen) rest
    | none => none
  | '\\' :: c :: rest =>
    match escape? c with
    | some char => basicText (char :: seen) rest
    | none => none
  | c :: rest => if isPlain c && c != '\\' then basicText (c :: seen) rest else none

/-- The rest of a text between single quotes. -/
def literalText (cs : List Char) : Option (String × List Char) :=
  match cs.dropWhile fun c => isPlain c && c != Char.ofNat 39 with
  | c :: rest =>
    if c = Char.ofNat 39 then
      some (String.ofList (cs.takeWhile fun c => isPlain c && c != Char.ofNat 39), rest)
    else none
  | [] => none

/-- A gap with a line end behind it comes next. -/
def endsLine (cs : List Char) : Bool :=
  match cs.dropWhile isGap with
  | '\n' :: _ => true
  | '\r' :: '\n' :: _ => true
  | _ => false

/-- The rest of a text over several lines, with escapes, up to three double quotes; two more of
these belong to the text. Behind a backslash at the end of a line, gaps and line ends are skipped.
-/
def basicLines (skipping : Bool) (seen : List Char) : List Char → Option (String × List Char)
  | [] => none
  | '"' :: '"' :: '"' :: '"' :: '"' :: rest =>
    some (String.ofList ('"' :: '"' :: seen).reverse, rest)
  | '"' :: '"' :: '"' :: '"' :: rest => some (String.ofList ('"' :: seen).reverse, rest)
  | '"' :: '"' :: '"' :: rest => some (String.ofList seen.reverse, rest)
  | '\r' :: '\n' :: rest => basicLines skipping (if skipping then seen else '\n' :: seen) rest
  | '\n' :: rest => basicLines skipping (if skipping then seen else '\n' :: seen) rest
  | '\\' :: 'u' :: a :: b :: c :: d :: rest =>
    match scalarValue? [a, b, c, d] with
    | some char => basicLines false (char :: seen) rest
    | none => none
  | '\\' :: 'U' :: a :: b :: c :: d :: e :: f :: g :: h :: rest =>
    match scalarValue? [a, b, c, d, e, f, g, h] with
    | some char => basicLines false (char :: seen) rest
    | none => none
  | '\\' :: c :: rest =>
    match escape? c with
    | some char => basicLines false (char :: seen) rest
    | none => if endsLine (c :: rest) then basicLines true seen (c :: rest) else none
  | c :: rest =>
    if skipping && isGap c then basicLines true seen rest
    else if isPlain c && c != '\\' then basicLines false (c :: seen) rest
    else none

/-- The rest of a text over several lines, without escapes, up to three single quotes; two more of
these belong to the text. -/
def literalLines (seen : List Char) : List Char → Option (String × List Char)
  | [] => none
  | c :: rest =>
    if c = Char.ofNat 39 then
      match rest.takeWhile (· == Char.ofNat 39) with
      | [] | [_] => literalLines (c :: seen) rest
      | [_, _] => some (String.ofList seen.reverse, rest.drop 2)
      | [_, _, _] => some (String.ofList (c :: seen).reverse, rest.drop 3)
      | _ => some (String.ofList (c :: c :: seen).reverse, rest.drop 4)
    else if c = '\r' ∧ rest.head? = some '\n' then literalLines seen rest
    else if isPlain c || c == '\n' then literalLines (c :: seen) rest
    else none

/-- A text on one line, which has to come next. -/
def lineText : Reader String := do
  if ← word? ['"'] then basicText []
  else do
    expect [Char.ofNat 39]
    literalText

/-- A text, which has to come next. -/
def quotedText : Reader String := do
  let single := Char.ofNat 39
  if ← word? ['"', '"', '"'] then do
    discard newline?
    basicLines false []
  else if ← word? [single, single, single] then do
    discard newline?
    literalLines []
  else lineText

/-! ### Keys -/

/-- The character may stand in a key without quotes. -/
def isBare (c : Char) : Bool :=
  ('a' ≤ c && c ≤ 'z') || ('A' ≤ c && c ≤ 'Z') || ('0' ≤ c && c ≤ '9') || c == '_' || c == '-'

/-- One part of a key. -/
def keyPart : Reader String := do
  match ← peek? with
  | some c =>
    if c = '"' ∨ c = Char.ofNat 39 then lineText
    else do
      let bare ← takeWhile isBare
      if bare.isEmpty then refuse else return String.ofList bare
  | none => refuse

/-- The parts of a key behind the first, at most so many. -/
def keyParts : Nat → Reader (List String)
  | 0 => refuse
  | n + 1 => do
    gap
    if ← word? ['.'] then do
      gap
      let part ← keyPart
      return part :: (← keyParts n)
    else return []

/-- Keys have fewer parts, and values are nested less deeply, than this. -/
def depthLimit : Nat := 80

/-- A key: the parts before its last one, and that. -/
def key : Reader (List String × String) := do
  gap
  let first ← keyPart
  let parts := first :: (← keyParts depthLimit)
  match parts.reverse with
  | last :: path => if parts.length < depthLimit then return (path.reverse, last) else refuse
  | [] => refuse

/-! ### Values -/

/-- The character may stand in a number, a time or a name of a value. -/
def isTokenChar (c : Char) : Bool :=
  isBare c || c == '+' || c == '.' || c == ':'

/-- A date, and the time behind it if there is one. -/
def dateValue : Reader Value := fun cs =>
  match cs with
  | ' ' :: rest =>
    let time := rest.takeWhile isTokenChar
    if isOffsetTime time then some (.time, rest.dropWhile isTokenChar) else some (.time, cs)
  | _ => some (.time, cs)

/-- A value that is no text, array or table. -/
def plainValue : Reader Value := do
  let token ← takeWhile isTokenChar
  if token = "true".toList then return .bool true
  else if token = "false".toList then return .bool false
  else if isDate token then dateValue
  else if isDateTime token then return .time
  else if isInteger token || isFloat token then return .number
  else refuse

/-- The items of an array and its end, at most so many items. -/
def items (item : Reader Value) : Nat → Reader (List Value)
  | 0 => refuse
  | n + 1 => do
    allSpaces
    if ← word? [']'] then return []
    else do
      let first ← item
      allSpaces
      if ← word? [','] then return first :: (← items item n)
      else do
        expect [']']
        return [first]

/-- The rest of a table between braces, at most so many entries; `entries` are those before. -/
def members (item : Reader Value) (entries : Entries) : Nat → Reader Entries
  | 0 => refuse
  | n + 1 => do
    let (path, last) ← key
    gap
    expect ['=']
    gap
    let value ← item
    gap
    match assign path last value .header entries with
    | none => refuse
    | some (_, entries) =>
      if ← word? [','] then members item entries n
      else do
        expect [Char.ofNat 0x7d]
        return entries

/-- A value in which arrays and tables are nested at most so deeply. -/
def value : Nat → Reader Value
  | 0 => do
    match ← peek? with
    | some c => if c = '"' ∨ c = Char.ofNat 39 then .text <$> quotedText else plainValue
    | none => refuse
  | depth + 1 => do
    match ← peek? with
    | none => refuse
    | some c =>
      if c = '"' ∨ c = Char.ofNat 39 then .text <$> quotedText
      else if c = '[' then do
        expect ['[']
        let rest ← get
        .array <$> items (value depth) (rest.length + 1)
      else if c = Char.ofNat 0x7b then do
        expect [c]
        gap
        if ← word? [Char.ofNat 0x7d] then return .table []
        else do
          let rest ← get
          let entries ← members (value depth) [] (rest.length + 1)
          return .table (finishedEntries entries)
      else plainValue

/-! ### Documents -/

/-- A document in the making: its entries, and the header of the table that keys go into. -/
structure Progress where
  /-- The entries so far. -/
  entries : Entries := []
  /-- The keys of the last header. -/
  header : List String := []

/-- A change made to a document. -/
def Progress.apply (p : Progress) (change : Change) : Reader Progress :=
  match change .header p.entries with
  | some (_, entries) => pure { p with entries }
  | none => refuse

/-- A header, `[key]` or `[[key]]`. -/
def headerLine (p : Progress) : Reader Progress := do
  expect ['[']
  let isRow ← word? ['[']
  let (path, last) ← key
  gap
  expect (if isRow then [']', ']'] else [']'])
  endLine
  let next ← p.apply (if isRow then openRow path last else openTable path last)
  return { next with header := path ++ [last] }

/-- A key with its value. -/
def keyLine (p : Progress) : Reader Progress := do
  let (path, last) ← key
  gap
  expect ['=']
  gap
  let v ← value (depthLimit - 1)
  endLine
  p.apply (alter .implied (assign path last v) p.header)

/-- The lines of a document, at most so many. -/
def documentLines : Nat → Progress → Reader Progress
  | 0, _ => refuse
  | n + 1, p => do
    gap
    match ← peek? with
    | none => return p
    | some c =>
      if c = '[' then headerLine p >>= documentLines n
      else if c = '#' ∨ c = '\n' ∨ c = '\r' then do
        endLine
        documentLines n p
      else keyLine p >>= documentLines n

/-- The entries of a document. A byte order mark at its start does not count. -/
def parse? (text : String) : Option (List (String × Value)) :=
  let cs := text.toList
  let cs := if cs.head? = some (Char.ofNat 0xfeff) then cs.drop 1 else cs
  (documentLines (cs.length + 1) {} cs).map fun (p, _) => finishedEntries p.entries

end TargetGraph.Toml
