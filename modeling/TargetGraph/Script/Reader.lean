import TargetGraph.Script.Command

set_option relaxedAutoImplicit false
set_option autoImplicit false

/-!
# Reading scripts

A script is read and run a line at a time, where a command may go on over several lines. What stands
before a mistake is run.

## Main definitions

* `TargetGraph.Script.SyntaxError` — a mistake in a script.
* `TargetGraph.Script.readLine` — the commands of the next line, and what is left.
-/

namespace TargetGraph.Script

/-- What is left of a script, and the number of the line that it starts on. -/
structure Remainder where
  /-- The characters. -/
  rest : List Char
  /-- The number of the line. -/
  line : Nat := 1
  deriving Repr

/-- A mistake in a script. -/
structure SyntaxError where
  /-- The number of its line. -/
  line : Nat
  /-- What it is. -/
  message : String
  deriving DecidableEq, Repr

/-- Reads something from the start of a script and leaves the rest. -/
abbrev Reader := StateT Remainder (Except SyntaxError)

/-- The single quote. -/
def singleQuote : Char := Char.ofNat 39

/-- The opening brace. -/
def openBrace : Char := Char.ofNat 0x7b

/-- The closing brace. -/
def closeBrace : Char := Char.ofNat 0x7d

/-- The backquote. -/
def backquote : Char := Char.ofNat 96

namespace Reader

/-- There is a mistake. -/
def fail {α : Type} (message : String) : Reader α := fun s => .error ⟨s.line, message⟩

/-- The next character, which stays. -/
def peek? : Reader (Option Char) := fun s => .ok (s.rest.head?, s)

/-- The next characters as they stand. -/
def ahead : Reader (List Char) := fun s => .ok (s.rest, s)

/-- So many characters are passed over. -/
def skip (count : Nat) : Reader Unit := fun s =>
  .ok ((), { rest := s.rest.drop count, line := s.line + (s.rest.take count).count '\n' })

/-- The next characters that satisfy `p`. -/
def takeWhile (p : Char → Bool) : Reader (List Char) := do
  let taken := (← ahead).takeWhile p
  skip taken.length
  return taken

/-- The given text, if it comes next. -/
def text? (text : String) : Reader Bool := do
  if text.toList.isPrefixOf (← ahead) then
    skip text.length
    return true
  else return false

end Reader

open Reader

/-- The character ends a word. -/
def endsWord (c : Char) : Bool :=
  [' ', '\t', '\n', ';', '&', '|', '<', '>', '(', ')'].contains c

/-- The character may start a name. -/
def startsName (c : Char) : Bool :=
  ('a' ≤ c && c ≤ 'z') || ('A' ≤ c && c ≤ 'Z') || c == '_'

/-- The character may stand in a name. -/
def isNameChar (c : Char) : Bool :=
  startsName c || c.isDigit

/-- The character names a parameter of the script. -/
def isSpecialParameter (c : Char) : Bool :=
  ['@', '*', '#', '?', '$', '!', '-'].contains c

/-- Blanks, joined lines and a comment are passed over. -/
def skipBlanks : Reader Unit := do
  let text ← ahead
  let rec count : List Char → Nat
    | ' ' :: rest | '\t' :: rest => count rest + 1
    | '\\' :: '\n' :: rest => count rest + 2
    | '#' :: rest => (rest.takeWhile (· != '\n')).length + 1
    | _ => 0
  skip (count text)

/-- The words that have a meaning at the start of a command. -/
def keywords : List String :=
  ["if", "then", "else", "elif", "fi", "while", "until", "for", "do", "done", "case", "esac", "in",
    String.singleton openBrace, String.singleton closeBrace, "!"]

/-- The next word, if nothing in it is quoted or put in. -/
def plainWord? : Reader (Option String) := do
  let isPlain (c : Char) :=
    !(endsWord c || ['"', '\\', '$', backquote, singleQuote].contains c)
  let text ← ahead
  let word := text.takeWhile isPlain
  match (text.drop word.length).head? with
  | some c => return if endsWord c && !word.isEmpty then some (String.ofList word) else none
  | none => return if word.isEmpty then none else some (String.ofList word)

/-- The next word, if it is a keyword. -/
def keyword? : Reader (Option String) := do
  return (← plainWord?).filter keywords.contains

/-- What comes next has no place there. -/
def unexpected {α : Type} (wanted : Option String := none) : Reader α := do
  let quoted (text : String) := "\"" ++ text ++ "\""
  let operators := ["&&", "||", ";;", "<<", ";", "&", "|", "(", ")"]
  let text ← ahead
  let token ← match text with
    | [] => pure "end of file"
    | '\n' :: _ => pure "newline"
    | _ => match operators.find? fun op => op.toList.isPrefixOf text with
      | some op => pure (quoted op)
      | none => match ← keyword? with
        | some word => pure (quoted word)
        | none => pure (if ['<', '>'].contains (text.headD ' ') then "redirection" else "word")
  let hint := match wanted with
    | some word => " (expecting " ++ quoted word ++ ")"
    | none => ""
  fail ("Syntax error: " ++ token ++ " unexpected" ++ hint)

/-- A text that comes next. -/
def expect (text : String) : Reader Unit := do
  unless ← text? text do unexpected (some text)

/-- A keyword that comes next. -/
def expectKeyword (word : String) : Reader Unit := do
  skipBlanks
  if (← keyword?) = some word then skip word.length else unexpected (some word)

/-- Blanks, comments and line ends are passed over, at most so many. -/
def skipLines : Nat → Reader Unit
  | 0 => pure ()
  | n + 1 => do
    skipBlanks
    if ← text? "\n" then skipLines n

/-- Where pieces are read, and so where they end and what is special. -/
inductive Setting where
  /-- In a word. -/
  | word
  /-- Between double quotes. -/
  | quotes
  /-- In braces, which may be between double quotes. -/
  | braces (quoted : Bool)
  /-- In an arithmetic expression, inside so many parentheses. -/
  | arithmetic (depth : Nat)
  /-- In a text that is given to a command. -/
  | here
  deriving DecidableEq, Repr

namespace Setting

/-- Nothing read here is split or has wildcards. -/
def quoted : Setting → Bool
  | .word => false
  | .braces quoted => quoted
  | _ => true

/-- The pieces end before these characters. -/
def endsBefore (setting : Setting) (text : List Char) : Bool :=
  match setting, text with
  | _, [] => true
  | .word, c :: _ => endsWord c
  | .quotes, c :: _ => c == '"'
  | .braces _, c :: _ => c == closeBrace
  | .arithmetic 0, ')' :: ')' :: _ => true
  | _, _ => false

/-- Double quotes have a meaning. -/
def hasQuotes : Setting → Bool
  | .word | .quotes | .braces _ => true
  | _ => false

/-- A backslash before this character stands for nothing but itself being dropped. -/
def escapes (setting : Setting) (c : Char) : Bool :=
  !setting.quoted || ['$', backquote, '\\', '\n'].contains c || (c == '"' && setting != .here)

end Setting

/-- The text inside backquotes as a script: some backslashes in it are dropped. -/
def unescapeBackquoted : List Char → List Char
  | '\\' :: c :: rest =>
    if ['$', backquote, '\\'].contains c then c :: unescapeBackquoted rest
    else '\\' :: c :: unescapeBackquoted rest
  | c :: rest => c :: unescapeBackquoted rest
  | [] => []

/-- How many characters there are before the closing backquote. -/
def backquotedLength : List Char → Nat
  | '\\' :: _ :: rest => backquotedLength rest + 2
  | c :: rest => if c = backquote then 0 else backquotedLength rest + 1
  | [] => 0

/-- The lines of a text before the one that is `mark`, and how many characters these and the mark
take. Tabs at the start of a line may be dropped. -/
def hereLines (dropTabs : Bool) (mark : List Char) : Nat → List Char → List Char × Nat
  | 0, _ => ([], 0)
  | _, [] => ([], 0)
  | n + 1, text =>
    let line := text.takeWhile (· != '\n')
    let kept := if dropTabs then line.dropWhile (· == '\t') else line
    let size := min text.length (line.length + 1)
    if kept = mark then ([], size)
    else
      let (others, more) := hereLines dropTabs mark n (text.drop size)
      (kept ++ '\n' :: others, size + more)

mutual

/-- Pieces up to the end of their setting. -/
def pieces (setting : Setting) : Nat → Reader (List Piece)
  | 0 => fail "Syntax error: too deep"
  | n + 1 => do
    let text ← ahead
    if setting.endsBefore text then return []
    match text with
    | '(' :: _ =>
      if let .arithmetic depth := setting then do
        skip 1
        return .text "(" true :: (← pieces (.arithmetic (depth + 1)) n)
    | ')' :: _ =>
      if let .arithmetic (depth + 1) := setting then do
        skip 1
        return .text ")" true :: (← pieces (.arithmetic depth) n)
    | _ => pure ()
    let some c ← peek? | return []
    if c = '\\' then
      skip 1
      match ← peek? with
      | some '\n' =>
        if setting.escapes '\n' then
          skip 1
          pieces setting n
        else return .text "\\" true :: (← pieces setting n)
      | some d =>
        skip 1
        let kept := if setting.escapes d then [d] else ['\\', d]
        return .text (String.ofList kept) true :: (← pieces setting n)
      | none => return [.text "\\" true]
    else if c = '$' then
      skip 1
      return (← dollar setting n) :: (← pieces setting n)
    else if c = backquote then
      skip 1
      let text ← ahead
      let size := backquotedLength text
      if size = text.length then fail "Syntax error: EOF in backquote substitution"
      let inner := unescapeBackquoted (text.take size)
      let line := (← get).line
      skip (size + 1)
      match list n ⟨inner, line⟩ with
      | .ok (script, _) => return .output script setting.quoted :: (← pieces setting n)
      | .error cause => fail cause.message
    else if c = '"' && setting.hasQuotes then
      skip 1
      let inner ← pieces .quotes n
      unless ← text? "\"" do fail "Syntax error: Unterminated quoted string"
      let isArguments := match inner with
        | [.parameter "@" _] => true
        | _ => false
      return (if isArguments then inner else .text "" true :: inner) ++ (← pieces setting n)
    else if c = singleQuote && !setting.quoted then
      skip 1
      let inner ← takeWhile (· != singleQuote)
      if (← peek?).isNone then fail "Syntax error: Unterminated quoted string"
      skip 1
      return .text (String.ofList inner) true :: (← pieces setting n)
    else
      skip 1
      return .text (String.singleton c) setting.quoted :: (← pieces setting n)

/-- What is put in behind a dollar sign. -/
def dollar (setting : Setting) : Nat → Reader Piece
  | 0 => fail "Syntax error: too deep"
  | n + 1 => do
    if ← text? "((" then
      let inner ← pieces (.arithmetic 0) n
      unless ← text? "))" do fail "Syntax error: Missing '))'"
      return .number inner
    if ← text? "(" then
      let script ← list n
      skipLines n
      unless ← text? ")" do unexpected (some ")")
      return .output script setting.quoted
    if ← text? (String.singleton openBrace) then
      let piece ← braced setting.quoted n
      if (← peek?).isNone then fail "Syntax error: Missing '\x7d'"
      unless ← text? (String.singleton closeBrace) do fail "Bad substitution"
      return piece
    match ← peek? with
    | some c =>
      if startsName c then return .parameter (String.ofList (← takeWhile isNameChar)) setting.quoted
      else if c.isDigit || isSpecialParameter c then do
        skip 1
        return .parameter (String.singleton c) setting.quoted
      else return .text "$" true
    | none => return .text "$" true

/-- What is put in between braces. -/
def braced (quoted : Bool) : Nat → Reader Piece
  | 0 => fail "Syntax error: too deep"
  | n + 1 => do
    let isName (text : List Char) := text.headD ' ' != closeBrace
    let ofLength := (← ahead).head? = some '#' && isName ((← ahead).drop 1)
    if ofLength then skip 1
    let name ← match ← peek? with
      | some c =>
        if startsName c then takeWhile isNameChar
        else if c.isDigit then takeWhile Char.isDigit
        else if isSpecialParameter c then do
          skip 1
          pure [c]
        else fail "Bad substitution"
      | none => fail "Bad substitution"
    let name := String.ofList name
    if ofLength then return .length name
    for (mark, atEnd, longest) in
        [("##", false, true), ("#", false, false), ("%%", true, true), ("%", true, false)] do
      if ← text? mark then return .trimmed name atEnd longest (← pieces (.braces false) n) quoted
    let emptyIsNone ← text? ":"
    for (mark, fallback) in
        [("-", Fallback.use), ("=", .assign), ("?", .fail), ("+", .invert)] do
      if ← text? mark then
        return .alternative name fallback emptyIsNone (← pieces (.braces quoted) n) quoted
    return .parameter name quoted

/-- A word. -/
def word : Nat → Reader Word
  | 0 => fail "Syntax error: too deep"
  | n + 1 => do
    match ← pieces .word n with
    | [] => unexpected
    | found => return found

/-- A redirection, if one comes next: perhaps a digit, then an arrow, then what it goes to. -/
def redirect? : Nat → Reader (Option Redirect)
  | 0 => fail "Syntax error: too deep"
  | n + 1 => do
    let text ← ahead
    let digit := text.headD ' '
    let number? := if digit.isDigit then some (digit.toNat - '0'.toNat) else none
    let arrow := if number?.isSome then text.drop 1 else text
    let size := if number?.isSome then 1 else 0
    match arrow with
    | '<' :: '<' :: '-' :: _ => skip (size + 3); some <$> hereText true n
    | '<' :: '<' :: _ => skip (size + 2); some <$> hereText false n
    | '<' :: '&' :: _ => skip (size + 2); some <$> (.copy (number?.getD 0) <$> target n)
    | '<' :: _ => skip (size + 1); some <$> (.read <$> target n)
    | '>' :: '&' :: _ => skip (size + 2); some <$> (.copy (number?.getD 1) <$> target n)
    | '>' :: '>' :: _ => skip (size + 2); some <$> (.write (number?.getD 1) <$> target n)
    | '>' :: '|' :: _ => skip (size + 2); some <$> (.write (number?.getD 1) <$> target n)
    | '>' :: _ => skip (size + 1); some <$> (.write (number?.getD 1) <$> target n)
    | _ => return none

/-- What a redirection goes to. -/
def target : Nat → Reader Word
  | 0 => fail "Syntax error: too deep"
  | n + 1 => do
    skipBlanks
    word n

/-- A text that is given to a command: the lines behind this one, up to one that is a given mark. -/
def hereText (dropTabs : Bool) : Nat → Reader Redirect
  | 0 => fail "Syntax error: too deep"
  | n + 1 => do
    skipBlanks
    let mark ← word n
    let quoted := mark.any fun
      | .text _ true => true
      | _ => false
    let text := mark.flatMap fun
      | .text text _ => text.toList
      | _ => []
    let state ← get
    let sameLine := state.rest.takeWhile (· != '\n')
    let below := state.rest.drop (sameLine.length + 1)
    let (body, size) := hereLines dropTabs text (below.length + 1) below
    set { state with rest := sameLine ++ '\n' :: below.drop size }
    if quoted then return .here [.text (String.ofList body) true]
    match pieces .here n ⟨body, state.line⟩ with
    | .ok (found, _) => return .here found
    | .error cause => fail cause.message

/-- All redirections that come next. -/
def redirects : Nat → Reader (List Redirect)
  | 0 => return []
  | n + 1 => do
    skipBlanks
    match ← redirect? n with
    | some redirect => return redirect :: (← redirects n)
    | none => return []

/-- The words, assignments and redirections of a simple command. -/
def simple (line : Nat) (assignments : List (String × Word)) (words : List Word)
    (seen : List Redirect) : Nat → Reader Command
  | 0 => fail "Syntax error: too deep"
  | n + 1 => do
    skipBlanks
    match ← redirect? n with
    | some redirect => simple line assignments words (seen ++ [redirect]) n
    | none =>
      match ← peek? with
      | some c =>
        if endsWord c then return .simple line assignments words seen
        let text ← ahead
        let name := text.takeWhile isNameChar
        if words.isEmpty && startsName c && (text.drop name.length).head? == some '=' then
          skip (name.length + 1)
          let value ← pieces .word n
          simple line (assignments ++ [(String.ofList name, value)]) words seen n
        else
          let next ← word n
          simple line assignments (words ++ [next]) seen n
      | none => return .simple line assignments words seen

/-- The commands up to a keyword, which is passed over. -/
def block (keyword : String) : Nat → Reader Command
  | 0 => fail "Syntax error: too deep"
  | n + 1 => do
    let commands ← list n
    skipLines n
    if commands.isEmpty then unexpected
    expectKeyword keyword
    return .sequence commands

/-- What follows the commands behind a test: another test, an alternative, or the end. -/
def alternatives : Nat → Reader Command
  | 0 => fail "Syntax error: too deep"
  | n + 1 => do
    skipLines n
    match ← keyword? with
    | some "elif" => do
      skip 4
      let test ← block "then" n
      let body ← list n
      return .conditional test (.sequence body) (← alternatives n)
    | some "else" => do
      skip 4
      block "fi" n
    | _ => do
      expectKeyword "fi"
      return .sequence []

/-- The words behind `in`, up to the end of the line. -/
def wordsToEnd : Nat → Reader (List Word)
  | 0 => return []
  | n + 1 => do
    skipBlanks
    match ← peek? with
    | some c => if endsWord c then return [] else return (← word n) :: (← wordsToEnd n)
    | none => return []

/-- The patterns of a branch. -/
def patterns : Nat → Reader (List Word)
  | 0 => return []
  | n + 1 => do
    skipBlanks
    let first ← word n
    skipBlanks
    if ← text? "|" then return first :: (← patterns n)
    expect ")"
    return [first]

/-- The branches of a selection. -/
def branches : Nat → Reader (List (List Word × Command))
  | 0 => return []
  | n + 1 => do
    skipLines n
    if (← keyword?) = some "esac" then
      skip 4
      return []
    discard (text? "(")
    let found ← patterns n
    let body ← list n
    skipLines n
    if ← text? ";;" then return (found, .sequence body) :: (← branches n)
    expectKeyword "esac"
    return [(found, .sequence body)]

/-- A command that starts with a keyword or a parenthesis, or a simple one. -/
def command : Nat → Reader Command
  | 0 => fail "Syntax error: too deep"
  | n + 1 => do
    skipBlanks
    let compound (body : Reader Command) : Reader Command := do
      let body ← body
      match ← redirects n with
      | [] => return body
      | found => return .redirected body found
    match ← keyword? with
    | some "if" => compound do
      skip 2
      let test ← block "then" n
      let body ← list n
      return .conditional test (.sequence body) (← alternatives n)
    | some "while" => compound do
      skip 5
      let test ← block "do" n
      return .loop true test (← block "done" n)
    | some "until" => compound do
      skip 5
      let test ← block "do" n
      return .loop false test (← block "done" n)
    | some "for" => compound do
      skip 3
      skipBlanks
      let name ← takeWhile isNameChar
      unless startsName (name.headD ' ') do fail "Syntax error: Bad for loop variable"
      skipLines n
      let words ← if (← keyword?) = some "in" then do
          skip 2
          some <$> wordsToEnd n
        else pure none
      skipBlanks
      discard (text? ";")
      skipLines n
      expectKeyword "do"
      return .each (String.ofList name) words (← block "done" n)
    | some "case" => compound do
      skip 4
      skipBlanks
      let subject ← word n
      skipLines n
      expectKeyword "in"
      return .select subject (← branches n)
    | some other =>
      if other = String.singleton openBrace then compound do
        skip 1
        block (String.singleton closeBrace) n
      else unexpected
    | none =>
      if ← text? "(" then compound do
        let body ← list n
        skipLines n
        if body.isEmpty && (← peek?).isSome then unexpected
        expect ")"
        return .isolated (.sequence body)
      else
        let text ← ahead
        let name := text.takeWhile isNameChar
        if !name.isEmpty && ['(', ')'].isPrefixOf (text.drop name.length) then
          skip (name.length + 2)
          skipLines n
          return .define (String.ofList name) (← command n)
        match ← simple (← get).line [] [] [] n with
        | .simple _ [] [] [] => unexpected
        | found => return found

/-- Commands with bars between them. -/
def stages : Nat → Reader (List Command)
  | 0 => fail "Syntax error: too deep"
  | n + 1 => do
    let first ← command n
    skipBlanks
    match ← ahead with
    | '|' :: '|' :: _ => return [first]
    | '|' :: _ =>
      skip 1
      skipLines n
      return first :: (← stages n)
    | _ => return [first]

/-- Commands with bars between them, perhaps with the result negated. -/
def pipeline : Nat → Reader Command
  | 0 => fail "Syntax error: too deep"
  | n + 1 => do
    skipBlanks
    if (← keyword?) = some "!" then
      skip 1
      return .pipeline true (← stages n)
    match ← stages n with
    | [only] => return only
    | found => return .pipeline false found

/-- Pipelines that depend on those before. -/
def chain (first : Command) : Nat → Reader Command
  | 0 => fail "Syntax error: too deep"
  | n + 1 => do
    skipBlanks
    if ← text? "&&" then
      skipLines n
      chain (.both first (← pipeline n)) n
    else if ← text? "||" then
      skipLines n
      chain (.either first (← pipeline n)) n
    else return first

/-- Commands up to something that ends them. -/
def list : Nat → Reader (List Command)
  | 0 => fail "Syntax error: too deep"
  | n + 1 => do
    skipLines n
    let text ← ahead
    let closing := ["then", "else", "elif", "fi", "do", "done", "esac", String.singleton closeBrace]
    let atKeyword := ((← keyword?).filter closing.contains).isSome
    if text.isEmpty || text.head? = some ')' || [';', ';'].isPrefixOf text || atKeyword then
      return []
    let first ← chain (← pipeline n) n
    skipBlanks
    let text ← ahead
    if text.head? = some '\n' then return first :: (← list n)
    else if text.head? = some ';' && !([';', ';'].isPrefixOf text) then do
      skip 1
      return first :: (← list n)
    else if text.head? = some '&' then do
      skip 1
      return .background first :: (← list n)
    else if text.isEmpty || text.head? = some ')' || [';', ';'].isPrefixOf text then return [first]
    else unexpected

end

/-- The commands of a line, one after another. -/
def lineCommands (depth : Nat) : Nat → Reader (List Command)
  | 0 => return []
  | n + 1 => do
    let first ← chain (← pipeline depth) depth
    skipBlanks
    let text ← ahead
    let (first, size) ← match text with
      | ';' :: ';' :: _ => unexpected
      | ';' :: _ => pure (first, 1)
      | '&' :: _ => pure (.background first, 1)
      | _ => pure (first, 0)
    skip size
    skipBlanks
    match ← peek? with
    | none => return [first]
    | some '\n' => return [first]
    | some _ => if size = 0 then unexpected else return first :: (← lineCommands depth n)

/-- The commands of the next line that has any, and what is left; nothing at the end of the
script. -/
def readLine (script : Remainder) : Except SyntaxError (Option (List Command × Remainder)) :=
  let size := script.rest.length + 1
  let reader : Reader (Option (List Command)) := do
    skipLines size
    match ← peek? with
    | none => return none
    | some _ => some <$> lineCommands (8 * size + 64) size
  match reader script with
  | .error cause => .error cause
  | .ok (none, _) => .ok none
  | .ok (some commands, rest) => .ok (some (commands, rest))

end TargetGraph.Script
