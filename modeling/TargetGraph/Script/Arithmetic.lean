set_option relaxedAutoImplicit false
set_option autoImplicit false

/-!
# Arithmetic in scripts

## Main definitions

* `TargetGraph.Script.number?` — the integer that a text writes.
* `TargetGraph.Script.ArithmeticFault` — why an expression has no value.
* `TargetGraph.Script.evaluate` — the value of an expression.
-/

namespace TargetGraph.Script

/-- The value of a digit. -/
def digitValue (c : Char) : Nat :=
  if '0' ≤ c ∧ c ≤ '9' then c.toNat - '0'.toNat
  else if 'a' ≤ c ∧ c ≤ 'z' then c.toNat - 'a'.toNat + 10
  else if 'A' ≤ c ∧ c ≤ 'Z' then c.toNat - 'A'.toNat + 10
  else 36

/-- The number that digits of a base write. -/
def natural? (base : Nat) (cs : List Char) : Option Nat :=
  if !cs.isEmpty && cs.all fun c => digitValue c < base then
    some (cs.foldl (fun n c => base * n + digitValue c) 0)
  else none

/-- The integer that a text writes: decimal, perhaps with a sign and blanks around it. -/
def number? (text : String) : Option Int :=
  let isSpace (c : Char) := c == ' ' || c == '\t' || c == '\n'
  let cs := ((text.toList.dropWhile isSpace).reverse.dropWhile isSpace).reverse
  match cs with
  | '-' :: digits => (natural? 10 digits).map fun n => -Int.ofNat n
  | '+' :: digits => (natural? 10 digits).map Int.ofNat
  | digits => (natural? 10 digits).map Int.ofNat

/-- The number that a constant in an expression writes: hexadecimal, octal or decimal. -/
def constant? (cs : List Char) : Option Nat :=
  match cs with
  | '0' :: 'x' :: digits | '0' :: 'X' :: digits => natural? 16 digits
  | '0' :: digits => if digits.isEmpty then some 0 else natural? 8 digits
  | digits => natural? 10 digits

/-- Why an expression has no value. -/
inductive ArithmeticFault where
  /-- A value is missing, or it is no number. -/
  | noValue
  /-- Something stands behind its end. -/
  | noEnd
  /-- A division is by zero. -/
  | division
  deriving DecidableEq, Repr

/-- The wording of a fault in an expression. -/
def ArithmeticFault.message (fault : ArithmeticFault) (text : String) : String :=
  let reason := match fault with
    | .noValue => "expecting primary"
    | .noEnd => "expecting EOF"
    | .division => "division by zero"
  "arithmetic expression: " ++ reason ++ ": \"" ++ text ++ "\""

/-- A part of an expression. -/
inductive Token where
  /-- A number or a variable. -/
  | value (value : Int)
  /-- An operator or a parenthesis. -/
  | operator (text : String)
  deriving DecidableEq, Repr

/-- The operators, each before any that it starts with. -/
def operatorTexts : List String :=
  ["<<", ">>", "<=", ">=", "==", "!=", "&&", "||", "+", "-", "*", "/", "%", "<", ">", "&", "|", "^",
    "!", "~", "?", ":", "(", ")"]

/-- The character may stand in a number or the name of a variable. -/
def isOperandChar (c : Char) : Bool :=
  c.isAlphanum || c == '_'

/-- The tokens of an expression, given the values of variables. The number bounds their count. -/
def tokens? (lookup : String → Option Int) : Nat → List Char → Option (List Token)
  | _, [] => some []
  | 0, _ => none
  | n + 1, c :: rest =>
    if c == ' ' || c == '\t' || c == '\n' then tokens? lookup n rest
    else if isOperandChar c then
      let operand := c :: rest.takeWhile isOperandChar
      let value? := if c.isDigit then (constant? operand).map Int.ofNat
        else lookup (String.ofList operand)
      match value?, tokens? lookup n (rest.dropWhile isOperandChar) with
      | some value, some others => some (.value value :: others)
      | _, _ => none
    else
      match operatorTexts.find? fun op => op.toList.isPrefixOf (c :: rest) with
      | none => none
      | some op =>
        (tokens? lookup n ((c :: rest).drop op.length)).map fun others => .operator op :: others

/-- The number of a truth value. -/
def truth (b : Bool) : Int :=
  if b then 1 else 0

/-- How tightly an operator between two values binds. -/
def binding : String → Nat
  | "||" => 1
  | "&&" => 2
  | "|" => 3
  | "^" => 4
  | "&" => 5
  | "==" | "!=" => 6
  | "<" | ">" | "<=" | ">=" => 7
  | "<<" | ">>" => 8
  | "+" | "-" => 9
  | "*" | "/" | "%" => 10
  | _ => 0

/-- An operation on bits, on numbers of 64 bits in two's complement. -/
def onBits (operation : Int64 → Int64 → Int64) (a b : Int) : Int :=
  (operation (Int64.ofInt a) (Int64.ofInt b)).toInt

/-- The value of an operator between two values. Division is toward zero. -/
def combine (op : String) (a b : Int) : Except ArithmeticFault Int :=
  match op with
  | "||" => .ok (truth (a != 0 || b != 0))
  | "&&" => .ok (truth (a != 0 && b != 0))
  | "|" => .ok (onBits (· ||| ·) a b)
  | "^" => .ok (onBits (· ^^^ ·) a b)
  | "&" => .ok (onBits (· &&& ·) a b)
  | "==" => .ok (truth (a == b))
  | "!=" => .ok (truth (a != b))
  | "<" => .ok (truth (a < b))
  | ">" => .ok (truth (a > b))
  | "<=" => .ok (truth (a ≤ b))
  | ">=" => .ok (truth (a ≥ b))
  | "<<" => .ok (onBits (· <<< ·) a b)
  | ">>" => .ok (onBits (· >>> ·) a b)
  | "+" => .ok (onBits (· + ·) a b)
  | "-" => .ok (onBits (· - ·) a b)
  | "*" => .ok (onBits (· * ·) a b)
  | "/" => if b = 0 then .error .division else .ok (Int.tdiv a b)
  | "%" => if b = 0 then .error .division else .ok (Int.tmod a b)
  | _ => .error .noValue

mutual

/-- A single value: a number, one in parentheses, or one behind an operator. -/
def operand : Nat → List Token → Except ArithmeticFault (Int × List Token)
  | 0, _ => .error .noValue
  | n + 1, tokens =>
    match tokens with
    | .value value :: rest => .ok (value, rest)
    | .operator "(" :: rest => do
      match ← choice n rest with
      | (value, .operator ")" :: rest) => return (value, rest)
      | _ => throw .noValue
    | .operator "-" :: rest => return (← operand n rest).map (fun value => -value) id
    | .operator "+" :: rest => operand n rest
    | .operator "!" :: rest => return (← operand n rest).map (fun value => truth (value == 0)) id
    | .operator "~" :: rest => return (← operand n rest).map (fun value => -value - 1) id
    | _ => .error .noValue

/-- Values between operators that bind at least so tightly; `left` is the value before them. -/
def operations (least : Nat) (left : Int) :
    Nat → List Token → Except ArithmeticFault (Int × List Token)
  | 0, _ => .error .noValue
  | n + 1, tokens =>
    match tokens with
    | .operator op :: rest =>
      if binding op = 0 ∨ binding op < least then .ok (left, tokens)
      else do
        let (next, rest) ← operand n rest
        let (right, rest) ← operations (binding op + 1) next n rest
        operations least (← combine op left right) n rest
    | _ => .ok (left, tokens)

/-- An expression: operations, and perhaps a choice by their value. -/
def choice : Nat → List Token → Except ArithmeticFault (Int × List Token)
  | 0, _ => .error .noValue
  | n + 1, tokens => do
    let (first, rest) ← operand n tokens
    match ← operations 1 first n rest with
    | (test, .operator "?" :: rest) =>
      match ← choice n rest with
      | (yes, .operator ":" :: rest) =>
        let (no, rest) ← choice n rest
        return (if test != 0 then yes else no, rest)
      | _ => throw .noValue
    | result => return result

end

/-- The value of an expression, given the values of variables. -/
def evaluate (lookup : String → Option Int) (text : String) : Except ArithmeticFault Int :=
  match tokens? lookup (text.length + 1) text.toList with
  | none => .error .noValue
  | some [] => .ok 0
  | some tokens =>
    match choice (4 * tokens.length + 8) tokens with
    | .ok (value, []) => .ok value
    | .ok _ => .error .noEnd
    | .error fault => .error fault

end TargetGraph.Script
