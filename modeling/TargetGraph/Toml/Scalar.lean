import TargetGraph.Text.Digit

set_option relaxedAutoImplicit false
set_option autoImplicit false

/-!
# Numbers and times in TOML

Only their forms are checked: nothing here wants to know a number or a time.

## Main definitions

* `TargetGraph.Toml.isInteger`, `TargetGraph.Toml.isFloat` — the forms of numbers.
* `TargetGraph.Toml.isDate`, `TargetGraph.Toml.isTime`, `TargetGraph.Toml.isDateTime` — the forms of
  dates and times.
-/

namespace TargetGraph.Toml

open Text

/-- The value of a digit in a base of at most sixteen. -/
def digitIn? (base : Nat) (c : Char) : Option Nat :=
  let value? :=
    if '0' ≤ c ∧ c ≤ '9' then some (c.toNat - '0'.toNat)
    else if 'a' ≤ c ∧ c ≤ 'f' then some (c.toNat - 'a'.toNat + 10)
    else if 'A' ≤ c ∧ c ≤ 'F' then some (c.toNat - 'A'.toNat + 10)
    else none
  value?.filter fun value => value < base

/-- Digits with single underscores between them; the digits without the underscores. -/
def spacedDigits? (base : Nat) : List Char → Option (List Nat)
  | [] => none
  | [c] => (digitIn? base c).map fun d => [d]
  | c :: '_' :: rest =>
    match digitIn? base c, spacedDigits? base rest with
    | some d, some ds => some (d :: ds)
    | _, _ => none
  | c :: next :: rest =>
    match digitIn? base c, spacedDigits? base (next :: rest) with
    | some d, some ds => some (d :: ds)
    | _, _ => none

/-- The number that some digits write. -/
def valueOf (base : Nat) (digits : List Nat) : Nat :=
  digits.foldl (fun n d => base * n + d) 0

/-- The text without a sign at its start, and whether that is a minus. -/
def unsigned : List Char → Bool × List Char
  | '+' :: rest => (false, rest)
  | '-' :: rest => (true, rest)
  | cs => (false, cs)

/-- The digits of a decimal number without leading zeros. -/
def wholePart? (cs : List Char) : Option (List Nat) :=
  match cs with
  | '0' :: _ :: _ => none
  | _ => spacedDigits? 10 cs

/-- Integers lie from the negative of this bound to just below it. -/
def integerBound : Nat := Nat.pow 2 63

/-- An integer of 64 bits: decimal with an optional sign, or hexadecimal, octal or binary. -/
def isInteger (cs : List Char) : Bool :=
  let below (base : Nat) (digits : List Char) :=
    match spacedDigits? base digits with
    | some ds => valueOf base ds < integerBound
    | none => false
  match cs with
  | '0' :: 'x' :: digits => below 16 digits
  | '0' :: 'o' :: digits => below 8 digits
  | '0' :: 'b' :: digits => below 2 digits
  | _ =>
    let (negative, digits) := unsigned cs
    match wholePart? digits with
    | some ds => valueOf 10 ds < integerBound + (if negative then 1 else 0)
    | none => false

/-- A text cut at its first `e` or `E`. -/
def cutAtExponent (cs : List Char) : List Char × Option (List Char) :=
  match cs.dropWhile fun c => c != 'e' && c != 'E' with
  | [] => (cs, none)
  | _ :: power => (cs.takeWhile fun c => c != 'e' && c != 'E', some power)

/-- The number with these digits, times this power of ten, is too great for a double: it rounds to
infinity. Whether it does shows at half a unit above the greatest double. -/
def overflows (digits : List Nat) (power : Int) : Bool :=
  let significand := valueOf 10 digits
  let bound := Nat.pow 2 1024 - Nat.pow 2 970
  let magnitude : Int := (Nat.toDigits 10 significand).length + power
  if significand = 0 then false
  else if magnitude < 300 then false
  else if 320 < magnitude then true
  else if 0 ≤ power then bound ≤ significand * Nat.pow 10 power.toNat
  else bound * Nat.pow 10 (-power).toNat ≤ significand

/-- A float: a decimal number with a fraction, an exponent or both, or a name. Too great a number is
refused, unless it is negative. -/
def isFloat (cs : List Char) : Bool :=
  let (negative, body) := unsigned cs
  if body = "inf".toList ∨ body = "nan".toList then true
  else
    let (mantissa, exponent) := cutAtExponent body
    let whole := mantissa.takeWhile (· != '.')
    let fraction : Option (List Char) :=
      match mantissa.dropWhile (· != '.') with
      | [] => none
      | _ :: digits => some digits
    let power? : Option Int :=
      match exponent with
      | none => some 0
      | some power =>
        let (down, digits) := unsigned power
        (spacedDigits? 10 digits).map fun ds =>
          if down then -(Int.ofNat (valueOf 10 ds)) else Int.ofNat (valueOf 10 ds)
    let fraction? : Option (List Nat) :=
      match fraction with
      | none => some []
      | some digits => spacedDigits? 10 digits
    match wholePart? whole, fraction?, power? with
    | some ws, some fs, some power =>
      (fraction.isSome || exponent.isSome) &&
        (negative || !overflows (ws ++ fs) (power - fs.length))
    | _, _, _ => false

/-- The value of exactly so many digits that lies between two bounds. -/
def number? (count least greatest : Nat) (cs : List Char) : Option Nat :=
  if cs.length = count then (decimalValue? cs).filter fun n => least ≤ n && n ≤ greatest else none

/-- The number of days in a month. -/
def daysIn (year month : Nat) : Nat :=
  if month = 2 then
    if (year % 4 = 0 ∧ year % 100 ≠ 0) ∨ year % 400 = 0 then 29 else 28
  else if month = 4 ∨ month = 6 ∨ month = 9 ∨ month = 11 then 30
  else 31

/-- A date, `YYYY-MM-DD`. -/
def isDate (cs : List Char) : Bool :=
  cs.length == 10 && cs[4]? == some '-' && cs[7]? == some '-' &&
    match number? 4 0 9999 (cs.take 4), number? 2 1 12 ((cs.drop 5).take 2),
        number? 2 1 31 (cs.drop 8) with
    | some year, some month, some day => day ≤ daysIn year month
    | _, _, _ => false

/-- Hours and minutes, `HH:MM`. -/
def isClock (cs : List Char) : Bool :=
  cs.length == 5 && cs[2]? == some ':' && (number? 2 0 23 (cs.take 2)).isSome &&
    (number? 2 0 59 (cs.drop 3)).isSome

/-- A time, `HH:MM:SS` with an optional fraction of a second. -/
def isTime (cs : List Char) : Bool :=
  isClock (cs.take 5) && cs[5]? == some ':' && (number? 2 0 60 ((cs.drop 6).take 2)).isSome &&
    match cs.drop 8 with
    | [] => true
    | '.' :: digits => (decimalValue? digits).isSome
    | _ => false

/-- A time with an optional offset, `Z` or `+HH:MM`. -/
def isOffsetTime (cs : List Char) : Bool :=
  isTime cs ||
    match cs.reverse with
    | 'Z' :: time | 'z' :: time => isTime time.reverse
    | _ =>
      let time := cs.take (cs.length - 6)
      let offset := cs.drop (cs.length - 6)
      (offset.head? == some '+' || offset.head? == some '-') && isClock (offset.drop 1) &&
        isTime time

/-- A date, a time, or a date and a time with a `T` between them. -/
def isDateTime (cs : List Char) : Bool :=
  isTime cs || isDate cs ||
    (isDate (cs.take 10) && (cs[10]? == some 'T' || cs[10]? == some 't') &&
      isOffsetTime (cs.drop 11))

end TargetGraph.Toml
