import TargetGraph.Json.Raw

set_option relaxedAutoImplicit false
set_option autoImplicit false

/-!
# Scanning a JSON value

A scanner takes in the bytes of one array or object, one at a time, and knows with the last of them
that the value is complete. It holds the containers that are open in a list, so that values may be
nested to any depth.

## Main definitions

* `TargetGraph.Json.Scanner` — a value in the middle of being read.
* `TargetGraph.Json.Scanner.start?` — the scanner after the first byte of a container.
* `TargetGraph.Json.Scanner.step` — what one more byte makes of a scanner.
* `TargetGraph.Json.Progress.feed` — what some more bytes make of it.
-/

namespace TargetGraph.Json

/-- A container that is not closed yet; what is in it so far, last first. -/
inductive Container where
  /-- An array. -/
  | array (items : List Raw)
  /-- An object, and the key whose value comes next. -/
  | object (members : List (List UInt8 × Raw)) (key : List UInt8)

/-- Where in an escape a text is. -/
inductive Escape where
  /-- In none. -/
  | outside
  /-- Behind the backslash. -/
  | letter
  /-- With so many hexadecimal digits to come after the next one. -/
  | digits (more : Nat)
  deriving DecidableEq, Repr

/-- Where in a number a number is. -/
inductive NumberPart where
  /-- Behind the minus sign. -/
  | minus
  /-- Behind a leading zero. -/
  | zero
  /-- Among the digits before the point. -/
  | whole
  /-- Behind the point. -/
  | point
  /-- Among the digits after the point. -/
  | fraction
  /-- Behind the `e`. -/
  | exponent
  /-- Behind the exponent's sign. -/
  | sign
  /-- Among the digits of the exponent. -/
  | power
  deriving DecidableEq, Repr

/-- What a scanner is in the middle of. -/
inductive Expecting where
  /-- The first item of an array, or its end. -/
  | firstItem
  /-- A value. -/
  | item
  /-- A comma or the end of the container. -/
  | separator
  /-- The first key of an object, or its end. -/
  | firstKey
  /-- A key. -/
  | key
  /-- The colon behind a key. -/
  | colon
  /-- The rest of a text; its bytes so far, last first. -/
  | text (isKey : Bool) (bytes : List UInt8) (escape : Escape)
  /-- The rest of a word that stands for a value. -/
  | word (letters : List UInt8) (value : Raw)
  /-- The rest of a number. -/
  | number (part : NumberPart)

/-- A value in the middle of being read. -/
structure Scanner where
  /-- The open containers, innermost first. -/
  containers : List Container
  /-- What comes next. -/
  expecting : Expecting

/-- What a byte makes of a scanner. -/
inductive Progress where
  /-- The value goes on. -/
  | reading (scanner : Scanner)
  /-- The byte was the value's last. -/
  | complete (value : Raw)
  /-- No value goes on like this. -/
  | malformed

/-- The bytes that may stand between the parts of a value. -/
def isSpace (b : UInt8) : Bool :=
  b == 0x20 || b == 0x0a || b == 0x0d || b == 0x09

/-- A decimal digit. -/
def isDigit (b : UInt8) : Bool :=
  0x30 ≤ b && b ≤ 0x39

/-- The part of a number that a byte leads to, if the number goes on with it. -/
def NumberPart.next? (part : NumberPart) (b : UInt8) : Option NumberPart :=
  let isE := b == 0x65 || b == 0x45
  let firstDigit : Option NumberPart :=
    if b == 0x30 then some .zero else if isDigit b then some .whole else none
  match part with
  | .minus => firstDigit
  | .zero => if b == 0x2e then some .point else if isE then some .exponent else none
  | .whole =>
    if isDigit b then some .whole
    else if b == 0x2e then some .point
    else if isE then some .exponent
    else none
  | .point => if isDigit b then some .fraction else none
  | .fraction => if isDigit b then some .fraction else if isE then some .exponent else none
  | .exponent =>
    if b == 0x2b || b == 0x2d then some .sign else if isDigit b then some .power else none
  | .sign => if isDigit b then some .power else none
  | .power => if isDigit b then some .power else none

/-- A number may end here. A digit behind a leading zero is no end: numbers have none. -/
def NumberPart.mayEndBefore (part : NumberPart) (b : UInt8) : Bool :=
  match part with
  | .zero => !isDigit b
  | .whole | .fraction | .power => true
  | .minus | .point | .exponent | .sign => false

/-- Where in an escape a text is behind one more byte, if it may go on with it. Control characters
may not stand in a text. -/
def Escape.next? (escape : Escape) (b : UInt8) : Option Escape :=
  match escape with
  | .outside => if b < 0x20 then none else if b == 0x5c then some .letter else some .outside
  | .letter =>
    if b == 0x75 then some (.digits 3)
    else if (escapedByte? b).isSome then some .outside
    else none
  | .digits more =>
    if (hexValue? b).isNone then none
    else match more with
      | 0 => some .outside
      | more + 1 => some (.digits more)

namespace Scanner

/-- The scanner behind the first byte of an array or object. -/
def start? (b : UInt8) : Option Scanner :=
  if b == 0x5b then some ⟨[.array []], .firstItem⟩
  else if b == 0x7b then some ⟨[.object [] []], .firstKey⟩
  else none

/-- A value is complete: it goes into the container it stands in. -/
def close (containers : List Container) (value : Raw) : Progress :=
  match containers with
  | [] => .complete value
  | .array items :: outer => .reading ⟨.array (value :: items) :: outer, .separator⟩
  | .object members key :: outer =>
    .reading ⟨.object ((key, value) :: members) [] :: outer, .separator⟩

/-- The innermost container ends with this byte, if the byte is the right one for it. -/
def closeContainer (containers : List Container) (b : UInt8) : Progress :=
  match containers with
  | .array items :: outer => if b == 0x5d then close outer (.array items.reverse) else .malformed
  | .object members _ :: outer =>
    if b == 0x7d then close outer (.object members.reverse) else .malformed
  | [] => .malformed

/-- The first byte of a value. -/
def startValue (containers : List Container) (b : UInt8) : Progress :=
  if b == 0x22 then .reading ⟨containers, .text false [] .outside⟩
  else if b == 0x5b then .reading ⟨.array [] :: containers, .firstItem⟩
  else if b == 0x7b then .reading ⟨.object [] [] :: containers, .firstKey⟩
  else if b == 0x74 then .reading ⟨containers, .word [0x72, 0x75, 0x65] (.bool true)⟩
  else if b == 0x66 then .reading ⟨containers, .word [0x61, 0x6c, 0x73, 0x65] (.bool false)⟩
  else if b == 0x6e then .reading ⟨containers, .word [0x75, 0x6c, 0x6c] .null⟩
  else if b == 0x2d then .reading ⟨containers, .number .minus⟩
  else if b == 0x30 then .reading ⟨containers, .number .zero⟩
  else if isDigit b then .reading ⟨containers, .number .whole⟩
  else .malformed

/-- The byte behind a value inside a container: a comma, the end or a space. -/
def separate (containers : List Container) (b : UInt8) : Progress :=
  if isSpace b then .reading ⟨containers, .separator⟩
  else if b == 0x2c then
    match containers with
    | .array _ :: _ => .reading ⟨containers, .item⟩
    | .object _ _ :: _ => .reading ⟨containers, .key⟩
    | [] => .malformed
  else closeContainer containers b

/-- A text ends. -/
def closeText (containers : List Container) (isKey : Bool) (bytes : List UInt8) : Progress :=
  if isKey then
    match containers with
    | .object members _ :: outer => .reading ⟨.object members bytes.reverse :: outer, .colon⟩
    | _ => .malformed
  else close containers (.text bytes.reverse)

/-- What one more byte makes of a scanner. -/
def step (s : Scanner) (b : UInt8) : Progress :=
  match s.expecting with
  | .firstItem =>
    if isSpace b then .reading s
    else if b == 0x5d then closeContainer s.containers b
    else startValue s.containers b
  | .item => if isSpace b then .reading s else startValue s.containers b
  | .separator => separate s.containers b
  | .firstKey =>
    if isSpace b then .reading s
    else if b == 0x22 then .reading { s with expecting := .text true [] .outside }
    else closeContainer s.containers b
  | .key =>
    if isSpace b then .reading s
    else if b == 0x22 then .reading { s with expecting := .text true [] .outside }
    else .malformed
  | .colon =>
    if isSpace b then .reading s
    else if b == 0x3a then .reading { s with expecting := .item }
    else .malformed
  | .text isKey bytes escape =>
    if escape = .outside ∧ b = 0x22 then closeText s.containers isKey bytes
    else match escape.next? b with
      | some escape => .reading { s with expecting := .text isKey (b :: bytes) escape }
      | none => .malformed
  | .word letters value =>
    match letters with
    | [] => .malformed
    | letter :: more =>
      if b ≠ letter then .malformed
      else if more.isEmpty then close s.containers value
      else .reading { s with expecting := .word more value }
  | .number part =>
    match part.next? b with
    | some part => .reading { s with expecting := .number part }
    | none =>
      if part.mayEndBefore b then
        match close s.containers .number with
        | .reading after => separate after.containers b
        | _ => .malformed
      else .malformed

end Scanner

namespace Progress

/-- One more byte: there is none behind a complete value. -/
def step (p : Progress) (b : UInt8) : Progress :=
  match p with
  | .reading scanner => scanner.step b
  | .complete _ | .malformed => .malformed

/-- Some more bytes. -/
def feed (p : Progress) (bytes : List UInt8) : Progress :=
  bytes.foldl step p

end Progress

end TargetGraph.Json
