import TargetGraph.Json.Scanner

set_option relaxedAutoImplicit false
set_option autoImplicit false

/-!
# The grammar of JSON

What bytes write a JSON value, without a reader. Texts are written by the bytes between their
quotes, whatever these stand for.

## Main definitions

* `TargetGraph.Json.Gap`, `TargetGraph.Json.TextBody`, `TargetGraph.Json.NumberText` — spaces, what
  stands between quotes, and numbers.
* `TargetGraph.Json.Part`, `TargetGraph.Json.Writes` — the parts of a document, and what writes
  them.

## Design

One relation is indexed by the parts of a document, instead of one relation for each of them, so
that one induction goes through all the parts. Lists grow at their ends, as they do while they are
read.
-/

namespace TargetGraph.Json

/-! ### Spaces, texts and numbers -/

/-- There are only bytes that may stand between the parts of a value. -/
def Gap (bytes : List UInt8) : Prop :=
  ∀ b ∈ bytes, isSpace b = true

/-- Nothing is between the parts of a value. -/
theorem gap_nil : Gap [] := nofun

/-- There are digits, and nothing else. -/
def Digits (bytes : List UInt8) : Prop :=
  bytes ≠ [] ∧ ∀ b ∈ bytes, isDigit b = true

/-- What stands for one thing in a text. -/
inductive TextPiece : List UInt8 → Prop where
  /-- A byte that stands for itself: no control character, quote or backslash. -/
  | plain {b : UInt8} (hcontrol : 0x20 ≤ b) (hquote : b ≠ 0x22) (hbackslash : b ≠ 0x5c) :
    TextPiece [b]
  /-- A backslash and a letter. -/
  | letter {b : UInt8} (hletter : (escapedByte? b).isSome) : TextPiece [0x5c, b]
  /-- A backslash, a `u` and four hexadecimal digits. -/
  | unit {digits : List UInt8} (hlength : digits.length = 4)
    (hdigits : ∀ b ∈ digits, (hexValue? b).isSome) : TextPiece (0x5c :: 0x75 :: digits)

/-- What may stand between two quotes. -/
inductive TextBody : List UInt8 → Prop where
  /-- Nothing. -/
  | nil : TextBody []
  /-- One thing more. -/
  | append {s t : List UInt8} (hs : TextBody s) (ht : TextPiece t) : TextBody (s ++ t)

/-- A whole number: a minus sign or none, and digits without a leading zero. -/
def WholeText (bytes : List UInt8) : Prop :=
  ∃ sign digits, bytes = sign ++ digits ∧ (sign = [] ∨ sign = [0x2d]) ∧
    (digits = [0x30] ∨ Digits digits ∧ digits.head? ≠ some 0x30)

/-- Nothing, or a point and digits. -/
def FractionText (bytes : List UInt8) : Prop :=
  bytes = [] ∨ ∃ digits, bytes = 0x2e :: digits ∧ Digits digits

/-- The sign of an exponent: a plus, a minus or none. -/
def PowerSign (bytes : List UInt8) : Prop :=
  bytes = [] ∨ bytes = [0x2b] ∨ bytes = [0x2d]

/-- The letter before an exponent. -/
def IsE (b : UInt8) : Prop :=
  b = 0x65 ∨ b = 0x45

/-- Nothing, or the letter `e`, a sign or none, and digits. -/
def ExponentText (bytes : List UInt8) : Prop :=
  bytes = [] ∨ ∃ e sign digits, bytes = e :: (sign ++ digits) ∧ IsE e ∧ PowerSign sign ∧
    Digits digits

/-- A number. -/
def NumberText (bytes : List UInt8) : Prop :=
  ∃ whole fraction exponent, bytes = whole ++ fraction ++ exponent ∧ WholeText whole ∧
    FractionText fraction ∧ ExponentText exponent

/-! ### Values -/

/-- A part of a document. -/
inductive Part where
  /-- A value. -/
  | value (v : Raw)
  /-- A value with spaces around it. -/
  | spaced (v : Raw)
  /-- The items of an array, at least one. -/
  | items (vs : List Raw)
  /-- A member of an object. -/
  | member (m : List UInt8 × Raw)
  /-- The members of an object, at least one. -/
  | members (ms : List (List UInt8 × Raw))

/-- What writes the parts of a document. -/
inductive Writes : Part → List UInt8 → Prop where
  /-- `null`. -/
  | null : Writes (.value .null) [0x6e, 0x75, 0x6c, 0x6c]
  /-- `true`. -/
  | yes : Writes (.value (.bool true)) [0x74, 0x72, 0x75, 0x65]
  /-- `false`. -/
  | no : Writes (.value (.bool false)) [0x66, 0x61, 0x6c, 0x73, 0x65]
  /-- A number. -/
  | number {t : List UInt8} (ht : NumberText t) : Writes (.value .number) t
  /-- A text between quotes. -/
  | text {t : List UInt8} (ht : TextBody t) : Writes (.value (.text t)) (0x22 :: (t ++ [0x22]))
  /-- Brackets with nothing between them. -/
  | emptyArray {g : List UInt8} (hg : Gap g) : Writes (.value (.array [])) (0x5b :: (g ++ [0x5d]))
  /-- Items between brackets. -/
  | array {vs : List Raw} {t : List UInt8} (ht : Writes (.items vs) t) :
    Writes (.value (.array vs)) (0x5b :: (t ++ [0x5d]))
  /-- Braces with nothing between them. -/
  | emptyObject {g : List UInt8} (hg : Gap g) : Writes (.value (.object [])) (0x7b :: (g ++ [0x7d]))
  /-- Members between braces. -/
  | object {ms : List (List UInt8 × Raw)} {t : List UInt8} (ht : Writes (.members ms) t) :
    Writes (.value (.object ms)) (0x7b :: (t ++ [0x7d]))
  /-- A value and spaces. -/
  | spaced {v : Raw} {before t after : List UInt8} (hbefore : Gap before) (ht : Writes (.value v) t)
    (hafter : Gap after) : Writes (.spaced v) (before ++ t ++ after)
  /-- The first item. -/
  | item {v : Raw} {t : List UInt8} (ht : Writes (.spaced v) t) : Writes (.items [v]) t
  /-- One more item behind a comma. -/
  | moreItems {vs : List Raw} {v : Raw} {s t : List UInt8} (hs : Writes (.items vs) s)
    (ht : Writes (.spaced v) t) : Writes (.items (vs ++ [v])) (s ++ 0x2c :: t)
  /-- A key between quotes, a colon and a value. -/
  | keyed {key : List UInt8} {v : Raw} {before after t : List UInt8} (hbefore : Gap before)
    (hkey : TextBody key) (hafter : Gap after) (ht : Writes (.spaced v) t) :
    Writes (.member (key, v)) (before ++ 0x22 :: (key ++ 0x22 :: (after ++ 0x3a :: t)))
  /-- The first member. -/
  | member {m : List UInt8 × Raw} {t : List UInt8} (ht : Writes (.member m) t) :
    Writes (.members [m]) t
  /-- One more member behind a comma. -/
  | moreMembers {ms : List (List UInt8 × Raw)} {m : List UInt8 × Raw} {s t : List UInt8}
    (hs : Writes (.members ms) s) (ht : Writes (.member m) t) :
    Writes (.members (ms ++ [m])) (s ++ 0x2c :: t)

end TargetGraph.Json
