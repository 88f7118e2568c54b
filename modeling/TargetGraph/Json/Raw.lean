import TargetGraph.Text.Utf8

set_option relaxedAutoImplicit false
set_option autoImplicit false

/-!
# JSON values as they are written

A value whose texts are kept as the bytes between their quotes. Whether those bytes are a text at
all is asked only of the texts that somebody wants to read, so a value that nobody reads may hold
anything between its quotes that the grammar lets through.

## Main definitions

* `TargetGraph.Json.Raw` — the values.
* `TargetGraph.Json.decodeText?` — the text that the bytes between two quotes write.
* `TargetGraph.Json.Raw.record?` — the named fields of an object, or of an array by position.
-/

namespace TargetGraph.Json

/-- A JSON value with its texts undecoded. A number is only known to be one. -/
inductive Raw where
  /-- `null`. -/
  | null
  /-- `true` or `false`. -/
  | bool (value : Bool)
  /-- A number. -/
  | number
  /-- A text, as the bytes between its quotes. -/
  | text (bytes : List UInt8)
  /-- An array. -/
  | array (items : List Raw)
  /-- An object, its keys as the bytes between their quotes. -/
  | object (members : List (List UInt8 × Raw))

/-- The value of a hexadecimal digit. -/
def hexValue? (b : UInt8) : Option Nat :=
  if 0x30 ≤ b ∧ b ≤ 0x39 then some (b.toNat - 0x30)
  else if 0x61 ≤ b ∧ b ≤ 0x66 then some (b.toNat - 0x61 + 10)
  else if 0x41 ≤ b ∧ b ≤ 0x46 then some (b.toNat - 0x41 + 10)
  else none

/-- The number that four hexadecimal digits write. -/
def hexUnit? (a b c d : UInt8) : Option Nat :=
  match hexValue? a, hexValue? b, hexValue? c, hexValue? d with
  | some a, some b, some c, some d => some (((a * 16 + b) * 16 + c) * 16 + d)
  | _, _, _, _ => none

/-- The byte that a one-letter escape stands for. -/
def escapedByte? (b : UInt8) : Option UInt8 :=
  if b = 0x22 then some 0x22
  else if b = 0x5c then some 0x5c
  else if b = 0x2f then some 0x2f
  else if b = 0x62 then some 0x08
  else if b = 0x66 then some 0x0c
  else if b = 0x6e then some 0x0a
  else if b = 0x72 then some 0x0d
  else if b = 0x74 then some 0x09
  else none

/-- The bytes of a character in UTF-8. -/
def codePointBytes (codePoint : Nat) : List UInt8 :=
  Text.utf8 (String.singleton (Char.ofNat codePoint))

/-- The bytes with their escapes replaced; `done` holds what was replaced already, last first. The
numbers of surrogates are taken in pairs, and one that stands alone is refused. -/
def unescapeFrom? (done : List UInt8) : List UInt8 → Option (List UInt8)
  | [] => some done.reverse
  | 0x5c :: 0x75 :: a :: b :: c :: d :: rest =>
    match hexUnit? a b c d with
    | none => none
    | some unit =>
      if unit < 0xd800 ∨ 0xe000 ≤ unit then
        unescapeFrom? ((codePointBytes unit).reverse ++ done) rest
      else if 0xdc00 ≤ unit then none
      else match rest with
        | 0x5c :: 0x75 :: e :: f :: g :: h :: rest =>
          match hexUnit? e f g h with
          | none => none
          | some low =>
            if 0xdc00 ≤ low ∧ low < 0xe000 then
              let codePoint := (unit - 0xd800) * 0x400 + (low - 0xdc00) + 0x10000
              unescapeFrom? ((codePointBytes codePoint).reverse ++ done) rest
            else none
        | _ => none
  | 0x5c :: b :: rest =>
    match escapedByte? b with
    | none => none
    | some byte => unescapeFrom? (byte :: done) rest
  | b :: rest => if b = 0x5c then none else unescapeFrom? (b :: done) rest

/-- The text that the bytes between two quotes write. -/
def decodeText? (bytes : List UInt8) : Option String :=
  match unescapeFrom? [] bytes with
  | none => none
  | some bytes => Text.ofUtf8? bytes

namespace Raw

/-- The text of a text. -/
def text? : Raw → Option String
  | .text bytes => decodeText? bytes
  | _ => none

/-- The items of an array. -/
def items? : Raw → Option (List Raw)
  | .array items => some items
  | _ => none

/-- The members with their keys decoded. -/
def decodeMembers? (members : List (List UInt8 × Raw)) : Option (List (String × Raw)) :=
  members.mapM fun (key, value) => (decodeText? key).map fun key => (key, value)

/-- The value of the field `name`, if it is there; nothing at all if it is there twice. -/
def field? (members : List (String × Raw)) (name : String) : Option (Option Raw) :=
  match members.filter fun member => member.1 == name with
  | [] => some none
  | [member] => some (some member.2)
  | _ => none

/-- The values of the fields `names`. An object gives them by name, in any order and among others;
an array gives them by position, where only the last `omissible` ones may be left out. -/
def record? (names : List String) (omissible : Nat) : Raw → Option (List (Option Raw))
  | .object members =>
    match decodeMembers? members with
    | none => none
    | some members => names.mapM (field? members)
  | .array items =>
    if names.length - omissible ≤ items.length ∧ items.length ≤ names.length then
      some (items.map some ++ List.replicate (names.length - items.length) none)
    else none
  | _ => none

end Raw

end TargetGraph.Json
