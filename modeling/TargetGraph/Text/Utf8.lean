set_option relaxedAutoImplicit false
set_option autoImplicit false

/-!
# Texts as bytes

## Main definitions

* `TargetGraph.Text.utf8`, `TargetGraph.Text.ofUtf8?` — a text in UTF-8, and the text that some
  bytes write.
* `TargetGraph.Text.readable` — a text for any bytes.
-/

namespace TargetGraph.Text

/-- The bytes of a text in UTF-8. -/
def utf8 (text : String) : List UInt8 :=
  text.toUTF8.data.toList

/-- The text that some bytes write in UTF-8. -/
def ofUtf8? (bytes : List UInt8) : Option String :=
  String.fromUTF8? ⟨bytes.toArray⟩

/-- The text that some bytes write is written by just these bytes. -/
theorem utf8_of_ofUtf8? {bytes : List UInt8} {text : String} (h : ofUtf8? bytes = some text) :
    utf8 text = bytes := by
  unfold ofUtf8? String.fromUTF8? at h
  split at h
  · obtain rfl := Option.some.inj h
    rfl
  · cases h

/-- A text is what its bytes write. -/
theorem ofUtf8?_utf8 (text : String) : ofUtf8? (utf8 text) = some text := by
  unfold ofUtf8? String.fromUTF8? utf8
  split
  · rfl
  · rename_i h
    exact absurd text.isValidUTF8 h

/-- How many bytes follow the first one of a character, and between which bounds the first of these
is; nothing for a byte that starts no character. -/
def following? (b : UInt8) : Option (Nat × UInt8 × UInt8) :=
  if b < 0x80 then some (0, 0x80, 0xbf)
  else if b < 0xc2 then none
  else if b < 0xe0 then some (1, 0x80, 0xbf)
  else if b = 0xe0 then some (2, 0xa0, 0xbf)
  else if b = 0xed then some (2, 0x80, 0x9f)
  else if b < 0xf0 then some (2, 0x80, 0xbf)
  else if b = 0xf0 then some (3, 0x90, 0xbf)
  else if b < 0xf4 then some (3, 0x80, 0xbf)
  else if b = 0xf4 then some (3, 0x80, 0x8f)
  else none

/-- The bytes that go on with a character: at most `count`, the first between two bounds. -/
def continuation (count : Nat) (least greatest : UInt8) (bytes : List UInt8) : List UInt8 :=
  match bytes.take count with
  | [] => []
  | b :: rest =>
    if least ≤ b ∧ b ≤ greatest then b :: rest.takeWhile fun b => 0x80 ≤ b && b ≤ 0xbf else []

/-- A text for some bytes, where U+FFFD stands for what is no character: for each byte that starts
none, and for each character that breaks off. The number bounds how many there are. -/
def readableWithin : Nat → List UInt8 → List Char
  | 0, _ => []
  | _, [] => []
  | n + 1, b :: rest =>
    let replacement := Char.ofNat 0xfffd
    match following? b with
    | none => replacement :: readableWithin n rest
    | some (count, least, greatest) =>
      let more := continuation count least greatest rest
      let char? := if more.length = count then ofUtf8? (b :: more) else none
      let chars := match char? with
        | some text => text.toList
        | none => [replacement]
      chars ++ readableWithin n (rest.drop more.length)

/-- A text for some bytes, where U+FFFD stands for what is no character. -/
def readable (bytes : List UInt8) : String :=
  match ofUtf8? bytes with
  | some text => text
  | none => String.ofList (readableWithin bytes.length bytes)

end TargetGraph.Text
