set_option relaxedAutoImplicit false
set_option autoImplicit false

/-!
# Printed JSON

What commands print as JSON is flat: a list of simple values, or a record of them. It is printed
over several lines, with two spaces before each entry.

## Main definitions

* `TargetGraph.Json.written` — a text as a JSON text.
* `TargetGraph.Json.Scalar`, `TargetGraph.Json.Document` — what is printed.
* `TargetGraph.Json.Document.pretty` — the printed form.
-/

namespace TargetGraph.Json

/-- A digit of a hexadecimal number, in lower case. -/
def hexDigit (n : Nat) : Char :=
  if n < 10 then Char.ofNat ('0'.toNat + n) else Char.ofNat ('a'.toNat + (n - 10))

/-- A character inside a JSON text: the quote, the backslash and the control characters are
escaped. -/
def writtenChar (c : Char) : List Char :=
  if c = '"' then ['\\', '"']
  else if c = '\\' then ['\\', '\\']
  else if c.toNat = 0x08 then ['\\', 'b']
  else if c.toNat = 0x0c then ['\\', 'f']
  else if c = '\n' then ['\\', 'n']
  else if c = '\r' then ['\\', 'r']
  else if c = '\t' then ['\\', 't']
  else if c.toNat < 0x20 then
    ['\\', 'u', '0', '0', hexDigit (c.toNat / 16), hexDigit (c.toNat % 16)]
  else [c]

/-- The text as a JSON text. -/
def written (text : String) : String :=
  String.ofList ('"' :: (text.toList.flatMap writtenChar ++ ['"']))

/-- A simple value. -/
inductive Scalar where
  /-- `null`. -/
  | null
  /-- A text. -/
  | text (value : String)
  /-- A number. -/
  | number (value : Nat)
  deriving DecidableEq, Repr

/-- The printed form of a simple value. -/
def Scalar.printed : Scalar → String
  | .null => "null"
  | .text value => written value
  | .number value => toString value

/-- What a command prints. -/
inductive Document where
  /-- A list. -/
  | list (items : List Scalar)
  /-- A record, its fields in this order. -/
  | record (fields : List (String × Scalar))
  deriving DecidableEq, Repr

namespace Document

/-- Entries between brackets, each on a line of its own; nothing stands between them if there are
none. -/
def block (opening closing : String) (entries : List String) : String :=
  if entries.isEmpty then opening ++ closing
  else
    opening ++ "\n" ++ ",\n".intercalate (entries.map fun entry => "  " ++ entry) ++ "\n" ++ closing

/-- The printed form. -/
def pretty : Document → String
  | .list items => block "[" "]" (items.map Scalar.printed)
  | .record fields =>
    block "\x7b" "\x7d" (fields.map fun (name, value) => written name ++ ": " ++ value.printed)

end Document

end TargetGraph.Json
