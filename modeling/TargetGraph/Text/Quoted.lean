import TargetGraph.Text.Combining
import TargetGraph.Text.Printable

set_option relaxedAutoImplicit false
set_option autoImplicit false

/-!
# Quoted text

A text inside an error message stands between double quotes, on one line and with nothing
invisible in it.

## Main definitions

* `TargetGraph.Text.quoted` — the quoted form.
-/

namespace TargetGraph.Text

/-- The number of a character in lower-case hexadecimal, between `\u` and braces. -/
def numbered (c : Char) : List Char :=
  '\\' :: 'u' :: Char.ofNat 0x7b :: (Nat.toDigits 16 c.toNat ++ [Char.ofNat 0x7d])

/-- A character inside a quoted text: a short escape where there is one, its number where it is
unprintable or would attach to its neighbour, itself otherwise. -/
def quotedChar (c : Char) : List Char :=
  if c = '"' then ['\\', '"']
  else if c = '\\' then ['\\', '\\']
  else if c = '\n' then ['\\', 'n']
  else if c = '\r' then ['\\', 'r']
  else if c = '\t' then ['\\', 't']
  else if c.toNat = 0 then ['\\', '0']
  else if isCombining c || !isPrintable c then numbered c
  else [c]

/-- The text between double quotes, its characters escaped where `quotedChar` says so. -/
def quoted (text : String) : String :=
  String.ofList ('"' :: (text.toList.flatMap quotedChar ++ ['"']))

end TargetGraph.Text
