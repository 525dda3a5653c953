import Livecast.Text.Hex
import Livecast.Text.Unprintable

/-!
# Quoted texts

Diagnostics show a text between double quotes, with the characters that would be mistaken for its
end, or that would not be seen, written as escapes.

## Main Definitions

* `quoteChar`, `quote` - the quoted form of a character and of a text
-/

namespace Livecast.Text

/-- One character inside quotes: the short escapes, the code point of a character that would not be
seen, or the character itself. -/
def quoteChar (c : Char) : List Char :=
  if c = '"' then ['\\', '"']
  else if c = '\\' then ['\\', '\\']
  else if c = '\n' then ['\\', 'n']
  else if c = '\r' then ['\\', 'r']
  else if c = '\t' then ['\\', 't']
  else if c = '\x00' then ['\\', '0']
  else if isUnprintable c then ['\\', 'u', '\x7b'] ++ hexDigits c.toNat ++ ['\x7d']
  else [c]

/-- The text between double quotes. -/
def quote (s : String) : String :=
  String.ofList ('"' :: s.toList.flatMap quoteChar ++ ['"'])

end Livecast.Text
