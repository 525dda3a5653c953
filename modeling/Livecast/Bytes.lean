/-!
# Bytes

Media segments are sequences of bytes that are never looked into.

## Main Definitions

* `Bytes` - a sequence of bytes
* `Bytes.ofText`, `Bytes.text?` - the UTF-8 form of a text, and the text of a UTF-8 form
-/

namespace Livecast

/-- A sequence of bytes. -/
abbrev Bytes := List UInt8

namespace Bytes

/-- The UTF-8 form of a text. -/
def ofText (s : String) : Bytes :=
  s.toUTF8.toList

/-- The text whose UTF-8 form is given, or `none` if the bytes are not UTF-8. -/
def text? (b : Bytes) : Option String :=
  String.fromUTF8? ⟨b.toArray⟩

end Bytes

end Livecast
