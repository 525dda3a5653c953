import Livecast.Text.Hex

/-!
# Percent-encoded components

One component of a URL path keeps the letters and digits of ASCII and the marks `- _ . ! ~ * ' ( )`;
every other character is written as its UTF-8 bytes, each a percent sign and two upper-case
hexadecimal digits.

## Main Definitions

* `isUnreserved` - the characters that stand for themselves
* `percentEncode` - the encoded form of a text
* `percentDecode?` - the bytes that an encoded form stands for
-/

namespace Livecast.Text

/-- The characters that a component keeps as they are. -/
def isUnreserved (c : Char) : Bool :=
  c.isAlphanum || c ∈ ['-', '_', '.', '!', '~', '*', '\x27', '(', ')']

/-- The number that an upper-case hexadecimal digit stands for. -/
def upperHexValue? (c : Char) : Option Nat :=
  if c.isDigit then some (c.toNat - 48)
  else if 'A' ≤ c && c ≤ 'F' then some (c.toNat - 55)
  else none

/-- A byte as a percent sign and two digits. -/
def percentByte (b : UInt8) : List Char :=
  ['%', upperHexDigit (b.toNat / 16), upperHexDigit (b.toNat % 16)]

/-- The encoded form of one character. -/
def percentChar (c : Char) : List Char :=
  if isUnreserved c then [c] else (String.utf8EncodeChar c).flatMap percentByte

/-- The encoded form of a text. -/
def percentEncode (t : List Char) : List Char :=
  t.flatMap percentChar

/-- The bytes that an encoded form stands for; `none` if a percent sign is not followed by two
digits or an unencoded character is not kept as it is. -/
def percentDecode? : List Char → Option (List UInt8)
  | [] => some []
  | '%' :: a :: b :: r => do
    let high ← upperHexValue? a
    let low ← upperHexValue? b
    let rest ← percentDecode? r
    return UInt8.ofNat (16 * high + low) :: rest
  | c :: r =>
    if isUnreserved c then (percentDecode? r).map (UInt8.ofNat c.toNat :: ·) else none

/-- Encoding works character by character. -/
theorem percentEncode_append (s t : List Char) :
    percentEncode (s ++ t) = percentEncode s ++ percentEncode t := by
  simp [percentEncode]

end Livecast.Text
