import Livecast.Bytes

/-!
# Base 64

Three bytes are written as four characters of six bits each.  One or two bytes at the end are filled
up with zero bits, and signs of equality stand for the characters that they do not reach.

## Main Definitions

* `base64Char` - the character for six bits
* `base64` - the text of some bytes
-/

namespace Livecast.Text

/-- The character for a number below sixty-four. -/
def base64Char (n : Nat) : Char :=
  if n < 26 then Char.ofNat (65 + n)
  else if n < 52 then Char.ofNat (71 + n)
  else if n < 62 then Char.ofNat (n - 4)
  else if n = 62 then '+'
  else '/'

/-- The text of some bytes. -/
def base64 : Bytes → List Char
  | a :: b :: c :: rest =>
    let n := 65536 * a.toNat + 256 * b.toNat + c.toNat
    [base64Char (n / 262144), base64Char (n / 4096 % 64), base64Char (n / 64 % 64),
      base64Char (n % 64)] ++ base64 rest
  | [a, b] =>
    let n := 1024 * a.toNat + 4 * b.toNat
    [base64Char (n / 4096), base64Char (n / 64 % 64), base64Char (n % 64), '=']
  | [a] => [base64Char (a.toNat / 4), base64Char (16 * (a.toNat % 4)), '=', '=']
  | [] => []

end Livecast.Text
