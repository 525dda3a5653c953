/-!
# Hexadecimal digits

Code points and bytes are written with hexadecimal digits, in lower case or in upper case, and read
in either.

## Main Definitions

* `lowerHexDigit`, `upperHexDigit` - the digit of a number below sixteen
* `hexDigits` - the lower-case digits of a number
* `hexValue?` - the number that a digit stands for
* `hexNumber?` - the number that a run of digits denotes
-/

namespace Livecast.Text

/-- The lower-case hexadecimal digit of a number below sixteen. -/
def lowerHexDigit (d : Nat) : Char :=
  if d < 10 then Char.ofNat (48 + d) else Char.ofNat (87 + d)

/-- The upper-case hexadecimal digit of a number below sixteen. -/
def upperHexDigit (d : Nat) : Char :=
  if d < 10 then Char.ofNat (48 + d) else Char.ofNat (55 + d)

/-- The lower-case hexadecimal digits of `n` without leading zeros. -/
def hexDigits (n : Nat) : List Char :=
  if n < 16 then [lowerHexDigit n] else hexDigits (n / 16) ++ [lowerHexDigit (n % 16)]
termination_by n
decreasing_by omega

/-- The number that a hexadecimal digit of either case stands for. -/
def hexValue? (c : Char) : Option Nat :=
  if c.isDigit then some (c.toNat - 48)
  else if 'a' ≤ c && c ≤ 'f' then some (c.toNat - 87)
  else if 'A' ≤ c && c ≤ 'F' then some (c.toNat - 55)
  else none

/-- The number that a run of hexadecimal digits denotes, the most significant digit first. -/
def hexNumber? (t : List Char) : Option Nat :=
  t.foldlM (fun value c => (hexValue? c).map (16 * value + ·)) 0

/-- The lower-case digit of a number stands for it. -/
theorem hexValue?_lowerHexDigit {d : Nat} (h : d < 16) : hexValue? (lowerHexDigit d) = some d := by
  have : ∀ d : Fin 16, hexValue? (lowerHexDigit d) = some d.val := by decide
  exact this ⟨d, h⟩

/-- The upper-case digit of a number stands for it. -/
theorem hexValue?_upperHexDigit {d : Nat} (h : d < 16) : hexValue? (upperHexDigit d) = some d := by
  have : ∀ d : Fin 16, hexValue? (upperHexDigit d) = some d.val := by decide
  exact this ⟨d, h⟩

/-- Two digits behind two zeros denote a number of a byte. -/
theorem hexNumber?_byte {high low : Char} {x y : Nat} (hx : hexValue? high = some x)
    (hy : hexValue? low = some y) : hexNumber? ['0', '0', high, low] = some (16 * x + y) := by
  have zero : hexValue? '0' = some 0 := by decide
  simp [hexNumber?, List.foldlM, zero, hx, hy]

end Livecast.Text
