/-!
# Decimal numbers

Numbers are written with the fewest decimal digits.  They are read from an optional sign and at
least one ASCII digit, nothing else, and only within the range that the reader asks for.

## Main Definitions

* `digits` - the decimal digits of a natural number
* `digitsValue` - the number that a run of digits denotes
* `readNat?` - an optional plus sign and digits, up to a bound
* `readInt?` - an optional sign and digits, within 64 bits
* `padded` - digits with leading zeros up to a width
* `exceedsDouble` - whether a decimal number is too large for a double

## Main Statements

* `digitsValue_digits` - writing a number and reading it back gives the number
* `readNat?_digits`, `readInt?_digits` - the readers accept what is written
-/

namespace Livecast.Text

/-- The ASCII digit of a number below ten. -/
def digitChar (d : Nat) : Char :=
  Char.ofNat (48 + d)

/-- The decimal digits of `n` without leading zeros; zero is the single digit `0`. -/
def digits (n : Nat) : List Char :=
  if n < 10 then [digitChar n] else digits (n / 10) ++ [digitChar (n % 10)]
termination_by n
decreasing_by omega

/-- The number that a run of digits denotes, the most significant digit first. -/
def digitsValue (t : List Char) : Nat :=
  t.foldl (fun value c => 10 * value + (c.toNat - 48)) 0

/-- At least one character, and digits only. -/
def isDigits (t : List Char) : Bool :=
  !t.isEmpty && t.all Char.isDigit

/-- Reads a number of at most `bound` from an optional plus sign and digits. -/
def readNat? (bound : Nat) (t : List Char) : Option Nat :=
  let body := match t with
    | '+' :: r => r
    | _ => t
  if isDigits body && digitsValue body ≤ bound then some (digitsValue body) else none

/-- The largest number that fits an unsigned word of 64 bits. -/
def maxUnsigned : Nat := 18446744073709551615

/-- The largest number that fits a signed word of 64 bits. -/
def maxSigned : Nat := 9223372036854775807

/-- Reads a number that fits a signed word of 64 bits from an optional sign and digits. -/
def readInt? (t : List Char) : Option Int :=
  match t with
  | '-' :: r =>
    if isDigits r && digitsValue r ≤ maxSigned + 1 then some (-(digitsValue r : Int)) else none
  | _ => (readNat? maxSigned t).map Int.ofNat

/-- Whether `significand * 10 ^ exponent` lies beyond the largest double, half a unit included. -/
def exceedsDouble (significand : Nat) (exponent : Int) : Bool :=
  let size := ((digits significand).length : Int) + exponent
  if significand = 0 || size < 309 then false
  else if 309 < size then true
  else
    let bound := (1 <<< 1024) - (1 <<< 970)
    let scale := Nat.pow 10 exponent.natAbs
    if exponent < 0 then bound * scale ≤ significand else bound ≤ significand * scale

/-- The digits of `n` with zeros in front, so that there are at least `width` of them. -/
def padded (width n : Nat) : List Char :=
  List.replicate (width - (digits n).length) '0' ++ digits n

/-- A number as a string of decimal digits. -/
def natText (n : Nat) : String :=
  String.ofList (digits n)

/-- An integer as a string, with a minus sign in front if it is negative. -/
def intText (i : Int) : String :=
  if i < 0 then String.ofList ('-' :: digits i.natAbs) else natText i.natAbs

theorem digitChar_isDigit {d : Nat} (h : d < 10) : (digitChar d).isDigit = true := by
  have : ∀ d : Fin 10, (digitChar d).isDigit = true := by decide
  exact this ⟨d, h⟩

theorem digitChar_toNat {d : Nat} (h : d < 10) : (digitChar d).toNat = 48 + d := by
  have : ∀ d : Fin 10, (digitChar d).toNat = 48 + d.val := by decide
  exact this ⟨d, h⟩

@[simp] theorem digitsValue_nil : digitsValue [] = 0 := rfl

theorem digitsValue_concat (t : List Char) (c : Char) :
    digitsValue (t ++ [c]) = 10 * digitsValue t + (c.toNat - 48) := by
  simp [digitsValue, List.foldl_append]

theorem digits_ne_nil (n : Nat) : digits n ≠ [] := by
  unfold digits; split <;> simp

theorem digits_all_isDigit (n : Nat) : (digits n).all Char.isDigit = true := by
  induction n using Nat.strongRecOn with
  | _ n ih =>
    unfold digits
    split
    · simp [digitChar_isDigit, *]
    · have hm : n % 10 < 10 := Nat.mod_lt _ (by omega)
      simp only [List.all_append, ih (n / 10) (by omega), List.all_cons, List.all_nil,
        digitChar_isDigit hm, Bool.and_self]

/-- The digits of a number denote that number. -/
theorem digitsValue_digits (n : Nat) : digitsValue (digits n) = n := by
  induction n using Nat.strongRecOn with
  | _ n ih =>
    unfold digits
    split
    · rename_i h
      simp [digitsValue, digitChar_toNat h]
    · have hm : n % 10 < 10 := Nat.mod_lt _ (by omega)
      rw [digitsValue_concat, ih (n / 10) (by omega), digitChar_toNat hm]
      omega

theorem isDigits_digits (n : Nat) : isDigits (digits n) = true := by
  have := digits_ne_nil n
  cases h : digits n with
  | nil => contradiction
  | cons c r =>
    have := digits_all_isDigit n
    rw [h] at this
    simp [isDigits, this]

theorem digits_head_ne {n : Nat} {c : Char} (hc : c.isDigit = false) {r : List Char} :
    digits n ≠ c :: r := by
  intro h
  have := digits_all_isDigit n
  rw [h] at this
  simp [hc] at this

/-- The reader of naturals accepts the digits of every number up to its bound. -/
theorem readNat?_digits {bound n : Nat} (h : n ≤ bound) : readNat? bound (digits n) = some n := by
  have hb : (match digits n with | '+' :: r => r | _ => digits n) = digits n := by
    split
    · rename_i r hr
      exact absurd hr (digits_head_ne (by decide))
    · rfl
  simp only [readNat?, hb, isDigits_digits, digitsValue_digits, Bool.true_and,
    decide_eq_true_eq, h, if_true]

/-- The reader of integers accepts the digits of every number that fits a signed word. -/
theorem readInt?_digits {n : Nat} (h : n ≤ maxSigned) :
    readInt? (digits n) = some (n : Int) := by
  unfold readInt?
  split
  · rename_i r hr
    exact absurd hr (digits_head_ne (by decide))
  · rw [readNat?_digits h]; rfl

end Livecast.Text
