import Livecast.Text.Decimal
import Livecast.Text.Hex
import Livecast.Toml.Value

/-!
# Unquoted values of TOML

Numbers, truth values, dates and times are words without quotes.  A word is read as a whole, so that
what follows it cannot change what it means.

## Main Definitions

* `Toml.integer?` - a whole number within 64 bits, in decimal, hexadecimal, octal or binary digits
* `Toml.isDecimal` - a number with a fraction or an exponent, an infinity, or no number
* `Toml.isMoment` - a date, a time, or both
* `Toml.readWord?` - the value of the word at the start of a text
-/

namespace Livecast.Toml

open Livecast.Text

/-- The characters of words. -/
def isWordChar (c : Char) : Bool := c.isAlphanum || c ∈ ['+', '-', '_', '.', ':']

/-! ## Numbers -/

/-- The digits of a run in which single underscores may stand between digits. -/
def groupedDigits? (isDigit : Char → Bool) : List Char → Option (List Char)
  | [] => none
  | [c] => if isDigit c then some [c] else none
  | c :: '_' :: r => if isDigit c then (groupedDigits? isDigit r).map (c :: ·) else none
  | c :: r => if isDigit c then (groupedDigits? isDigit r).map (c :: ·) else none

/-- The digits of a decimal run that does not begin with a superfluous zero. -/
def plainDigits? (t : List Char) : Option (List Char) := do
  let run ← groupedDigits? Char.isDigit t
  if run.head? = some '0' && 1 < run.length then none else some run

/-- Whether a character is a digit in a base up to sixteen. -/
def isDigitIn (base : Nat) (c : Char) : Bool := (hexValue? c).any (· < base)

/-- The number that a run of digits in a base denotes. -/
def valueIn (base : Nat) (t : List Char) : Nat :=
  t.foldl (fun value c => base * value + (hexValue? c).getD 0) 0

/-- A number in a base, up to a bound. -/
def numberIn? (base bound : Nat) (t : List Char) : Option Nat := do
  let run ← groupedDigits? (isDigitIn base) t
  if valueIn base run ≤ bound then some (valueIn base run) else none

/-- A decimal number up to a bound. -/
def plainNumber? (bound : Nat) (t : List Char) : Option Nat := do
  let run ← plainDigits? t
  if digitsValue run ≤ bound then some (digitsValue run) else none

/-- The largest whole number. -/
def maxInteger : Nat := maxSigned

/-- A whole number within 64 bits. -/
def integer? (t : List Char) : Option Int :=
  match t with
  | '0' :: 'x' :: r => (numberIn? 16 maxInteger r).map Int.ofNat
  | '0' :: 'o' :: r => (numberIn? 8 maxInteger r).map Int.ofNat
  | '0' :: 'b' :: r => (numberIn? 2 maxInteger r).map Int.ofNat
  | '-' :: r => (plainNumber? (maxInteger + 1) r).map fun n => -(n : Int)
  | '+' :: r => (plainNumber? maxInteger r).map Int.ofNat
  | _ => (plainNumber? maxInteger t).map Int.ofNat

/-- Whether a character belongs to a run of decimal digits. -/
def inRun (c : Char) : Bool := c.isDigit || c = '_'

/-- The power of ten of an exponent behind its letter. -/
def exponent? (t : List Char) : Option Int :=
  match t with
  | '-' :: r => (groupedDigits? Char.isDigit r).map fun run => -(digitsValue run : Int)
  | '+' :: r => (groupedDigits? Char.isDigit r).map fun run => (digitsValue run : Int)
  | _ => (groupedDigits? Char.isDigit t).map fun run => (digitsValue run : Int)

/-- The power of ten of an exponent that may be missing. -/
def optionalExponent? (t : List Char) : Option Int :=
  match t with
  | [] => some 0
  | c :: r => if c = 'e' || c = 'E' then exponent? r else none

/-- The digits and the power of ten of a number with a fraction or an exponent. -/
def scientific? (t : List Char) : Option (List Char × Int) := do
  let whole ← plainDigits? (t.takeWhile inRun)
  match t.dropWhile inRun with
  | [] => none
  | '.' :: r =>
    let fraction ← groupedDigits? Char.isDigit (r.takeWhile inRun)
    let exponent ← optionalExponent? (r.dropWhile inRun)
    return (whole ++ fraction, exponent - fraction.length)
  | r =>
    let exponent ← optionalExponent? r
    return (whole, exponent)

/-- Whether a word without its sign is a number with a fraction or an exponent, an infinity, or no
number. -/
def isMagnitude (bounded : Bool) (t : List Char) : Bool :=
  t = ['i', 'n', 'f'] || t = ['n', 'a', 'n'] ||
    match scientific? t with
    | some (run, exponent) => !(bounded && exceedsDouble (digitsValue run) exponent)
    | none => false

/-- Whether a word is a number with a fraction or an exponent, an infinity, or no number.  A number
that is not negative must be within the range of doubles. -/
def isDecimal (t : List Char) : Bool :=
  match t with
  | '-' :: r => isMagnitude false r
  | '+' :: r => isMagnitude true r
  | _ => isMagnitude true t

/-! ## Dates and times -/

/-- Reads a fixed count of digits as a number from `low` to `high`. -/
def fixedNumber? (count low high : Nat) (t : List Char) : Option (Nat × List Char) :=
  let run := t.take count
  if run.length = count && run.all Char.isDigit && low ≤ digitsValue run &&
      digitsValue run ≤ high then
    some (digitsValue run, t.drop count)
  else none

/-- Reads one given character. -/
def expect? (c : Char) (t : List Char) : Option (List Char) :=
  match t with
  | d :: r => if d = c then some r else none
  | [] => none

/-- How many days a month has. -/
def daysIn (year month : Nat) : Nat :=
  if month = 2 then
    if year % 4 = 0 && (year % 100 ≠ 0 || year % 400 = 0) then 29 else 28
  else if month = 4 || month = 6 || month = 9 || month = 11 then 30
  else 31

/-- What follows a date. -/
def afterDate? (t : List Char) : Option (List Char) := do
  let (year, t) ← fixedNumber? 4 0 9999 t
  let t ← expect? '-' t
  let (month, t) ← fixedNumber? 2 1 12 t
  let t ← expect? '-' t
  let (_, t) ← fixedNumber? 2 1 (daysIn year month) t
  return t

/-- What follows hours and minutes. -/
def afterMinutes? (t : List Char) : Option (List Char) := do
  let (_, t) ← fixedNumber? 2 0 23 t
  let t ← expect? ':' t
  let (_, t) ← fixedNumber? 2 0 59 t
  return t

/-- What follows a time of day. -/
def afterClock? (t : List Char) : Option (List Char) := do
  let t ← expect? ':' (← afterMinutes? t)
  let (_, t) ← fixedNumber? 2 0 60 t
  match t with
  | '.' :: r =>
    if (r.takeWhile Char.isDigit).isEmpty then none else some (r.dropWhile Char.isDigit)
  | _ => some t

/-- Whether a text is a distance from universal time. -/
def isOffset (t : List Char) : Bool :=
  match t with
  | [c] => c = 'Z' || c = 'z'
  | c :: r => (c = '+' || c = '-') && afterMinutes? r = some []
  | [] => false

/-- Whether a text is a time of day, with or without a distance from universal time. -/
def isPlacedClock (t : List Char) : Bool :=
  match afterClock? t with
  | some [] => true
  | some r => isOffset r
  | none => false

/-- Whether a text is a date. -/
def isDate (t : List Char) : Bool := afterDate? t = some []

/-- Whether a text is a date, a time of day, or both with a letter between them. -/
def isMoment (t : List Char) : Bool :=
  isDate t || afterClock? t = some [] ||
    match afterDate? t with
    | some (c :: r) => (c = 'T' || c = 't') && isPlacedClock r
    | _ => false

/-! ## Words -/

/-- The value of a word. -/
def wordValue? (word : List Char) : Option Value :=
  if word = ['t', 'r', 'u', 'e'] then some (.boolean true)
  else if word = ['f', 'a', 'l', 's', 'e'] then some (.boolean false)
  else match integer? word with
    | some i => some (.integer i)
    | none =>
      if isDecimal word then some (.decimal (String.ofList word))
      else if isMoment word then some (.moment (String.ofList word))
      else none

/-- The value of the word at the start of a text, and what follows it.  A time may follow a date
behind one space. -/
def readWord? (t : List Char) : Option (Value × List Char) :=
  let word := t.takeWhile isWordChar
  let rest := t.dropWhile isWordChar
  let clock := (rest.drop 1).takeWhile isWordChar
  if isDate word && rest.head? = some ' ' && !clock.isEmpty then
    if isPlacedClock clock then
      some (.moment (String.ofList (word ++ ' ' :: clock)), (rest.drop 1).dropWhile isWordChar)
    else none
  else (wordValue? word).map fun value => (value, rest)

end Livecast.Toml
