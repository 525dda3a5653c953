import Livecast.Text.Blank
import Livecast.Text.Cut
import Livecast.Text.Decimal

/-!
# Playback offsets as clock text

An offset into a stream is shown as `MM:SS`, and from one hour up as `HH:MM:SS`.

## Main Definitions

* `PlaybackTime.wholeSeconds` - the whole seconds of a floating-point offset
* `PlaybackTime.render` - the clock text of an offset
* `PlaybackTime.inSeconds` - the sum that hours, minutes and seconds are brought to
* `PlaybackTime.parse?`, `PlaybackTime.parse` - the seconds that a clock text stands for

## Design Notes

The whole part of an offset is taken from the bits of the number in exact arithmetic: sign, exponent
and fraction of the double give `m * 2 ^ q`, whose floor needs no rounding.

Seconds are counted in words of 64 bits, and the hours of a text can be too many for them.  Whether
a product or a sum that does not fit stops the program or loses its upper bits is up to the build,
so there is one reader with a parameter for what becomes of each of them.  `parse?` checks them,
and `parse` wraps them.
-/

namespace Livecast.PlaybackTime

open Livecast.Text

/-- The largest number of seconds that can be shown. -/
def maxSeconds : Nat := maxUnsigned

/-- The floor of a finite double that is not negative, from its bits; zero for all others. -/
def floorOfBits (bits : Nat) : Nat :=
  let hidden := 4503599627370496
  let exponent := bits / hidden % 2048
  let significand := hidden + bits % hidden
  if bits / hidden / 2048 = 1 || exponent = 0 || exponent = 2047 then 0
  else if exponent < 1075 then significand >>> (1075 - exponent)
  else significand <<< (exponent - 1075)

/-- The whole seconds of an offset: its floor, at most `maxSeconds`, and zero for negative and
infinite offsets and for those that are no number. -/
def wholeSeconds (offset : Float) : Nat :=
  min (floorOfBits offset.toBits.toNat) maxSeconds

/-- The characters of the clock text of a whole number of seconds. -/
def chars (total : Nat) : List Char :=
  let minutes := padded 2 (total % 3600 / 60) ++ ':' :: padded 2 (total % 60)
  if 0 < total / 3600 then padded 2 (total / 3600) ++ ':' :: minutes else minutes

/-- The clock text of an offset in seconds; fractions are cut off. -/
def render (offset : Float) : String :=
  String.ofList (chars (wholeSeconds offset))

/-- The number that a part of a clock text spells, zero if it spells none. -/
def partValue (part : List Char) : Nat :=
  (readNat? maxSeconds (trim part)).getD 0

/-- The numbers in a clock text, from the left. -/
def parts (t : List Char) : List Nat :=
  (pieces (· = ':') (trim t)).map partValue

/-- The seconds of one, two or three numbers.  Numbers after the third are ignored, and `word` is
what becomes of each product and each sum. -/
def inSeconds {m : Type → Type} [Monad m] (word : Nat → m Nat) : List Nat → m Nat
  | hours :: minutes :: seconds :: _ => do
    let fromHours ← word (hours * 3600)
    let fromMinutes ← word (minutes * 60)
    let sum ← word (fromHours + fromMinutes)
    word (sum + seconds)
  | [minutes, seconds] => do
    let fromMinutes ← word (minutes * 60)
    word (fromMinutes + seconds)
  | [seconds] => pure seconds
  | [] => pure 0

/-- A number that has to fit a word. -/
def checked? (n : Nat) : Option Nat :=
  if n ≤ maxUnsigned then some n else none

/-- The bits of a number that fit a word. -/
def wrapped (n : Nat) : Nat :=
  n % (maxUnsigned + 1)

/-- Reads `SS`, `MM:SS` or `HH:MM:SS`, where a part that is no number counts as zero; nothing if
the seconds do not fit a word on the way. -/
def parse? (s : String) : Option Nat :=
  inSeconds checked? (parts s.toList)

/-- Reads as `parse?` does, and keeps the bits that fit a word. -/
def parse (s : String) : Nat :=
  Id.run (inSeconds (fun n => pure (wrapped n)) (parts s.toList))

end Livecast.PlaybackTime
