import Livecast.Positive
import Livecast.Text.Blank
import Livecast.Text.Cut
import Livecast.Text.Decimal

/-!
# Transcoding targets

A resolution is written `WIDTHxHEIGHT[-FPS][~BITRATE]`.  Reading trims blanks, takes the sizes
strictly and the frame rate and bit rate leniently: these are the integer at the start of their
text, and count as not set when there is none or when it is no positive word.

## Main Definitions

* `Resolution` - a size with an optional frame rate and an optional bit rate
* `Resolution.text` - the written form
* `Resolution.parse` - the reader, and `ResolutionFault`, the ways in which it fails

## Design Notes

The width and height are plain words: a resolution that is built, not read, may have a size of zero.
The rates are `Positive`, so that "not set" has exactly one representation.
-/

namespace Livecast

open Livecast.Text

/-- A transcoding target. -/
structure Resolution where
  /-- Picture width in pixels. -/
  width : UInt32
  /-- Picture height in pixels. -/
  height : UInt32
  /-- Frames per second; `none` keeps the rate of the input. -/
  fps : Option Positive
  /-- Limit of the bit rate in kbit/s; `none` is no limit. -/
  bitrate : Option Positive
deriving DecidableEq

/-- Why a text is not a resolution; each case carries the trimmed text. -/
inductive ResolutionFault where
  /-- There is no `x` between a width and a height. -/
  | format (entry : String)
  /-- A size is not an integer. -/
  | number (entry : String)
  /-- A size is not a positive word. -/
  | nonPositive (entry : String)
deriving DecidableEq

/-- The text that tells a user what is wrong with a resolution. -/
def ResolutionFault.message : ResolutionFault → String
  | .format entry => "resolution '" ++ entry ++ "' must have the form WIDTHxHEIGHT[-FPS][~BITRATE]"
  | .number entry => "resolution '" ++ entry ++ "' contains a number that is not a valid integer"
  | .nonPositive entry => "resolution '" ++ entry ++ "' must have a positive width and height"

namespace Resolution

/-- A size at the input's frame rate and without a limit. -/
def ofSize (width height : UInt32) : Resolution := ⟨width, height, none, none⟩

/-- The target with another frame rate; zero clears it. -/
def atRate (r : Resolution) (fps : UInt32) : Resolution := { r with fps := Positive.ofWord? fps }

/-- The target with another bit rate; zero clears it. -/
def cappedAt (r : Resolution) (bitrate : UInt32) : Resolution :=
  { r with bitrate := Positive.ofWord? bitrate }

/-- A rate behind its mark, or nothing if it is not set. -/
def rateChars (mark : Char) : Option Positive → List Char
  | none => []
  | some rate => mark :: digits rate.toNat

/-- The characters of the written form. -/
def chars (r : Resolution) : List Char :=
  digits r.width.toNat ++ 'x' :: digits r.height.toNat ++ rateChars '-' r.fps
    ++ rateChars '~' r.bitrate

/-- The written form `WIDTHxHEIGHT[-FPS][~BITRATE]`. -/
def text (r : Resolution) : String :=
  String.ofList r.chars

/-- The integer at the start of a text: blanks, an optional sign and the longest run of digits.
What follows is ignored; a number beyond 64 bits is none. -/
def integerPrefix? (t : List Char) : Option Int :=
  match trimStart t with
  | '-' :: r => readInt? ('-' :: r.takeWhile Char.isDigit)
  | '+' :: r => readInt? ('+' :: r.takeWhile Char.isDigit)
  | r => readInt? (r.takeWhile Char.isDigit)

/-- The character that separates width and height. -/
def isCross (c : Char) : Bool := c = 'x' || c = 'X'

/-- The parts of an entry: its size, and the texts behind the first `-` and the first `~`. -/
def split (entry : List Char) : List Char × Option (List Char) × Option (List Char) :=
  let (rest, bitrate) := match cutAt? (· = '~') entry with
    | some (rest, bitrate) => (rest, some bitrate)
    | none => (entry, none)
  match cutAt? (· = '-') rest with
  | some (size, fps) => (size, some fps, bitrate)
  | none => (rest, none, bitrate)

/-- Reads an entry that has been trimmed. -/
def ofEntry (entry : List Char) : Except ResolutionFault Resolution :=
  let name := String.ofList entry
  let (size, fps, bitrate) := split entry
  match cutAt? isCross size with
  | none => .error (.format name)
  | some (width, height) =>
    match readInt? (trim width), readInt? (trim height) with
    | some w, some h =>
      match Positive.ofInt? w, Positive.ofInt? h with
      | some w, some h =>
        .ok { width := w.val, height := h.val,
              fps := fps.bind fun t => (integerPrefix? t).bind Positive.ofInt?,
              bitrate := bitrate.bind fun t => (integerPrefix? t).bind Positive.ofInt? }
      | _, _ => .error (.nonPositive name)
    | _, _ => .error (.number name)

/-- Reads a resolution. -/
def parse (s : String) : Except ResolutionFault Resolution :=
  ofEntry (trim s.toList)

end Resolution

end Livecast
