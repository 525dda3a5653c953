import Livecast.Positive
import Livecast.Text.Blank
import Livecast.Text.Cut
import Livecast.Text.Decimal

/-!
# Preview thumbnails

A channel keeps its preview settings as `WIDTHxHEIGHT,DELAY`: one thumbnail of that size every
`DELAY` seconds.  Any other text turns previews off, which is written `False`.

## Main Definitions

* `Previews` - previews turned off, or a size and a delay
* `Previews.text`, `Previews.decode` - the written form and its reader
-/

namespace Livecast

open Livecast.Text

/-- The preview settings of a channel. -/
inductive Previews where
  /-- No thumbnails are made. -/
  | disabled
  /-- A thumbnail of this size is made every `delay` seconds. -/
  | enabled (width height delay : Positive)
deriving DecidableEq, Inhabited

namespace Previews

/-- Thumbnails of a size at a delay; any zero turns them off. -/
def ofWords (width height delay : UInt32) : Previews :=
  match Positive.ofWord? width, Positive.ofWord? height, Positive.ofWord? delay with
  | some w, some h, some d => enabled w h d
  | _, _, _ => disabled

/-- Thumbnails are made. -/
def areEnabled : Previews → Bool
  | disabled => false
  | enabled .. => true

/-- The thumbnail width, zero if there are none. -/
def width : Previews → UInt32
  | disabled => 0
  | enabled w _ _ => w.val

/-- The thumbnail height, zero if there are none. -/
def height : Previews → UInt32
  | disabled => 0
  | enabled _ h _ => h.val

/-- The seconds between thumbnails, zero if there are none. -/
def delay : Previews → UInt32
  | disabled => 0
  | enabled _ _ d => d.val

/-- The characters of the written form. -/
def chars : Previews → List Char
  | disabled => ['F', 'a', 'l', 's', 'e']
  | enabled w h d => digits w.toNat ++ 'x' :: digits h.toNat ++ ',' :: digits d.toNat

/-- The written form of the settings. -/
def text (p : Previews) : String :=
  String.ofList p.chars

/-- The positive word that a part spells, blanks around it aside. -/
def word? (part : List Char) : Option Positive :=
  (readInt? (trim part)).bind Positive.ofInt?

/-- The settings that a text stands for. -/
def ofChars (t : List Char) : Previews :=
  match cutAt? (· = ',') ((trim t).map Char.toLower) with
  | none => disabled
  | some (size, delay) =>
    match cutAt? (· = 'x') (trim size) with
    | none => disabled
    | some (width, height) =>
      match word? width, word? height, word? delay with
      | some w, some h, some d => enabled w h d
      | _, _, _ => disabled

/-- Reads preview settings; whatever is not a positive size and delay turns them off. -/
def decode (s : String) : Previews :=
  ofChars s.toList

end Previews

end Livecast
