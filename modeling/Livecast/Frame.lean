import Livecast.Bytes
import Livecast.Text.Blank
import Livecast.Text.Quoted

/-!
# Frames and signals

A streaming connection carries media and signals: media segments travel in binary frames, signals
in text frames.  The text `h` is a heartbeat, `ERROR:` and a message is an error report,
and every other text means nothing.

## Main Definitions

* `Frame` - one message on the connection
* `Signal` - what the two sides tell each other besides media
* `Signal.encode`, `Signal.decode?` - the written form and its reader
-/

namespace Livecast

open Livecast.Text

/-- One message on a streaming connection. -/
inductive Frame where
  /-- A media segment. -/
  | binary (data : Bytes)
  /-- A text, which may be a signal. -/
  | text (content : String)
deriving DecidableEq

/-- What the two sides tell each other besides media. -/
inductive Signal where
  /-- The other side is alive; there is nothing to do. -/
  | heartbeat
  /-- The server reports an error in free text. -/
  | error (message : String)
deriving DecidableEq

namespace Signal

/-- The text of a heartbeat. -/
def heartbeatChars : List Char := ['h']

/-- What an error report starts with. -/
def errorMark : List Char := ['E', 'R', 'R', 'O', 'R', ':']

/-- The characters of the written form. -/
def chars : Signal → List Char
  | heartbeat => heartbeatChars
  | error message => errorMark ++ message.toList

/-- The written form of a signal. -/
def encode (m : Signal) : String :=
  String.ofList m.chars

/-- The signal that the characters of a text frame stand for. -/
def ofChars? (t : List Char) : Option Signal :=
  if t = heartbeatChars then some heartbeat
  else match t with
    | 'E' :: 'R' :: 'R' :: 'O' :: 'R' :: ':' :: r => some (error (String.ofList (trimStart r)))
    | _ => none

/-- Reads a text frame; blanks between the mark of an error report and its message are dropped. -/
def decode? (s : String) : Option Signal :=
  ofChars? s.toList

/-- A signal in diagnostics. -/
def diagnostic : Signal → String
  | heartbeat => "Heartbeat"
  | error message => "Error(" ++ quote message ++ ")"

end Signal

namespace Frame

/-- The text frame that carries a signal. -/
def signal (m : Signal) : Frame := text m.encode

/-- The length of the payload in bytes. -/
def size : Frame → Nat
  | binary data => data.length
  | text content => content.utf8ByteSize

/-- The payload has no bytes. -/
def isEmpty (f : Frame) : Bool := f.size == 0

end Frame

end Livecast
