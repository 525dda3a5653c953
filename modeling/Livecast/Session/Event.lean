import Livecast.Duration
import Livecast.Frame
import Livecast.SessionIdentity

/-!
# Failures and events of a session

Whatever happens to a session reaches it as an event: the outcome of the handshake, inbound frames,
the end of the connection, a tick of the heartbeat, a captured segment, a wish of the caller.

## Main Definitions

* `SessionFailure` - a failure that observers are told about
* `Event` - the inputs of a session, over the type `L` of connections
* `Event.diagnostic` - an event in diagnostics, which shows sizes instead of media
* `SessionPolicy` - timing and retention
-/

namespace Livecast

open Livecast.Text

/-- A failure that observers are told about. -/
inductive SessionFailure where
  /-- The connection was never established. -/
  | handshake (reason : String)
  /-- The established connection failed. -/
  | transport (reason : String)
  /-- The server reported an error; the session goes on. -/
  | remote (reason : String)
  /-- The media source did not start. -/
  | capture (reason : String)
deriving DecidableEq

namespace SessionFailure

/-- What a failure says about its cause. -/
def reason : SessionFailure → String
  | handshake r | transport r | remote r | capture r => r

/-- The text that tells a user about a failure. -/
def message : SessionFailure → String
  | handshake r => "handshake failed: " ++ r
  | transport r => "transport error: " ++ r
  | remote r => "server error: " ++ r
  | capture r => "capture error: " ++ r

/-- The failure ends the session. -/
def endsSession : SessionFailure → Bool
  | remote _ => false
  | _ => true

/-- The name of the kind of a failure in diagnostics. -/
def kindName : SessionFailure → String
  | handshake _ => "HandshakeFailure"
  | transport _ => "Transport"
  | remote _ => "Remote"
  | capture _ => "Capture"

/-- A failure in diagnostics. -/
def diagnostic (e : SessionFailure) : String :=
  e.kindName ++ "(" ++ quote e.reason ++ ")"

end SessionFailure

/-- The inputs of a session whose connections are of type `L`. -/
inductive Event (L : Type) where
  /-- The handshake succeeded; the session now owns the connection. -/
  | opened (link : L)
  /-- The handshake failed. -/
  | handshakeFailed (error : SessionFailure)
  /-- A frame arrived. -/
  | message (frame : Frame)
  /-- The connection reports an error. -/
  | errored (reason : String)
  /-- The other side closed the connection. -/
  | closed
  /-- The capture device ended. -/
  | deviceEnded
  /-- The caller wants the session closed. -/
  | closeRequested
  /-- A heartbeat period has passed. -/
  | heartbeatTick
  /-- A segment was captured. -/
  | segment (data : Bytes)
  /-- The caller wants a signal sent. -/
  | sendSignal (signal : Signal)
  /-- Playback has reached this position. -/
  | progress (position : Duration)
deriving DecidableEq

/-- An event in diagnostics; media are shown by their size. -/
def Event.diagnostic {L : Type} : Event L → String
  | opened _ => "Opened"
  | handshakeFailed e => "HandshakeFailed(" ++ e.diagnostic ++ ")"
  | message (.binary data) => "Message(Binary, " ++ natText data.length ++ " bytes)"
  | message (.text content) => "Message(" ++ quote content ++ ")"
  | errored reason => "Errored(" ++ quote reason ++ ")"
  | closed => "Closed"
  | deviceEnded => "DeviceEnded"
  | closeRequested => "CloseRequested"
  | heartbeatTick => "HeartbeatTick"
  | segment data => "Segment(" ++ natText data.length ++ " bytes)"
  | sendSignal s => "SendControl(" ++ s.diagnostic ++ ")"
  | progress position => "PlaybackProgress(" ++ position.text ++ ")"

/-- Timing and retention of a session. -/
structure SessionPolicy where
  /-- The time between two heartbeats. -/
  heartbeat : Duration
  /-- The time between two captured segments. -/
  capture : Duration
  /-- The received media are kept after the session has closed. -/
  retain : Bool
deriving DecidableEq

/-- A heartbeat every twenty seconds, a segment every half second, nothing kept. -/
def SessionPolicy.standard : SessionPolicy := ⟨.ofSeconds 20, .ofMillis 500, false⟩

instance : Inhabited SessionPolicy := ⟨.standard⟩

end Livecast
