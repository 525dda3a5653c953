import Livecast.Capture.Tap
import Livecast.Reassembly

/-!
# The session machine

A session is a machine with three states.  It handles one event at a time, in the order in which
they were posted, and everything it does to its collaborators is a call in a log: the media source,
the connection, the player and the observers.

## Main Definitions

* `Machine` - the state of a session together with what it owns
* `Call` - one thing that a session does to a collaborator
* `Answers` - what the collaborators answer while one event is handled
* `Machine.handle` - the transition function, `Machine.run` - a whole run
* `Machine.report` - how a session ended

## Design Notes

Closing sets the state first and then tears down in a fixed order: heartbeat, source, connection,
player, observers.  An event that comes later finds the state closed and does nothing, so closing
twice is closing once; only a connection that is delivered late is closed at once.

The answers of collaborators are an input.  While one event is handled at most one source is started
and at most one frame is sent, so one answer for each is enough, and a statement over all answers is
a statement over all behaviours of sources and connections.
-/

namespace Livecast

/-- What a player is given after every received segment. -/
structure Presentation where
  /-- Everything received so far. -/
  buffer : Bytes
  /-- The segment that was received last. -/
  chunk : Bytes
  /-- How many segments there were. -/
  count : Nat
  /-- Where a restarted player resumes. -/
  resumeAt : Duration
deriving DecidableEq

/-- One thing that a session does to a collaborator; connections are of type `L`. -/
inductive Call (L : Type) where
  /-- Something is asked of the media source. -/
  | source (call : SourceCall)
  /-- A frame is sent, and accepted. -/
  | sent (link : L) (frame : Frame)
  /-- A frame is sent, and refused. -/
  | refused (link : L) (frame : Frame)
  /-- A connection is closed. -/
  | linkClosed (link : L)
  /-- A segment is presented. -/
  | presented (update : Presentation)
  /-- The player is released. -/
  | playerReleased
  /-- The observer of this number is told that the session is open. -/
  | toldOpened (observer : Nat)
  /-- The observer of this number is told of a failure. -/
  | toldError (observer : Nat) (error : SessionFailure)
  /-- The observer of this number is told that the session has closed. -/
  | toldClosed (observer : Nat)
deriving DecidableEq

/-- What the collaborators answer while one event is handled. -/
structure Answers where
  /-- Why the media source refuses to start, if it does. -/
  start : Option CaptureFailure
  /-- Why the connection refuses a frame, if it does. -/
  send : Option SessionFailure
deriving DecidableEq

/-- No collaborator refuses anything. -/
def Answers.willing : Answers := ⟨none, none⟩

/-- What a session owns because of its role. -/
inductive Side where
  /-- A publishing session has an acquired device until it opens, and a capture while it is open. -/
  | publish (device : Bool) (capture : Option SourceTap)
  /-- A watching session has what it received, and a position from which playback resumes. -/
  | watch (received : Reassembly) (resumeAt : Duration)
deriving DecidableEq

/-- A session and what it owns; connections are of type `L`. -/
structure Machine (L : Type) where
  /-- What identifies the session. -/
  id : SessionIdentity
  /-- Its timing and retention. -/
  settings : SessionPolicy
  /-- How many observers are registered. -/
  observers : Nat
  /-- The stage of its life. -/
  state : SessionStage
  /-- The connection that it owns. -/
  link : Option L
  /-- Its heartbeat is running. -/
  heartbeat : Bool
  /-- What it owns because of its role. -/
  side : Side
  /-- The failure that closed it. -/
  failure : Option SessionFailure
deriving DecidableEq

/-- How a session ended. -/
structure SessionSummary where
  /-- What identifies the session. -/
  id : SessionIdentity
  /-- The failure that closed it, unless it closed cleanly. -/
  failure : Option SessionFailure
  /-- The received media, if they were to be kept. -/
  retained : Option Bytes
deriving DecidableEq

namespace Machine

variable {L : Type}

/-- A new session; what it owns follows from its role. -/
def fresh (id : SessionIdentity) (settings : SessionPolicy) (observers : Nat) : Machine L where
  id := id
  settings := settings
  observers := observers
  state := .connecting
  link := none
  heartbeat := false
  side := match id.role with
    | .publish => .publish true none
    | .watch => .watch .empty .zero
  failure := none

/-- The session has closed. -/
def isClosed (m : Machine L) : Bool := m.state = .closed

/-- The session has a capture. -/
def isCapturing (m : Machine L) : Bool :=
  match m.side with
  | .publish _ (some _) => true
  | _ => false

/-- The same notification for every observer, in the order of their registration. -/
def notify (m : Machine L) (call : Nat → Call L) : List (Call L) :=
  (List.range m.observers).map call

/-- The source side of closing: a running capture is stopped, an idle device is released. -/
def stopSource : Side → Side × List (Call L)
  | .publish device (some tap) => (.publish device none, tap.stop.2.map .source)
  | .publish true none => (.publish false none, [.source .stop])
  | side => (side, [])

/-- The playback side of closing: what was received and the player are released unless they are
kept. -/
def releasePlayback (retain : Bool) : Side → Side × List (Call L)
  | .watch received resumeAt =>
    if retain then (.watch received resumeAt, [])
    else (.watch received.release resumeAt, [.playerReleased])
  | side => (side, [])

/-- Closes the session: heartbeat, source, connection, player, observers. -/
def close (m : Machine L) : Machine L × List (Call L) :=
  if m.isClosed then (m, [])
  else
    let (stopped, sourceCalls) := stopSource m.side
    let (released, playerCalls) := releasePlayback m.settings.retain stopped
    ({ m with state := .closed, heartbeat := false, link := none, side := released },
      sourceCalls ++ m.link.toList.map .linkClosed ++ playerCalls ++ m.notify .toldClosed)

/-- Tells the observers of a failure and closes the session. -/
def fail (m : Machine L) (error : SessionFailure) : Machine L × List (Call L) :=
  if m.isClosed then (m, [])
  else
    let (closed, calls) := { m with failure := some error }.close
    (closed, m.notify (.toldError · error) ++ calls)

/-- Opens the session over a connection.  A publishing session starts its source first; observers
are told that it is open only if the source starts. -/
def establish (m : Machine L) (a : Answers) (link : L) : Machine L × List (Call L) :=
  let opened := { m with state := .opened, link := some link, heartbeat := true }
  match m.side with
  | .publish true _ =>
    match SourceTap.start m.settings.capture a.start with
    | (.ok tap, calls) =>
      ({ opened with side := .publish false (some tap) },
        calls.map .source ++ m.notify .toldOpened)
    | (.error e, calls) =>
      let (closed, closing) :=
        { opened with side := .publish false none }.fail (.capture e.message)
      (closed, calls.map .source ++ closing)
  | _ => (opened, m.notify .toldOpened)

/-- Takes in received media and presents them; a publishing session ignores them. -/
def receive (m : Machine L) (data : Bytes) : Machine L × List (Call L) :=
  match m.side with
  | .watch received resumeAt =>
    let received := received.append data
    ({ m with side := .watch received resumeAt },
      [.presented ⟨received.buffer, data, received.count, resumeAt⟩])
  | _ => (m, [])

/-- Tells the observers of an error that the server reports; other texts mean nothing. -/
def hear (m : Machine L) (content : String) : Machine L × List (Call L) :=
  match Signal.decode? content with
  | some (.error message) => (m, m.notify (.toldError · (.remote message)))
  | _ => (m, [])

/-- Remembers where playback is; the very start is what a restarted player reports before it has
resumed, and is ignored. -/
def record (m : Machine L) (position : Duration) : Machine L :=
  match m.side with
  | .watch received _ => if position.isZero then m else { m with side := .watch received position }
  | _ => m

/-- Sends a frame; a refusal closes the session. -/
def send (m : Machine L) (a : Answers) (frame : Frame) : Machine L × List (Call L) :=
  match m.link with
  | none => (m, [])
  | some link =>
    match a.send with
    | none => (m, [.sent link frame])
    | some e =>
      let (closed, calls) := m.fail e
      (closed, .refused link frame :: calls)

/-- Handles one event. -/
def handle (m : Machine L) (a : Answers) (event : Event L) : Machine L × List (Call L) :=
  match m.state, event with
  | .closed, .opened link => (m, [.linkClosed link])
  | .closed, _ => (m, [])
  | _, .closeRequested => m.close
  | _, .progress position => (m.record position, [])
  | .connecting, .opened link => m.establish a link
  | .connecting, .handshakeFailed e => m.fail e
  | .connecting, .errored reason => m.fail (.handshake reason)
  | .connecting, .closed => m.fail (.handshake "connection closed before the session opened")
  | .opened, .message (.binary data) => m.receive data
  | .opened, .message (.text content) => m.hear content
  | .opened, .errored reason => m.fail (.transport reason)
  | .opened, .closed => m.close
  | .opened, .deviceEnded => m.close
  | .opened, .heartbeatTick => m.send a (.signal .heartbeat)
  | .opened, .segment data => if data.isEmpty then (m, []) else m.send a (.binary data)
  | .opened, .sendSignal signal => m.send a (.signal signal)
  | .opened, .opened link => (m, [.linkClosed link])
  | _, _ => (m, [])

/-- Handles events one after the other, each with the answers that it meets. -/
def run (m : Machine L) : List (Event L × Answers) → Machine L × List (Call L)
  | [] => (m, [])
  | (event, a) :: rest =>
    let (next, calls) := m.handle a event
    let (last, more) := next.run rest
    (last, calls ++ more)

/-- How the session ended. -/
def report (m : Machine L) : SessionSummary where
  id := m.id
  failure := m.failure
  retained := match m.side with
    | .watch received _ => if m.settings.retain then some received.buffer else none
    | _ => none

/-- What giving the machine up does: a capture that still runs is stopped. -/
def abandon (m : Machine L) : List (Call L) :=
  match m.side with
  | .publish _ (some tap) => tap.stop.2.map .source
  | _ => []

end Machine

end Livecast
