import Livecast.Files.Volume
import Livecast.Log
import Livecast.Session.Ensemble

/-!
# What a session says about itself

A session and its collaborators log what they do.  The lines follow from the moves of the tasks: an
event is announced before it is handled, each call is reported where it is made, and the observer of
the command line reports what it is told.

## Main Definitions

* `Machine.announcement` - the lines about an event that is about to be handled
* `Ensemble.remarks` - the lines about a call
* `Ensemble.narration` - the lines about a move
-/

namespace Livecast

open Livecast.Text

/-- A line of a session. -/
def SessionIdentity.line (id : SessionIdentity) (level : LogLevel) (message : String) : LogLine :=
  ⟨level, .sessions, message ++ " session=" ++ id.text⟩

/-- A line of the observer that reports to the command line. -/
def SessionIdentity.notice (id : SessionIdentity) (level : LogLevel) (message : String) : LogLine :=
  ⟨level, .command, id.text ++ ": " ++ message⟩

/-- The lines about an event that a machine is about to handle. -/
def Machine.announcement {L : Type} (m : Machine L) (event : Event L) : List LogLine :=
  match m.state, event with
  | .closed, _ => []
  | _, .closeRequested => [m.id.line .info "close requested"]
  | .connecting, .opened _ =>
    [⟨.info, .connections, "WebSocket connected (HTTP 101 Switching Protocols)"⟩,
      m.id.line .info "session open"]
  | .opened, .opened _ => [m.id.line .warn ("unexpected second handshake in " ++ m.state.text)]
  | .opened, .closed => [m.id.line .info "connection closed by server"]
  | .opened, .deviceEnded => [m.id.line .info "capture device ended; closing"]
  | .opened, .message (.text content) =>
    match Signal.decode? content with
    | some (.error message) => [m.id.line .warn ("server reported: " ++ message)]
    | _ => []
  | _, _ => []

namespace Ensemble

/-- A line of the source of a session, if it is one that reads an input. -/
def sourceLine (r : Ensemble) (before after : String) : List LogLine :=
  match r.line.source with
  | .reader s => [⟨.info, .sources, before ++ "'" ++ s.label ++ "'" ++ after⟩]
  | .manual _ => []

/-- Whether the input of a session has not been handed to a producer. -/
def isIdle (r : Ensemble) : Bool :=
  match r.line.source with
  | .reader s => s.idle
  | .manual _ => true

/-- The lines about a call of a session. -/
def remarks (r : Ensemble) : Call MeteredLink → List LogLine
  | .source (.start cadence) =>
    r.sourceLine "capture " (" started (" ++
      natText (cadence.atLeast Timer.minPeriod).millis ++ " ms cadence)")
  | .source .stop => if r.isIdle then [] else r.sourceLine "capture " " stopped"
  | .toldOpened _ => [r.task.machine.id.notice .info "connected"]
  | .toldError _ e =>
    let id := r.task.machine.id
    (if e.endsSession then [id.line .warn e.message] else []) ++ [id.notice .warn e.message]
  | .toldClosed _ =>
    let id := r.task.machine.id
    [id.line .info "session closed", id.notice .info "closed"]
  | _ => []

/-- The event that the session takes with its next step. -/
def nextEvent? (r : Ensemble) : Option (Event MeteredLink) :=
  match r.task.machine.state, r.task.handshake with
  | .connecting, .ready result => some (SessionTask.outcome result)
  | _, _ => r.task.queue.items.head?

/-- The lines about a move that leads to `next`. -/
def narration (r : Ensemble) (move : Move) (next : Ensemble) : List LogLine :=
  match move with
  | .take =>
    (r.nextEvent?.toList.flatMap r.task.machine.announcement) ++
      (next.log.drop r.log.length).flatMap fun
        | .call c => r.remarks c
        | _ => []
  | .forward =>
    match r.line.source.report? with
    | some (some .ended, _) => [⟨.info, .capture, "capture device ended"⟩]
    | some (none, _) => [⟨.warn, .capture, "capture source stopped without signalling end"⟩]
    | _ => []
  | .read =>  -- of all inputs only a folder fails when it is read
    match r.line.source with
    | .reader s =>
      if s.pipe.unread.head? = some .failure then
        [⟨.warn, .sources, "capture read failed: " ++ FileError.isFolder.message⟩]
      else []
    | .manual _ => []
  | .write => []

end Ensemble

end Livecast
