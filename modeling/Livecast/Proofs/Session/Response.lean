import Livecast.Session.Machine

/-!
# What an event asks of a session

The transition function of a session does two things at once: it decides, from the stage and the
event alone, what is to be done, and it does it with what the session owns.  This file takes the two
apart.

## Main Definitions

* `Response` - the things that a session does about an event
* `response` - the decision, a table of stages and events
* `Machine.perform` - the deed, which needs the machine and the answers of its collaborators

## Main Statements

* `Machine.handle_eq_perform` - handling an event is performing the response to it
* `response_arises` - the stages in which each response is given
* `response_link` - no connection that an event delivers is overlooked
-/

namespace Livecast

variable {L : Type}

/-- What a session whose connections are of type `L` does about an event. -/
inductive Response (L : Type) where
  /-- Nothing. -/
  | ignore
  /-- It closes a connection that it does not want. -/
  | discard (link : L)
  /-- It opens over a connection. -/
  | establish (link : L)
  /-- It reports a failure and closes. -/
  | fail (error : SessionFailure)
  /-- It closes cleanly. -/
  | close
  /-- It takes in received media. -/
  | receive (data : Bytes)
  /-- It listens to a text frame. -/
  | hear (content : String)
  /-- It remembers a playback position. -/
  | record (position : Duration)
  /-- It sends a frame. -/
  | send (frame : Frame)

/-- The connection that an event delivers. -/
def Event.link? : Event L → Option L
  | .opened link => some link
  | _ => none

/-- The connection that a response is about. -/
def Response.link? : Response L → Option L
  | .discard link | .establish link => some link
  | _ => none

/-- What a session does about an event, as far as its stage decides that. -/
def response : SessionStage → Event L → Response L
  | .closed, .opened link => .discard link
  | .closed, _ => .ignore
  | _, .closeRequested => .close
  | _, .progress position => .record position
  | .connecting, .opened link => .establish link
  | .connecting, .handshakeFailed e => .fail e
  | .connecting, .errored reason => .fail (.handshake reason)
  | .connecting, .closed => .fail (.handshake "connection closed before the session opened")
  | .connecting, _ => .ignore
  | .opened, .opened link => .discard link
  | .opened, .handshakeFailed _ => .ignore
  | .opened, .message (.binary data) => .receive data
  | .opened, .message (.text content) => .hear content
  | .opened, .errored reason => .fail (.transport reason)
  | .opened, .closed => .close
  | .opened, .deviceEnded => .close
  | .opened, .heartbeatTick => .send (.signal .heartbeat)
  | .opened, .segment data => if data.isEmpty then .ignore else .send (.binary data)
  | .opened, .sendSignal signal => .send (.signal signal)

/-- The stages in which a response can be given. -/
def Response.Arises : Response L → SessionStage → Prop
  | .ignore, _ => True
  | .discard _, stage => stage ≠ .connecting
  | .establish _, stage => stage = .connecting
  | .fail _, stage | .close, stage | .record _, stage => stage ≠ .closed
  | .receive _, stage | .hear _, stage | .send _, stage => stage = .opened

theorem response_arises (stage : SessionStage) (event : Event L) :
    (response stage event).Arises stage := by
  rcases event with link | e | (data | content) | reason | _ | _ | _ | _ | data | signal | position
  case segment =>
    cases stage with
    | opened =>
        by_cases empty : data.isEmpty = true <;> simp [response, empty, Response.Arises]
    | _ => simp [response, Response.Arises]
  all_goals cases stage <;> simp [response, Response.Arises]

/-- A response is about a connection exactly when the event delivers it. -/
theorem response_link (stage : SessionStage) (event : Event L) :
    (response stage event).link? = event.link? := by
  rcases event with link | e | (data | content) | reason | _ | _ | _ | _ | data | signal | position
  case segment =>
    cases stage with
    | opened =>
        by_cases empty : data.isEmpty = true <;>
          simp [response, empty, Response.link?, Event.link?]
    | _ => rfl
  all_goals cases stage <;> rfl

theorem event_of_establish {stage : SessionStage} {event : Event L} {link : L}
    (h : response stage event = .establish link) : event = .opened link := by
  have delivered := response_link stage event
  rw [h] at delivered
  cases event with
  | opened l =>
      obtain rfl : link = l := Option.some.inj delivered
      rfl
  | _ => simp [Response.link?, Event.link?] at delivered

namespace Machine

/-- Does what a response says. -/
def perform (m : Machine L) (a : Answers) : Response L → Machine L × List (Call L)
  | .ignore => (m, [])
  | .discard link => (m, [.linkClosed link])
  | .establish link => m.establish a link
  | .fail e => m.fail e
  | .close => m.close
  | .receive data => m.receive data
  | .hear content => m.hear content
  | .record position => (m.record position, [])
  | .send frame => m.send a frame

/-- **Handling an event is performing the response to it.** -/
theorem handle_eq_perform (m : Machine L) (a : Answers) (event : Event L) :
    m.handle a event = m.perform a (response m.state event) := by
  unfold handle
  rcases event with link | e | (data | content) | reason | _ | _ | _ | _ | data | signal | position
  case segment =>
    cases stage : m.state with
    | opened =>
        by_cases empty : data.isEmpty = true <;> simp [response, empty, perform]
    | _ => rfl
  all_goals cases stage : m.state <;> rfl

end Machine

end Livecast
