import Livecast.Mailbox
import Livecast.Session.Machine

/-!
# The task that runs a session

One task owns the machine of a session.  While the session is connecting it waits for the handshake
and for posted events alike, and takes whichever is there; after that it takes the posted events in
order.  It ends when the machine has closed.  Leaving the connecting state drops a handshake that is
still pending.

## Main Definitions

* `Handshake` - how far the handshake is
* `SessionTask` - the machine, the queue of posted events and the handshake
* `Activity` - what the task does: calls of the machine, and what it does with the handshake
* `SessionTask.takeHandshake?`, `SessionTask.takeEvent?` - the two steps of the task

## Design Notes

When the handshake has a result and events are waiting, either step is possible: which one is taken
is not the task's choice.  A statement about the task is a statement about every sequence of the two
steps.  The machine posts events of its own into the queue, so the queue has a sender for as long as
the task runs, and there is no step for a queue that has come to its end.
-/

namespace Livecast

/-- How far a handshake is; connections are of type `L`. -/
inductive Handshake (L : Type) where
  /-- It is under way. -/
  | pending
  /-- It has a result that was not taken yet. -/
  | ready (result : Except SessionFailure L)
  /-- Its result was taken. -/
  | taken
  /-- It was dropped without a result. -/
  | dropped

/-- What the task of a session does. -/
inductive Activity (L : Type) where
  /-- The handshake begins. -/
  | connecting (url : String)
  /-- The handshake is dropped before its result was taken. -/
  | handshakeDropped
  /-- The machine calls a collaborator. -/
  | call (c : Call L)
deriving DecidableEq

/-- The task that runs a session. -/
structure SessionTask (L : Type) where
  /-- The session. -/
  machine : Machine L
  /-- The events that were posted and not handled. -/
  queue : Mailbox (Event L)
  /-- The handshake. -/
  handshake : Handshake L

namespace SessionTask

variable {L : Type}

/-- The task of a new session, which begins its handshake. -/
def start (machine : Machine L) : SessionTask L := ⟨machine, .fresh, .pending⟩

/-- The task has ended. -/
def isFinished (t : SessionTask L) : Bool := t.machine.isClosed

/-- Posts an event. -/
def post (t : SessionTask L) (event : Event L) : SessionTask L :=
  { t with queue := t.queue.send event }

/-- The event that the result of a handshake is. -/
def outcome : Except SessionFailure L → Event L
  | .ok link => .opened link
  | .error e => .handshakeFailed e

/-- What follows an event: a handshake that is no longer waited for is dropped, and with the task
its queue ends. -/
def settle (t : SessionTask L) : SessionTask L × List (Activity L) :=
  let t := if t.machine.isClosed then { t with queue := t.queue.dropReceiver } else t
  match t.machine.state, t.handshake with
  | .connecting, _ => (t, [])
  | _, .pending | _, .ready _ => ({ t with handshake := .dropped }, [.handshakeDropped])
  | _, _ => (t, [])

/-- Handles an event. -/
def handle (t : SessionTask L) (a : Answers) (event : Event L) :
    SessionTask L × List (Activity L) :=
  let (machine, calls) := t.machine.handle a event
  let (t, more) := { t with machine := machine }.settle
  (t, calls.map .call ++ more)

/-- Takes the result of the handshake, if the session waits for it and it is there. -/
def takeHandshake? (t : SessionTask L) (a : Answers) :
    Option (SessionTask L × List (Activity L)) :=
  match t.machine.state, t.handshake with
  | .connecting, .ready result => some ({ t with handshake := .taken }.handle a (outcome result))
  | _, _ => none

/-- Takes the oldest posted event, if the session has not closed and there is one. -/
def takeEvent? (t : SessionTask L) (a : Answers) :
    Option (SessionTask L × List (Activity L)) :=
  match t.machine.isClosed, t.queue.items with
  | false, event :: rest =>
    some ({ t with queue := { t.queue with items := rest } }.handle a event)
  | _, _ => none

/-- How the session ended, once it has. -/
def report? (t : SessionTask L) : Option SessionSummary :=
  if t.isFinished then some t.machine.report else none

end SessionTask

end Livecast
