import Livecast.Capture.Line
import Livecast.Heartbeat
import Livecast.Playback.Recorder
import Livecast.Session.Task

/-!
# Sessions with their surroundings

A session runs together with its timers, its source, the forwarder and a player, on a clock
that moves only when it is told to.  The tasks of the session are moves; between two moves of the
outside every move that is possible is made, one task after the other, until all tasks wait.

## Main Definitions

* `MeteredLink`, `Reactions` - connections and observers
* `Ensemble` - a session and everything around it
* `Move`, `Ensemble.step?` - what a task can do
* `Ensemble.settle`, `Ensemble.advance` - all tasks run until they wait, and the clock moves
* `Ensemble.pump` - the machine is fed from its queue by hand
-/

namespace Livecast

/-! ## Connections and observers -/

/-- A connection that refuses every frame after the first `limit`. -/
structure MeteredLink where
  /-- Its name in the log. -/
  name : String
  /-- How many frames it accepts; `none` is no limit. -/
  limit : Option Nat
  /-- What it answers to the others. -/
  refusal : SessionFailure
deriving DecidableEq

/-- The events that an observer posts when it is told something. -/
structure Reactions where
  /-- When the session has opened. -/
  opened : List (Event MeteredLink)
  /-- When there is a failure. -/
  error : List (Event MeteredLink)
  /-- When the session has closed. -/
  closed : List (Event MeteredLink)

/-! ## Ensembles -/

/-- A session and everything around it. -/
structure Ensemble where
  /-- The session. -/
  task : SessionTask MeteredLink
  /-- Its task takes events by itself. -/
  driven : Bool
  /-- The time on the clock, in nanoseconds. -/
  now : Nat
  /-- The heartbeat of the session. -/
  heartbeat : Heartbeat
  /-- The media source and its forwarder. -/
  line : CaptureLine
  /-- How many frames the connection has accepted. -/
  accepted : Nat
  /-- The file behind the player, if there is one. -/
  file : Option Recorder
  /-- The observers; `none` does nothing when it is told something. -/
  observers : List (Option Reactions)
  /-- What the session did, the oldest first. -/
  log : List (Activity MeteredLink)

namespace Ensemble

/-- A session that has not met any event.  With an address its task runs and begins the handshake,
without one its machine is fed by hand. -/
def ofSession (id : SessionIdentity) (settings : SessionPolicy) (url : Option String)
    (source : Source) (file : Option Recorder) (observers : List (Option Reactions)) :
    Ensemble where
  task := .start (.fresh id settings observers.length)
  driven := url.isSome
  now := 0
  heartbeat := .silent
  line := ⟨source, false⟩
  accepted := 0
  file := file
  observers := observers
  log := (url.map .connecting).toList

/-- What the collaborators would answer now. -/
def answers (r : Ensemble) : Answers where
  start := r.line.source.refusal
  send := r.task.machine.link.bind fun link =>
    match link.limit with
    | none => none
    | some limit => if r.accepted < limit then none else some link.refusal

/-- Posts an event to the session. -/
def post (r : Ensemble) (event : Event MeteredLink) : Ensemble :=
  { r with task := r.task.post event }

/-- Posts what an observer posts when it is told something. -/
def react (r : Ensemble) (observer : Nat) (choose : Reactions → List (Event MeteredLink)) :
    Ensemble :=
  match (r.observers[observer]?).join with
  | some reactions => (choose reactions).foldl post r
  | none => r

/-- What a call of the session changes around it. -/
def perform (r : Ensemble) : Call MeteredLink → Ensemble
  | .source call => { r with line := r.line.perform r.now call }
  | .sent _ _ => { r with accepted := r.accepted + 1 }
  | .presented update => { r with file := r.file.map (Recorder.present · update.chunk) }
  | .playerReleased => { r with file := r.file.map Recorder.release }
  | .toldOpened i => r.react i Reactions.opened
  | .toldError i _ => r.react i Reactions.error
  | .toldClosed i => r.react i Reactions.closed
  | .refused _ _ | .linkClosed _ => r

/-- What an activity of the session's task changes around it. -/
def note (r : Ensemble) (activity : Activity MeteredLink) : Ensemble :=
  let r := { r with log := r.log ++ [activity] }
  match activity with
  | .call c => r.perform c
  | _ => r

/-- The heartbeat follows the machine: it is started when the machine opens and stopped when the
machine closes. -/
def syncHeartbeat (r : Ensemble) : Ensemble :=
  match r.task.machine.heartbeat, r.heartbeat.running with
  | true, false => { r with heartbeat := .start r.task.machine.settings.heartbeat r.now }
  | false, _ => { r with heartbeat := r.heartbeat.stop }
  | true, true => r

/-- A task that has ended gives up its player. -/
def leave (r : Ensemble) : Ensemble :=
  if r.driven && r.task.isFinished then { r with file := r.file.map Recorder.release } else r

/-- The session after one of its steps. -/
def follow (r : Ensemble) (done : SessionTask MeteredLink × List (Activity MeteredLink)) :
    Ensemble :=
  (done.2.foldl note { r with task := done.1 }).syncHeartbeat.leave

/-! ## Moves -/

/-- What a task can do. -/
inductive Move where
  /-- The session takes the result of its handshake or an event. -/
  | take
  /-- The producer reads once. -/
  | read
  /-- The forwarder takes one report. -/
  | forward
  /-- The writing task does one step. -/
  | write
deriving DecidableEq

/-- The session takes one event from its queue. -/
def takeEvent? (r : Ensemble) : Option Ensemble :=
  (r.task.takeEvent? r.answers).map r.follow

/-- The forwarder takes one report. -/
def forward? (r : Ensemble) : Option Ensemble :=
  (r.line.forward? r.task.queue).map fun (line, queue) =>
    { r with line := line, task := { r.task with queue := queue } }

/-- One move; `none` if the task waits. -/
def step? (r : Ensemble) : Move → Option Ensemble
  | .take =>
    if r.driven then
      match r.task.takeHandshake? r.answers with
      | some done => some (r.follow done)
      | none => r.takeEvent?
    else none
  | .read =>
    r.line.readOnce?.map fun line => { r with line := line }
  | .forward => r.forward?
  | .write => r.file.bind fun file => file.step?.map fun file => { r with file := some file }

/-- The next move after one of the given kind that is possible, and its result. -/
def nextMove? (r : Ensemble) (current : Move) : Option (Move × Ensemble) :=
  ([current, .take, .read, .forward, .write].findSome? fun move =>
    (r.step? move).map fun next => (move, next))

/-- At most `fuel` moves; a task goes on until it waits. -/
def settleUpTo : Nat → Move → Ensemble → Ensemble
  | 0, _, r => r
  | fuel + 1, current, r =>
    match r.nextMove? current with
    | none => r
    | some (move, next) => settleUpTo fuel move next

/-- How many events all observers together post at most for one notification. -/
def eagerness (r : Ensemble) : Nat :=
  r.observers.foldl (fun total observer => total + match observer with
    | none => 0
    | some a => a.opened.length + a.error.length + a.closed.length) 0

/-- A bound for the number of moves until all tasks wait. -/
def workload (r : Ensemble) : Nat :=
  let media := r.task.queue.items.foldl (fun total event => total + match event with
    | .message frame => frame.size + 2
    | _ => 0) ((r.file.map Recorder.workload).getD 0)
  (r.task.queue.items.length + r.line.workload + r.eagerness + 4) * (r.eagerness + 4) * 2
    + media + 8

/-- All tasks run until they wait. -/
def settle (r : Ensemble) : Ensemble :=
  settleUpTo r.workload .take r

/-! ## The clock -/

/-- The time of the next timer, if one is due at or before `limit`. -/
def nextDue? (r : Ensemble) (limit : Nat) : Option Nat :=
  ([r.heartbeat.due?, r.line.due?].filterMap fun due =>
    due.bind fun due => if due ≤ limit then some due else none).min?

/-- Fires the timers that are due now: the heartbeat, and then the producer's. -/
def fire (r : Ensemble) : Ensemble :=
  let r := if r.heartbeat.due?.any (· ≤ r.now) then
      { r with heartbeat := r.heartbeat.tick r.task.queue.accepts }.post .heartbeatTick
    else r
  { r with line := r.line.fire r.now }

/-- The clock moves to `limit`; at most `fuel` times are stopped at. -/
def advanceUpTo : Nat → Nat → Ensemble → Ensemble
  | 0, limit, r => { r with now := limit }
  | fuel + 1, limit, r =>
    match r.nextDue? limit with
    | none => { r with now := limit }
    | some due => advanceUpTo fuel limit ({ r with now := due }.fire.settle)

/-- The clock moves on by some milliseconds, and every timer that becomes due on the way fires. -/
def advance (r : Ensemble) (millis : Nat) : Ensemble :=
  advanceUpTo (2 * millis + 2) (r.now + millis * 1000000) r

/-! ## Machines fed by hand -/

/-- Handles an event now. -/
def handle (r : Ensemble) (event : Event MeteredLink) : Ensemble :=
  let (machine, calls) := r.task.machine.handle r.answers event
  r.follow ({ r.task with machine := machine }, calls.map .call)

/-- Handles waiting events, at most `fuel`, and counts them. -/
def pumpUpTo : Nat → Ensemble → Ensemble × Nat
  | 0, r => (r, 0)
  | fuel + 1, r =>
    match r.task.queue.items with
    | [] => (r, 0)
    | event :: rest =>
      let task := { r.task with queue := { r.task.queue with items := rest } }
      let (last, count) := pumpUpTo fuel ({ r with task := task }.handle event)
      (last, count + 1)

/-- Handles waiting events until none is left, those included that are posted meanwhile. -/
def pump (r : Ensemble) : Ensemble × Nat := pumpUpTo r.workload r

/-- Gives the machine up, and with it its player. -/
def abandon (r : Ensemble) : Ensemble :=
  let r := (r.task.machine.abandon.map .call).foldl note r
  { r with file := r.file.map Recorder.release }.settle

/-! ## The outside -/

/-- The connection of the session accepts no more frames. -/
def cutOff (r : Ensemble) (refusal : SessionFailure) : Ensemble :=
  let machine := r.task.machine
  let link := machine.link.map fun link => { link with limit := some 0, refusal := refusal }
  { r with task := { r.task with machine := { machine with link := link } } }

/-- The handshake has a result; nothing happens if it has ended before. -/
def conclude (r : Ensemble) (result : Except SessionFailure MeteredLink) : Ensemble × Bool :=
  match r.task.handshake with
  | .pending => ({ r with task := { r.task with handshake := .ready result } }, true)
  | _ => (r, false)

/-- Something is done to a source that is driven by hand, which tells whether it was running. -/
def steer (r : Ensemble) (act : ManualSource → ManualSource) (runs : ManualSource → Bool) :
    Ensemble × Bool :=
  let (line, ran) := r.line.steer act runs
  ({ r with line := line }, ran)

/-- Something is done to the byte stream of a source, which tells whether it mattered. -/
def feed (r : Ensemble) (act : Pipe → Pipe) (matters : Pipe → Bool) : Ensemble × Bool :=
  let (line, mattered) := r.line.feed act matters
  ({ r with line := line }, mattered)

end Ensemble

end Livecast
