import Livecast.Command.Plan
import Livecast.Session.Narration
import Livecast.WebSocket.Connection

/-!
# Sessions over a connection

A command that publishes or watches runs one session.  Its tasks and the two tasks of its connection
take turns; what the session hands to its link goes to the connection, and what the connection
receives goes to the session.  The command ends when the session has: it does not wait for the
connection.

## Main Definitions

* `LiveSession` - a session, its connection and what has been logged
* `LiveSession.Move`, `LiveSession.step?` - what one of the tasks can do
* `LiveSession.settle`, `LiveSession.elapse` - all tasks run until they wait, and time passes
* `LiveSession.ending?` - how the command ends, once its session has
-/

namespace Livecast

/-- The failure for which a session's end is a failure of the command. -/
def SessionSummary.fatality? (r : SessionSummary) : Option SessionFailure :=
  r.failure.filter SessionFailure.endsSession

/-- A session that a command runs, and its connection. -/
structure LiveSession where
  /-- What it was set up for. -/
  setup : Setup
  /-- The session with its timers and its media. -/
  ensemble : Ensemble
  /-- The connection. -/
  connection : Connection
  /-- What has been logged. -/
  log : List LogLine

namespace LiveSession

/-- The source of a session; a watching session has none that would ever be started. -/
def sourceOf : Media → Source
  | .input source => .reader source
  | .output _ _ => .manual (.fresh false)

/-- The recorder of a session, if it has one. -/
def recorderOf : Media → Option Recorder
  | .input _ => none
  | .output _ recorder => some recorder

/-- A session that has been set up and begins its handshake. -/
def start (setup : Setup) : LiveSession where
  setup := setup
  ensemble := .ofSession setup.id setup.settings (some setup.url) (sourceOf setup.media)
    (recorderOf setup.media) [none]
  connection := .fresh
  log := setup.log ++ [setup.id.line .info "connecting"]

/-! ## Moves -/

/-- What one of the tasks can do. -/
inductive Move where
  /-- A task of the session does a step. -/
  | session (move : Ensemble.Move)
  /-- The connection takes something from the stream. -/
  | receive
  /-- The connection puts something on the stream. -/
  | transmit
deriving DecidableEq

/-- What the session has done reaches the connection. -/
def handOver (c : Connection) : Activity MeteredLink → Connection
  | .call (.sent _ frame) => c.send frame
  | .call (.linkClosed _) => c.drop
  | _ => c

/-- What the connection reports reaches the session, and a link behind which nobody writes any more
refuses frames. -/
def report (l : LiveSession) (done : Connection × List (Event MeteredLink)) : LiveSession :=
  let told := done.2.foldl Ensemble.post l.ensemble
  { l with connection := done.1,
           ensemble := match done.1.refusal with
             | some e => told.cutOff e
             | none => told }

/-- One move; `none` if the task waits. -/
def step? (l : LiveSession) : Move → Option LiveSession
  | .session move =>
    (l.ensemble.step? move).map fun next =>
      { l with ensemble := next, log := l.log ++ l.ensemble.narration move next,
               connection := (next.log.drop l.ensemble.log.length).foldl handOver l.connection }
  | .receive => l.connection.read?.map l.report
  | .transmit => (l.connection.write? l.connection.streamRefusal).map l.report

/-- The moves in the order in which they are tried. -/
def moves : List Move :=
  [.receive, .session .take, .transmit, .session .forward, .session .read, .session .write]

/-- At most `fuel` moves, each time the first one that is possible. -/
def settleUpTo : Nat → LiveSession → LiveSession
  | 0, l => l
  | fuel + 1, l =>
    match moves.findSome? l.step? with
    | none => l
    | some next => settleUpTo fuel next

/-- A bound for the number of moves until all tasks wait: what arrives on the stream may be
presented and written, and what is captured may be sent. -/
def workload (l : LiveSession) : Nat :=
  4 * (l.ensemble.workload + l.connection.unread.length + l.connection.outbound.items.length + 4)

/-- All tasks run until they wait. -/
def settle (l : LiveSession) : LiveSession := settleUpTo l.workload l

/-! ## The outside -/

/-- The handshake has ended. -/
def conclude (l : LiveSession) (result : Except SessionFailure String) : LiveSession :=
  { l with ensemble :=
      (l.ensemble.conclude (result.map fun _ => ⟨"link", none, .transport ""⟩)).1 }.settle

/-- Something arrives on the stream. -/
def arrive (l : LiveSession) (bytes : Bytes) : LiveSession :=
  { l with connection := l.connection.arrive bytes }.settle

/-- The stream ends. -/
def hangUp (l : LiveSession) : LiveSession :=
  { l with connection := l.connection.finish }.settle

/-- Something is done to the input. -/
def feed (l : LiveSession) (act : Pipe → Pipe) : LiveSession :=
  { l with ensemble := (l.ensemble.feed act Pipe.accepts).1 }.settle

/-- The clock reaches the time of the next timer that is due at or before `limit`, and so on; at
most `fuel` times are stopped at. -/
def elapseUpTo : Nat → Nat → LiveSession → LiveSession
  | 0, limit, l => { l with ensemble := { l.ensemble with now := limit } }
  | fuel + 1, limit, l =>
    match l.ensemble.nextDue? limit with
    | none => { l with ensemble := { l.ensemble with now := limit } }
    | some due =>
      elapseUpTo fuel limit
        { l with ensemble := { l.ensemble with now := due }.fire }.settle

/-- Some milliseconds pass. -/
def elapse (l : LiveSession) (millis : Nat) : LiveSession :=
  elapseUpTo (2 * millis + 2) (l.ensemble.now + millis * 1000000) l

/-- The session has ended. -/
def isFinished (l : LiveSession) : Bool := l.ensemble.task.isFinished

/-- What the recorder has written. -/
def written (l : LiveSession) : Bytes := (l.ensemble.file.map fun s => s.disk.data).getD []

/-- What a session has written on the standard output. -/
def output (l : LiveSession) : Bytes :=
  match l.setup.media with
  | .output path _ => if path.isStandardStream then l.written else []
  | .input _ => []

/-- The volume with what a session has written into its file. -/
def deliver (l : LiveSession) (v : Volume) : Volume :=
  match l.setup.media, l.ensemble.file with
  | .output path _, some recorder => recorder.deliver v path
  | _, _ => v

/-- The line about the media that are kept. -/
def keptLine (r : SessionSummary) : List LogLine :=
  r.retained.toList.map fun b =>
    r.id.notice .info ("retained " ++ Text.natText b.length ++ " bytes")

/-- How the command ends, once its session has. -/
def ending? (l : LiveSession) : Option Ending :=
  l.ensemble.task.report?.map fun report =>
    let log := l.log ++ keptLine report
    match report.fatality? with
    | some e =>
      .failure l.output l.setup.filter log (.plain (report.id.text ++ ": " ++ e.message))
    | none =>
      .success l.output l.setup.filter (log ++ [report.id.notice .info "finished"])

end LiveSession

end Livecast
