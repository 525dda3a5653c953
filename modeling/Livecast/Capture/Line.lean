import Livecast.Capture.Tap
import Livecast.Capture.Manual
import Livecast.Capture.Reader

/-!
# Sources and their forwarder

A capture line is a source together with the forwarder that takes its reports.  Starting the source
starts the forwarder, and stopping it ends the forwarder at once.

## Main Definitions

* `Source` - the kinds of sources
* `CaptureLine` - a source and whether its forwarder runs
* `CaptureLine.perform`, `CaptureLine.forward?` - what is asked of the source, and one report
* `Capture` - a line with its tap and the queue into which it posts

## Design Notes

A task can only be asked to end, and one that is at work when it is asked gets as far as its next
wait.  Here stopping ends the forwarder and the producer at once.  What they still post until they
wait is what they post in the run that differs only in a later stop, with these steps in front of
it; so a statement about every run covers it.  When it is the session that asks, what they still
post stands in the queue behind the event that closed it, where it is ignored.
-/

namespace Livecast

/-- The source of a session. -/
inductive Source where
  /-- A source driven by hand. -/
  | manual (s : ManualSource)
  /-- A source that reads a byte stream. -/
  | reader (s : ReaderSource)

namespace Source

/-- Why a start is refused, if it is. -/
def refusal : Source → Option CaptureFailure
  | manual s => s.refusal
  | reader s => s.refusal

/-- Does what is asked of the source at the time `now`. -/
def perform (now : Nat) : SourceCall → Source → Source
  | .start cadence, manual s => manual (s.start cadence)
  | .start cadence, reader s => reader (s.start cadence now)
  | .stop, manual s => manual s.stop
  | .stop, reader s => reader s.stop

/-- The mailbox to the forwarder. -/
def output : Source → Option (Mailbox SourceReport)
  | manual s => s.output
  | reader s => s.output

/-- The source with another state of its mailbox. -/
def withOutput (output : Option (Mailbox SourceReport)) : Source → Source
  | manual s => manual { s with output := output }
  | reader s => reader { s with output := output }

/-- The forwarder no longer listens. -/
def dropReceiver (s : Source) : Source := s.withOutput (s.output.map Mailbox.dropReceiver)

/-- Why the forwarder can take something: a report, or the mailbox's end. -/
def report? (s : Source) : Option (Option SourceReport × Source) :=
  match s.output with
  | none => none
  | some c =>
    match c.items with
    | event :: rest => some (some event, s.withOutput (some { c with items := rest }))
    | [] => if c.sending then none else some (none, s)

end Source

/-! ## Lines -/

/-- A source and its forwarder. -/
structure CaptureLine where
  /-- The source. -/
  source : Source
  /-- The forwarder runs. -/
  forwarding : Bool

namespace CaptureLine

/-- Does what is asked of the source at the time `now`. -/
def perform (l : CaptureLine) (now : Nat) : SourceCall → CaptureLine
  | .start cadence => ⟨l.source.perform now (.start cadence), l.source.refusal.isNone⟩
  | .stop => ⟨(l.source.perform now .stop).dropReceiver, false⟩

/-- The forwarder takes one report and posts what it says into a queue.  It ends with the device,
and when nobody takes what it posts; `none` if it does not run or has to wait. -/
def forward? {L : Type} (l : CaptureLine) (queue : Mailbox (Event L)) :
    Option (CaptureLine × Mailbox (Event L)) :=
  if l.forwarding then
    l.source.report?.map fun (report, source) =>
      let (event, goesOn) := forward report
      let heard := event.isNone || queue.accepts
      (if goesOn && heard then ⟨source, true⟩ else ⟨source.dropReceiver, false⟩,
        queue.sendAll event.toList)
  else none

/-- The producer of the source reads once; `none` if it has to wait. -/
def readOnce? (l : CaptureLine) : Option CaptureLine :=
  match l.source with
  | .reader s => s.readOnce?.map fun s => { l with source := .reader s }
  | .manual _ => none

/-- The time at which the producer of the source cuts its next segment. -/
def due? (l : CaptureLine) : Option Nat :=
  match l.source with
  | .reader s => s.due?
  | .manual _ => none

/-- The producer cuts a segment if it is due at the time `now`. -/
def fire (l : CaptureLine) (now : Nat) : CaptureLine :=
  match l.source, l.due? with
  | .reader s, some due => if due ≤ now then { l with source := .reader s.cut } else l
  | _, _ => l

/-- A bound for the number of reports that are under way or can still be read. -/
def workload (l : CaptureLine) : Nat :=
  match l.source with
  | .manual s => (s.output.map fun c => c.items.length).getD 0 + 1
  | .reader s => (s.output.map fun c => c.items.length).getD 0 + 2 * s.workload + 3

/-- Something is done to a source that is driven by hand, which tells whether it was running. -/
def steer (l : CaptureLine) (act : ManualSource → ManualSource) (runs : ManualSource → Bool) :
    CaptureLine × Bool :=
  match l.source with
  | .manual s => ({ l with source := .manual (act s) }, runs s)
  | .reader _ => (l, false)

/-- Something is done to the byte stream of a source, which tells whether it mattered. -/
def feed (l : CaptureLine) (act : Pipe → Pipe) (matters : Pipe → Bool) : CaptureLine × Bool :=
  match l.source with
  | .reader s => ({ l with source := .reader { s with pipe := act s.pipe } }, matters s.pipe)
  | .manual _ => (l, false)

end CaptureLine

/-! ## Captures -/

/-- A line with its tap and the queue into which it posts. -/
structure Capture (L : Type) where
  /-- The source and its forwarder. -/
  line : CaptureLine
  /-- The tap, until it is dropped. -/
  tap : Option SourceTap
  /-- The queue of the session. -/
  queue : Mailbox (Event L)

namespace Capture

variable {L : Type}

/-- Starts a source for a session, at the time zero.  If it refuses, it comes back stopped. -/
def start (source : Source) (cadence : Duration) : Except (CaptureFailure × Source) (Capture L) :=
  let (answer, calls) := SourceTap.start cadence source.refusal
  let line := calls.foldl (fun l call => l.perform 0 call) ⟨source, false⟩
  match answer with
  | .ok tap => .ok ⟨line, some tap, .fresh⟩
  | .error e => .error (e, line.source)

/-- Stops the tap. -/
def stop (c : Capture L) : Capture L :=
  match c.tap with
  | none => c
  | some tap =>
    let (stopped, calls) := tap.stop
    { c with tap := some stopped, line := calls.foldl (fun l call => l.perform 0 call) c.line }

/-- Drops the tap, which stops it. -/
def drop (c : Capture L) : Capture L := { c.stop with tap := none }

/-- At most `fuel` reports are forwarded. -/
def forwardUpTo : Nat → Capture L → Capture L
  | 0, c => c
  | fuel + 1, c =>
    match c.line.forward? c.queue with
    | none => c
    | some (line, queue) => forwardUpTo fuel { c with line := line, queue := queue }

/-- The forwarder works until it waits or ends. -/
def settle (c : Capture L) : Capture L := forwardUpTo c.line.workload c

end Capture

end Livecast
