import Livecast.Capture.Source
import Livecast.Mailbox
import Livecast.Timer

/-!
# A source that reads a byte stream

A file or a pipe is cut into segments by the clock: whatever was read since the last tick becomes
one segment.  Where a segment ends means nothing, only the concatenation does.  At the end of the
input, or when it cannot be read, what is left becomes a last segment, and the source reports that
it has ended.

## Main Definitions

* `Pipe` - a byte stream that is still being written
* `Producer` - what was read since the last segment
* `Producer.read`, `Producer.tick`, `Producer.finish` - the steps of a producer
* `ReaderSource` - the source with its input, its producer and its mailbox

## Main Statements

* `read_then_tick` - a tick emits exactly what was read before it
-/

namespace Livecast

/-! ## Byte streams -/

/-- What arrives on a byte stream. -/
inductive Arrival where
  /-- Some bytes. -/
  | data (bytes : Bytes)
  /-- Reading fails. -/
  | failure
deriving DecidableEq

/-- A byte stream between a writer and a reader. -/
structure Pipe where
  /-- What was written and not yet read. -/
  unread : List Arrival
  /-- The writer has not ended the stream. -/
  writing : Bool
  /-- The reader has not gone. -/
  reading : Bool
deriving DecidableEq

namespace Pipe

/-- A stream on which nothing was written. -/
def fresh : Pipe := ⟨[], true, true⟩

/-- A stream that holds some bytes and ends behind them. -/
def ofBytes (bytes : Bytes) : Pipe := ⟨[.data bytes], false, true⟩

/-- What is written now can still be read. -/
def accepts (p : Pipe) : Bool := p.writing && p.reading

/-- Writes on the stream. -/
def write (p : Pipe) (arrival : Arrival) : Pipe :=
  if p.accepts then { p with unread := p.unread ++ [arrival] } else p

/-- Ends the stream. -/
def finish (p : Pipe) : Pipe := { p with writing := false }

/-- The reader goes. -/
def dropReader (p : Pipe) : Pipe := { p with reading := false, unread := [] }

end Pipe

/-! ## Producers -/

/-- What was read since the last segment. -/
structure Producer where
  /-- The bytes that no segment holds yet. -/
  pending : Bytes
deriving DecidableEq

namespace Producer

/-- Nothing has been read. -/
def fresh : Producer := ⟨[]⟩

/-- Takes in some bytes. -/
def read (p : Producer) (bytes : Bytes) : Producer := ⟨p.pending ++ bytes⟩

/-- A tick makes one segment of what was read, if anything was. -/
def tick (p : Producer) : Producer × List SourceReport :=
  if p.pending.isEmpty then (p, []) else (fresh, [.segment p.pending])

/-- At the end of the input what was read becomes a segment, and the source has ended. -/
def finish (p : Producer) : List SourceReport := p.tick.2 ++ [.ended]

/-- A tick emits exactly what was read since the tick before. -/
theorem read_then_tick (bytes : Bytes) (h : bytes ≠ []) :
    (fresh.read bytes).tick = (fresh, [.segment bytes]) := by
  simp [read, fresh, tick, h]

end Producer

/-! ## The source -/

/-- A source that reads a byte stream. -/
structure ReaderSource where
  /-- The name by which users know the input. -/
  label : String
  /-- The most bytes that one read takes; at least one. -/
  chunk : Nat
  /-- The input has not been handed to a producer. -/
  idle : Bool
  /-- The input. -/
  pipe : Pipe
  /-- The producer and its timer, while it runs. -/
  producing : Option (Producer × Timer)
  /-- The mailbox of the producer. -/
  output : Option (Mailbox SourceReport)

namespace ReaderSource

/-- A source over an input. -/
def ofPipe (label : String) (chunk : Nat) (pipe : Pipe) : ReaderSource :=
  ⟨label, max chunk 1, true, pipe, none, none⟩

/-- Why a start is refused, if it is. -/
def refusal (s : ReaderSource) : Option CaptureFailure :=
  if s.idle then none else some (.alreadyStarted s.label)

/-- Hands the input to a producer. -/
def start (s : ReaderSource) (cadence : Duration) (now : Nat) : ReaderSource :=
  if s.idle then
    { s with idle := false, producing := some (.fresh, .start cadence now),
             output := some .fresh }
  else s

/-- The producer is gone, and with it the reader of the input and the sender of the mailbox. -/
def halt (s : ReaderSource) : ReaderSource :=
  { s with producing := none, pipe := s.pipe.dropReader,
           output := s.output.map Mailbox.dropSender }

/-- Stops the source and releases its input. -/
def stop (s : ReaderSource) : ReaderSource := { s.halt with idle := false }

/-- Puts reports on the mailbox. -/
def emit (s : ReaderSource) (events : List SourceReport) : ReaderSource :=
  { s with output := s.output.map (Mailbox.sendAll · events) }

/-- The producer has read everything there is, or cannot read on. -/
def complete (s : ReaderSource) (p : Producer) : ReaderSource := (s.emit p.finish).halt

/-- One read, of at most `chunk` bytes; `none` if there is nothing to read yet. -/
def readOnce? (s : ReaderSource) : Option ReaderSource :=
  match s.producing with
  | none => none
  | some (p, timer) =>
    match s.pipe.unread with
    | .data bytes :: rest =>
      let pipe := { s.pipe with
        unread := if bytes.length ≤ s.chunk then rest
                  else .data (bytes.drop s.chunk) :: rest }
      some { s with pipe := pipe, producing := some (p.read (bytes.take s.chunk), timer) }
    | .failure :: _ => some (s.complete p)
    | [] => if s.pipe.writing then none else some (s.complete p)

/-- How much there is to read: a bound for the number of reads. -/
def workload (s : ReaderSource) : Nat :=
  s.pipe.unread.foldl (fun total arrival => total + match arrival with
    | .data bytes => bytes.length + 1
    | .failure => 1) 1

/-- At most `fuel` reads, one after the other. -/
def readUpTo : Nat → ReaderSource → ReaderSource
  | 0, s => s
  | fuel + 1, s =>
    match s.readOnce? with
    | none => s
    | some next => readUpTo fuel next

/-- Reads whatever there is to read. -/
def settle (s : ReaderSource) : ReaderSource := readUpTo s.workload s

/-- The time at which the producer cuts its next segment. -/
def due? (s : ReaderSource) : Option Nat := s.producing.map fun (_, timer) => timer.due

/-- The clock reaches the time of a cut; a producer that nobody listens to gives up when it has a
segment. -/
def cut (s : ReaderSource) : ReaderSource :=
  match s.producing with
  | none => s
  | some (p, timer) =>
    let (rest, events) := p.tick
    let heard := events.isEmpty || (s.output.map Mailbox.accepts).getD false
    let s := s.emit events
    if heard then { s with producing := some (rest, timer.next) } else s.halt

/-- The clock moves to `limit` while the source works; at most `fuel` cuts are made. -/
def advanceUpTo : Nat → Nat → ReaderSource → ReaderSource
  | 0, _, s => s
  | fuel + 1, limit, s =>
    match s.due? with
    | none => s
    | some due => if due ≤ limit then advanceUpTo fuel limit s.cut.settle else s

/-- The source once the clock has moved from `now` to `limit`. -/
def advance (s : ReaderSource) (now limit : Nat) : ReaderSource :=
  advanceUpTo ((limit - now) / Timer.minPeriod.nanos + 1) limit s

end ReaderSource

end Livecast
