import Livecast.Capture.Source
import Livecast.Mailbox

/-!
# A source driven by hand

This source produces what it is told to.  It counts how often it was started and stopped, so that
the handling of a source can be observed.

## Main Definitions

* `ManualSource` - the counters and the mailbox to whoever started the source last
* `ManualSource.start`, `ManualSource.stop` - as for every source; starting again replaces the
  mailbox
* `ManualSource.supply`, `ManualSource.exhaust`, `ManualSource.vanish` - what drives it
-/

namespace Livecast

/-- A source driven by hand. -/
structure ManualSource where
  /-- It refuses to start. -/
  failing : Bool
  /-- How often it was started, also without success. -/
  starts : Nat
  /-- How often it was stopped. -/
  stops : Nat
  /-- The cadence of its last successful start. -/
  cadence : Option Duration
  /-- The mailbox of its last successful start. -/
  output : Option (Mailbox SourceReport)

namespace ManualSource

/-- A source that was never started. -/
def fresh (failing : Bool) : ManualSource := ⟨failing, 0, 0, none, none⟩

/-- The source can put something on its mailbox. -/
def isRunning (s : ManualSource) : Bool := (s.output.map Mailbox.sending).getD false

/-- Something that is put on the mailbox now arrives. -/
def accepts (s : ManualSource) : Bool := (s.output.map Mailbox.accepts).getD false

/-- Why a start is refused, if it is. -/
def refusal (s : ManualSource) : Option CaptureFailure :=
  if s.failing then some (.startFailed "mock configured to fail") else none

/-- Starts the source. -/
def start (s : ManualSource) (cadence : Duration) : ManualSource :=
  match s.refusal with
  | some _ => { s with starts := s.starts + 1 }
  | none => { s with starts := s.starts + 1, cadence := some cadence, output := some .fresh }

/-- The source, once its mailbox has no sender. -/
def vanish (s : ManualSource) : ManualSource :=
  { s with output := s.output.map Mailbox.dropSender }

/-- Stops the source. -/
def stop (s : ManualSource) : ManualSource := { s.vanish with stops := s.stops + 1 }

/-- Puts a report on the mailbox. -/
def emit (s : ManualSource) (event : SourceReport) : ManualSource :=
  { s with output := s.output.map (Mailbox.send · event) }

/-- Produces one segment. -/
def supply (s : ManualSource) (data : Bytes) : ManualSource := s.emit (.segment data)

/-- Signals that the device has ended. -/
def exhaust (s : ManualSource) : ManualSource := s.emit .ended

end ManualSource

end Livecast
