import Livecast.Capture.Source
import Livecast.Session.Event

/-!
# From a source to its session

The tap owns a started source.  A task of its own, the forwarder, takes what the source reports
and posts it to the session: segments that are not empty, and once that the device has ended.  A
source that goes away without a word has ended too.

## Main Definitions

* `SourceTap` - a started source and whether it is still forwarded
* `SourceTap.start`, `SourceTap.stop` - with the calls that they make to the source
* `forward` - what the forwarder does with one thing that it receives
-/

namespace Livecast

/-- A source that was started for a session. -/
structure SourceTap where
  /-- The source is still forwarded; it has not been stopped. -/
  running : Bool
deriving DecidableEq

namespace SourceTap

/-- Starts a source, which answers with `refusal` if it refuses.  A source that refuses is stopped
before the refusal is passed on. -/
def start (cadence : Duration) (refusal : Option CaptureFailure) :
    Except CaptureFailure SourceTap × List SourceCall :=
  match refusal with
  | none => (.ok ⟨true⟩, [.start cadence])
  | some e => (.error e, [.start cadence, .stop])

/-- Stops forwarding and releases the source; only the first time. -/
def stop (a : SourceTap) : SourceTap × List SourceCall :=
  if a.running then (⟨false⟩, [.stop]) else (a, [])

end SourceTap

/-- What the forwarder posts for one thing that it receives, and whether it goes on.  It receives
`none` when its mailbox is finished. -/
def forward {L : Type} : Option SourceReport → Option (Event L) × Bool
  | some (.segment []) => (none, true)
  | some (.segment data) => (some (.segment data), true)
  | some .ended => (some .deviceEnded, false)
  | none => (some .deviceEnded, false)

end Livecast
