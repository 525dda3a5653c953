import Livecast.Bytes
import Livecast.Duration

/-!
# Media sources

A media source produces encoded segments at a fixed cadence.  It is acquired before a session exists
and starts to produce when the session opens.

## Main Definitions

* `CaptureFailure` - why a source does not produce
* `SourceReport` - what a producing source reports
* `SourceCall` - what is asked of a source
-/

namespace Livecast

/-- Why a source does not produce. -/
inductive CaptureFailure where
  /-- The device cannot be acquired; `reason` is the system's own text. -/
  | cannotOpen (device reason : String)
  /-- The source produces already, or has been stopped. -/
  | alreadyStarted (label : String)
  /-- The device refuses to start. -/
  | startFailed (reason : String)
deriving DecidableEq

/-- The text that tells a user why a source does not produce. -/
def CaptureFailure.message : CaptureFailure → String
  | .cannotOpen device reason => "failed to open capture device '" ++ device ++ "': " ++ reason
  | .alreadyStarted label => "capture source '" ++ label ++ "' cannot be started again"
  | .startFailed reason => "capture source failed to start: " ++ reason

/-- The cause of an error, if the system gives one. -/
def CaptureFailure.cause? : CaptureFailure → Option String
  | .cannotOpen _ reason => some reason
  | _ => none

/-- What a producing source reports. -/
inductive SourceReport where
  /-- An encoded segment, which may be empty. -/
  | segment (data : Bytes)
  /-- The device is no longer available. -/
  | ended
deriving DecidableEq

/-- What is asked of a source. -/
inductive SourceCall where
  /-- Begin to produce one segment a period. -/
  | start (cadence : Duration)
  /-- Stop producing and release the device. -/
  | stop
deriving DecidableEq

end Livecast
