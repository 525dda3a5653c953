import Livecast.Capture.Input
import Livecast.Playback.Recorder

/-!
# Outputs of a watching session

What a watching session receives goes into a file, which is emptied when the session is set up, or
to the standard output, which is meant by a single dash.

## Main Definitions

* `Recorder.create` - the recorder over an output
* `Recorder.deliver` - puts what a recorder has written into its file
-/

namespace Livecast.Recorder

/-- The recorder over the output at a path, and the volume with the file emptied. -/
def create (v : Volume) (p : Path) : Except FileError (Volume × Recorder) :=
  if p.isStandardStream then .ok (v, .ofDisk .blank)
  else (v.write p []).map fun v => (v, .ofDisk .blank)

/-- The volume with what a recorder has written in the file at a path. -/
def deliver (s : Recorder) (v : Volume) (p : Path) : Volume :=
  if p.isStandardStream then v
  else match v.write p s.disk.data with
    | .ok v => v
    | .error _ => v

end Livecast.Recorder
