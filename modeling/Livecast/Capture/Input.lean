import Livecast.Capture.Reader
import Livecast.Files.Volume

/-!
# Media inputs

The input of a publishing session is a file or the standard input, which is meant by a single dash
or by no path at all.  A folder can be opened but not read.

## Main Definitions

* `Path.isStandardStream` - whether a path means a standard stream
* `mediaInput` - the path of the input that was asked for
* `ReaderSource.openPath` - the source over an input
-/

namespace Livecast

/-- Whether a path means a standard stream and no file: its only step is a dash. -/
def Path.isStandardStream (p : Path) : Bool :=
  p.front.isEmpty && p.body.filter Path.isStep = [['-']]

/-- The path of the input that was asked for; without one the standard input is meant. -/
def mediaInput (given : Option Path) : Path := given.getD ⟨"-"⟩

/-- The stream of what a place holds. -/
def Pipe.ofContent : Content → Pipe
  | .file bytes => .ofBytes bytes
  | .folder => { Pipe.fresh with unread := [.failure] }

/-- The source over the input at a path; on the standard input nothing has arrived yet. -/
def ReaderSource.openPath (v : Volume) (p : Path) (chunk : Nat) :
    Except CaptureFailure ReaderSource :=
  if p.isStandardStream then .ok (.ofPipe "stdin" chunk .fresh)
  else match v.find p with
    | .ok content => .ok (.ofPipe p.text chunk (.ofContent content))
    | .error e => .error (.cannotOpen p.text e.message)

end Livecast
