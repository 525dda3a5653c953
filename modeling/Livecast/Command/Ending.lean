import Livecast.Bytes
import Livecast.Log

/-!
# How a command ends

A command ends with an exit status, with what it wrote to the standard output and with lines on the
standard error: the log lines that are shown, and if it failed, the failure and its causes.

## Main Definitions

* `Failure` - what went wrong, with its causes
* `Failure.lines` - a failure as it is shown
* `Ending` - exit status, output and lines
-/

namespace Livecast

open Livecast.Text

/-- What went wrong in a command. -/
structure Failure where
  /-- What it says. -/
  message : String
  /-- The causes, from the nearest to the deepest. -/
  causes : List String
deriving DecidableEq

namespace Failure

/-- A failure without a known cause. -/
def plain (message : String) : Failure := ⟨message, []⟩

/-- A failure of messages of which each is the cause of the one before. -/
def ofMessages (messages : List String) : Failure := ⟨messages.headD "", messages.tail⟩

/-- The failure as the cause of another one. -/
def within (f : Failure) (message : String) : Failure := ⟨message, f.message :: f.causes⟩

/-- A text with some blanks before each of its lines but the first, and a beginning before that. -/
def indented (start : String) (blanks : Nat) (s : String) : List String :=
  match (pieces (· = '\n') s.toList).map String.ofList with
  | [] => [start]
  | first :: rest => (start ++ first) :: rest.map fun line => "".pushn ' ' blanks ++ line

/-- A cause with its number among several. -/
def numbered (n : Nat) (cause : String) : List String :=
  let number := natText n
  indented ("".pushn ' ' (5 - number.length) ++ number ++ ": ") 7 cause

/-- The lines of the causes: indented, and numbered if there are several. -/
def causeLines : List String → List String
  | [] => []
  | [cause] => ["", "Caused by:"] ++ indented "    " 4 cause
  | causes => ["", "Caused by:"] ++ (causes.zipIdx.flatMap fun (cause, n) => numbered n cause)

/-- The failure as it is shown. -/
def lines (f : Failure) : List String :=
  indented "Error: " 0 f.message ++ causeLines f.causes

end Failure

/-- How a command ends. -/
structure Ending where
  /-- The exit status. -/
  exit : Nat
  /-- What it wrote to the standard output. -/
  output : Bytes
  /-- What it wrote to the standard error. -/
  lines : List String
deriving DecidableEq

namespace Ending

/-- The lines of a log that a filter shows. -/
def logLines (filter : LogFilter) (log : List LogLine) : List String :=
  (filter.shown log).flatMap fun l => Failure.indented "" 0 l.text

/-- The end of a command that did what it was asked for. -/
def success (output : Bytes) (filter : LogFilter) (log : List LogLine) : Ending :=
  ⟨0, output, logLines filter log⟩

/-- The end of a command that failed. -/
def failure (output : Bytes) (filter : LogFilter) (log : List LogLine) (f : Failure) : Ending :=
  ⟨1, output, logLines filter log ++ f.lines⟩

end Ending

end Livecast
