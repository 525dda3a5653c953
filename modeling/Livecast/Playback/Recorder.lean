import Livecast.Mailbox
import Livecast.Session.Machine

/-!
# Playback into a file

A file only grows, so of the reassembled media just the newest segment is written.  The recorder
hands segments to a writing task; the task ends, after flushing, when the recorder has been released
or dropped, and at once when a write fails.

## Main Definitions

* `Disk` - what was written and flushed, and how much more there is room for
* `WritingTask` - the task and the segment that it is writing
* `Recorder` - the recorder, its mailbox and its task
* `Recorder.present`, `Recorder.release`, `Recorder.settle` - its operations
-/

namespace Livecast

/-! ## Where bytes go -/

/-- A place for bytes that may be full and may take only a few bytes at a time. -/
structure Disk where
  /-- The bytes that were written. -/
  data : Bytes
  /-- How often it was flushed. -/
  flushes : Nat
  /-- How many bytes there is room for in all; `none` is no limit. -/
  room : Option Nat
  /-- How many bytes one write takes at most; `none` is no limit. -/
  atOnce : Option Nat
deriving DecidableEq

namespace Disk

/-- A disk without limits. -/
def blank : Disk := ⟨[], 0, none, none⟩

/-- How many of `n` bytes one write takes. -/
def taken (d : Disk) (n : Nat) : Nat :=
  let n := match d.room with
    | none => n
    | some room => min n (room - d.data.length)
  match d.atOnce with
  | none => n
  | some limit => min n limit

/-- One write; `none` if not a single byte is taken. -/
def write? (d : Disk) (bytes : Bytes) : Option (Disk × Bytes) :=
  let n := d.taken bytes.length
  if n = 0 then none else some ({ d with data := d.data ++ bytes.take n }, bytes.drop n)

/-- Flushes the disk. -/
def flush (d : Disk) : Disk := { d with flushes := d.flushes + 1 }

end Disk

/-! ## The task that writes -/

/-- The stages of a writing task. -/
inductive WritingTask where
  /-- It waits for segments, or writes one of which these bytes are left. -/
  | writing (left : Bytes)
  /-- It has ended: everything was written and flushed, or a write failed. -/
  | ended (complete : Bool)
deriving DecidableEq

/-! ## The recorder -/

/-- A recorder that writes into a file. -/
structure Recorder where
  /-- The segments on their way to the task. -/
  queue : Mailbox Bytes
  /-- The task. -/
  task : WritingTask
  /-- Where it writes. -/
  disk : Disk
  /-- Nobody has asked for the task yet. -/
  untaken : Bool

namespace Recorder

/-- A recorder over a disk. -/
def ofDisk (disk : Disk) : Recorder := ⟨.fresh, .writing [], disk, true⟩

/-- Hands the newest segment to the task; if the task has ended the recorder gives up. -/
def present (s : Recorder) (chunk : Bytes) : Recorder :=
  if s.queue.accepts then { s with queue := s.queue.send chunk }
  else { s with queue := s.queue.dropSender }

/-- Lets the task write what is left and end. -/
def release (s : Recorder) : Recorder := { s with queue := s.queue.dropSender }

/-- One step of the task; `none` if it has ended or has nothing to do. -/
def step? (s : Recorder) : Option Recorder :=
  match s.task with
  | .ended _ => none
  | .writing (b :: left) =>
    match s.disk.write? (b :: left) with
    | some (disk, left) => some { s with disk := disk, task := .writing left }
    | none => some { s with task := .ended false, queue := s.queue.dropReceiver }
  | .writing [] =>
    match s.queue.items with
    | chunk :: rest =>
      some { s with queue := { s.queue with items := rest }, task := .writing chunk }
    | [] =>
      if s.queue.sending then none
      else some { s with task := .ended true, disk := s.disk.flush,
                         queue := s.queue.dropReceiver }

/-- A bound for the number of steps before the task waits or ends. -/
def workload (s : Recorder) : Nat :=
  let left := match s.task with
    | .writing left => left.length
    | .ended _ => 0
  s.queue.items.foldl (fun total chunk => total + chunk.length + 1) (left + 1)

/-- At most `fuel` steps of the task. -/
def stepUpTo : Nat → Recorder → Recorder
  | 0, s => s
  | fuel + 1, s =>
    match s.step? with
    | none => s
    | some next => stepUpTo fuel next

/-- Lets the task work until it waits or ends. -/
def settle (s : Recorder) : Recorder := stepUpTo s.workload s

/-- The task has ended. -/
def isEnded (s : Recorder) : Bool :=
  match s.task with
  | .ended _ => true
  | .writing _ => false

end Recorder

end Livecast
