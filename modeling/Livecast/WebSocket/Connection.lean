import Livecast.Mailbox
import Livecast.Session.Event
import Livecast.WebSocket.Frames

/-!
# Connections

A connection is worked by two tasks.  The link hands frames to the writing task, which puts them on
the stream in the order in which they were handed over; the reading task turns what arrives into
events of the session.  Closing the link asks the writing task to close the stream behind everything
that was handed over before, and ends the reading task at once.

## Main Definitions

* `Dispatch` - what is handed to the writing task, and its bytes
* `Inbound` - what the stream gives to the reading task, and the event that it is
* `Connection` - the link, its two tasks and the stream between them and the server
* `Connection.send`, `Connection.close`, `Connection.drop` - what the session does
* `Connection.write?` - a step of the writing task, `Connection.read?` - a step of the reading task

## Design Notes

Whether a write succeeds is an input of the writing task's step, so that a statement over all inputs
is a statement over all behaviours of the network.  The stream remembers what was put on it.

A reading task that is at work when the link is closed gets as far as its next wait.  What it still
posts until then is what it posts in the run in which the link is closed after these steps.
-/

namespace Livecast

/-- What is handed to the writing task. -/
inductive Dispatch where
  /-- A frame to send. -/
  | frame (f : Frame)
  /-- The wish to close the stream. -/
  | close
deriving DecidableEq

/-- The bytes that are put on the stream, under a mask; `code` is the one with which it is
closed. -/
def Dispatch.bytes (mask : Bytes) (code : Option Nat) : Dispatch → Bytes
  | .frame (.text s) => WireFrame.bytes 1 (some mask) (.ofText s)
  | .frame (.binary b) => WireFrame.bytes 2 (some mask) b
  | .close =>
    WireFrame.bytes 8 (some mask)
      ((code.map fun n => [UInt8.ofNat (n / 256), UInt8.ofNat n]).getD [])

/-- What the stream gives to the reading task. -/
inductive Inbound where
  /-- A message. -/
  | message (m : Received)
  /-- The news that nothing more can be received, and why. -/
  | failed (reason : String)
  /-- The news that the stream has ended in good order. -/
  | over
deriving DecidableEq

/-- The event that the reading task posts about it, if any. -/
def Inbound.event? {L : Type} : Inbound → Option (Event L)
  | .message (.text s) => some (.message (.text s))
  | .message (.binary b) => some (.message (.binary b))
  | .message (.close _) => some .closed
  | .message (.ping _) | .message (.pong _) => none
  | .failed reason => some (.errored reason)
  | .over => some .closed

/-- A link, its tasks and its stream. -/
structure Connection where
  /-- What has been handed over and not yet taken; its receiver is the writing task. -/
  outbound : Mailbox Dispatch
  /-- The link has not been closed. -/
  held : Bool
  /-- The reading task runs. -/
  reading : Bool
  /-- What was put on the stream, in order. -/
  written : List Dispatch
  /-- What has arrived and was not yet read. -/
  unread : Bytes
  /-- Nothing more will arrive. -/
  ended : Bool
  /-- The message that is being received. -/
  assembly : Assembly
  /-- The server has said that it ends the stream, perhaps with a code. -/
  farewell : Option (Option Nat)
  /-- The questions of the server whether anyone is there, which are answered at once. -/
  pings : List Bytes

namespace Connection

/-- A connection on which nothing has happened. -/
def fresh : Connection := ⟨.fresh, true, true, [], [], false, none, none, []⟩

/-- Why the link refuses a frame, if it does: nobody writes any more. -/
def refusal (c : Connection) : Option SessionFailure :=
  if c.outbound.accepts then none else some (.transport "WebSocket writer has stopped")

/-- Hands a frame over. -/
def send (c : Connection) (f : Frame) : Connection :=
  { c with outbound := c.outbound.send (.frame f) }

/-- Closes the link; a second time does nothing. -/
def close (c : Connection) : Connection :=
  if c.held then
    { c with outbound := c.outbound.send .close, held := false, reading := false }
  else c

/-- Gives the link up, which closes it. -/
def drop (c : Connection) : Connection :=
  { c.close with outbound := c.close.outbound.dropSender }

/-- The writing task runs. -/
def isWriting (c : Connection) : Bool := c.outbound.receiving

/-- One step of the writing task: it takes what was handed over first and puts it on the stream,
unless the stream refuses it.  It ends after closing, after a refusal, which it reports, and when
the link is gone; `none` if it has ended or waits. -/
def write? {L : Type} (c : Connection) (refused : Option String) :
    Option (Connection × List (Event L)) :=
  if !c.isWriting then none
  else match c.outbound.items with
    | [] =>
      if c.outbound.sending then none
      else some ({ c with outbound := c.outbound.dropReceiver }, [])
    | .close :: rest =>
      let outbound := { c.outbound with items := rest }
      some ({ c with outbound := outbound.dropReceiver, written := c.written ++ [.close] }, [])
    | .frame f :: rest =>
      let outbound := { c.outbound with items := rest }
      match refused with
      | none => some ({ c with outbound := outbound, written := c.written ++ [.frame f] }, [])
      | some reason => some ({ c with outbound := outbound.dropReceiver }, [.errored reason])

/-- What the reading task does about what the stream gives.  It ends with the stream, be it said or
not, and when nothing more can be received. -/
def take {L : Type} (c : Connection) (item : Inbound) : Connection × List (Event L) :=
  let next := match item with
    | .message (.close code) => { c with reading := false, farewell := some code }
    | .message (.ping data) => { c with pings := c.pings ++ [data] }
    | .message _ => c
    | .failed _ | .over => { c with reading := false }
  (next, item.event?.toList)

/-- What the stream gives next, if anything, and the connection behind it; `none` if nothing can be
told from what has arrived. -/
def next? (c : Connection) : Option (Option Inbound × Connection) :=
  match c.assembly.receive c.unread with
  | .message m assembly rest =>
    some (some (.message m), { c with assembly := assembly, unread := rest })
  | .failed e => some (some (.failed e.message), c)
  | .waiting assembly rest =>
    if c.ended then some (some (.failed ReceiveError.reset.message), c)
    else if rest.length < c.unread.length then
      some (none, { c with assembly := assembly, unread := rest })
    else none

/-- One step of the reading task: it takes what the stream gives next and reports what it means;
`none` if it has ended or waits. -/
def read? {L : Type} (c : Connection) : Option (Connection × List (Event L)) :=
  if c.reading then
    c.next?.map fun (item?, c) =>
      match item? with
      | some item => c.take item
      | none => (c, [])
  else none

/-- Something arrives on the stream. -/
def arrive (c : Connection) (b : Bytes) : Connection := { c with unread := c.unread ++ b }

/-- The stream ends. -/
def finish (c : Connection) : Connection := { c with ended := true }

/-- Whether a code may end a stream. -/
def isFarewellCode (code : Nat) : Bool :=
  (1000 ≤ code && code ≤ 1013 && code ∉ [1004, 1005, 1006]) || (3000 ≤ code && code < 5000)

/-- The code with which the closing of the stream reaches the server: the one that the server gave,
if it was the first to close. -/
def closingCode (c : Connection) : Option Nat :=
  c.farewell.join.map fun code => if isFarewellCode code then code else 1002

/-- Why the stream refuses a frame: it is being closed. -/
def streamRefusal (c : Connection) : Option String :=
  c.farewell.map fun _ => "WebSocket protocol error: Sending after closing is not allowed"

/-- At most `fuel` steps of both tasks, the reading one first. -/
def settleUpTo {L : Type} : Nat → Connection → Connection × List (Event L)
  | 0, c => (c, [])
  | fuel + 1, c =>
    match c.read?.orElse fun _ => c.write? c.streamRefusal with
    | none => (c, [])
    | some (next, events) =>
      let (last, more) := settleUpTo fuel next
      (last, events ++ more)

/-- Both tasks work until they wait or have ended. -/
def settle {L : Type} (c : Connection) : Connection × List (Event L) :=
  settleUpTo (c.unread.length + c.outbound.items.length + 4) c

end Connection

end Livecast
