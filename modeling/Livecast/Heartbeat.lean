import Livecast.Timer

/-!
# The heartbeat of an open session

A heartbeat is a task that posts a tick every period.  It sends nothing itself: the session decides
what a tick means.  The task ends when the heartbeat is stopped, and by itself when nobody takes its
ticks any more.

## Main Definitions

* `Heartbeat` - whether it was stopped, and the timer of its task
* `Heartbeat.silent`, `Heartbeat.start`, `Heartbeat.stop` - begin to tick, and end it
* `Heartbeat.tick`, `Heartbeat.elapse` - one tick, and all ticks up to a time

## Design Notes

A tick that is already under way when the heartbeat is stopped is still posted.  This is the run in
which the stop comes after the tick, so that here stopping can end the task at once.
-/

namespace Livecast

/-- The heartbeat of a session. -/
structure Heartbeat where
  /-- It has not been stopped. -/
  running : Bool
  /-- The timer of its task, while the task lives. -/
  timer : Option Timer
deriving DecidableEq

namespace Heartbeat

/-- A heartbeat that does not tick. -/
def silent : Heartbeat := ⟨false, none⟩

/-- Begins to tick, the first time one period after `now`. -/
def start (period : Duration) (now : Nat) : Heartbeat := ⟨true, some (.start period now)⟩

/-- Ends the ticking; a second time it does nothing. -/
def stop (_ : Heartbeat) : Heartbeat := silent

/-- The time of the next tick, while the task lives. -/
def due? (b : Heartbeat) : Option Nat := b.timer.map Timer.due

/-- The timer fires; a task whose tick is not `heard` ends. -/
def tick (b : Heartbeat) (heard : Bool) : Heartbeat :=
  { b with timer := if heard then b.timer.map Timer.next else none }

/-- The heartbeat at the time `limit`, and how many ticks were heard on the way; at most `fuel`. -/
def elapseUpTo : Nat → Nat → Bool → Heartbeat → Heartbeat × Nat
  | 0, _, _, b => (b, 0)
  | fuel + 1, limit, heard, b =>
    match b.timer with
    | none => (b, 0)
    | some timer =>
      if timer.isDue limit then
        let (last, count) := elapseUpTo fuel limit heard (b.tick heard)
        (last, if heard then count + 1 else count)
      else (b, 0)

/-- The heartbeat once the clock has moved from `now` to `limit`, and how many ticks were heard. -/
def elapse (b : Heartbeat) (now limit : Nat) (heard : Bool) : Heartbeat × Nat :=
  elapseUpTo ((limit - now) / Timer.minPeriod.nanos + 1) limit heard b

end Heartbeat

end Livecast
