import Livecast.Duration

/-!
# Periodic timers

A timer fires once a period, the first time one full period after it was started.  Shorter periods
than a millisecond are raised to one.

## Main Definitions

* `Timer` - a period and the time at which the timer fires next
* `Timer.start`, `Timer.next` - a timer started at a time, and after it has fired

## Main Statements

* `due_iterate_next` - the `k`-th firing is `k` periods after the start
-/

namespace Livecast

/-- A running timer.  Times are nanoseconds of a clock that only moves forward. -/
structure Timer where
  /-- The time between two firings. -/
  period : Duration
  /-- The time of the next firing. -/
  due : Nat
deriving DecidableEq

namespace Timer

/-- The shortest period of a timer. -/
def minPeriod : Duration := .ofMillis 1

/-- A timer that is started at the time `now`. -/
def start (period : Duration) (now : Nat) : Timer :=
  let period := period.atLeast minPeriod
  ⟨period, now + period.nanos⟩

/-- The timer after it has fired. -/
def next (t : Timer) : Timer := { t with due := t.due + t.period.nanos }

/-- The timer fires at or before the time `limit`. -/
def isDue (t : Timer) (limit : Nat) : Bool := t.due ≤ limit

theorem minPeriod_le_start (period : Duration) (now : Nat) :
    minPeriod.nanos ≤ (start period now).period.nanos :=
  Nat.le_max_right period.nanos minPeriod.nanos

/-- After `k` firings the next one is due `k + 1` periods after the start. -/
theorem due_iterate_next (period : Duration) (now k : Nat) :
    (Nat.repeat next k (start period now)).due
      = now + (k + 1) * max period.nanos minPeriod.nanos := by
  have hp : ∀ k, (Nat.repeat next k (start period now)).period.nanos
      = max period.nanos minPeriod.nanos := by
    intro k
    induction k with
    | zero => rfl
    | succ k ih => simpa [Nat.repeat, next] using ih
  induction k with
  | zero => simp [Nat.repeat, start, Duration.atLeast]
  | succ k ih =>
    simp only [Nat.repeat, next, ih, hp]
    rw [Nat.add_mul (k + 1) 1]
    omega

end Timer

end Livecast
