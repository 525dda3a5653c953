import Livecast.Text.Decimal

/-!
# Durations

Periods and playback positions are whole numbers of nanoseconds.

## Main Definitions

* `Duration` - a length of time
* `Duration.ofSeconds`, `Duration.ofMillis`, `Duration.ofParts` - durations in coarser units
* `Duration.atLeast` - the longer of two durations
* `Duration.text` - a duration in the largest unit of which it holds at least one
-/

namespace Livecast

open Livecast.Text

/-- A length of time in nanoseconds. -/
structure Duration where
  /-- How many nanoseconds there are. -/
  nanos : Nat
deriving DecidableEq, Repr

namespace Duration

/-- No time at all. -/
def zero : Duration := ⟨0⟩

/-- A whole number of seconds. -/
def ofSeconds (n : Nat) : Duration := ⟨n * 1000000000⟩

/-- A whole number of milliseconds. -/
def ofMillis (n : Nat) : Duration := ⟨n * 1000000⟩

/-- Seconds and nanoseconds; a second's worth of nanoseconds carries over. -/
def ofParts (seconds nanos : Nat) : Duration := ⟨seconds * 1000000000 + nanos⟩

/-- The whole seconds of a duration. -/
def seconds (d : Duration) : Nat := d.nanos / 1000000000

/-- The nanoseconds beyond the whole seconds. -/
def subsecondNanos (d : Duration) : Nat := d.nanos % 1000000000

/-- The whole milliseconds of a duration. -/
def millis (d : Duration) : Nat := d.nanos / 1000000

/-- No time at all has passed. -/
def isZero (d : Duration) : Bool := d.nanos == 0

/-- The duration, raised to a least one. -/
def atLeast (d least : Duration) : Duration := ⟨max d.nanos least.nanos⟩

/-- A number with a fraction of `places` decimal places, without the zeros at the fraction's end. -/
def fractionText (whole fraction places : Nat) : String :=
  let shown := ((padded places fraction).reverse.dropWhile (· = '0')).reverse
  if shown.isEmpty then natText whole
  else natText whole ++ "." ++ String.ofList shown

/-- The duration in the largest of seconds, milliseconds, microseconds and nanoseconds of which it
holds at least one. -/
def text (d : Duration) : String :=
  if d.nanos ≥ 1000000000 then fractionText (d.nanos / 1000000000) (d.nanos % 1000000000) 9 ++ "s"
  else if d.nanos ≥ 1000000 then fractionText (d.nanos / 1000000) (d.nanos % 1000000) 6 ++ "ms"
  else if d.nanos ≥ 1000 then fractionText (d.nanos / 1000) (d.nanos % 1000) 3 ++ "µs"
  else natText d.nanos ++ "ns"

end Duration

end Livecast
