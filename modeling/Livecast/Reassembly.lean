import Livecast.Bytes

/-!
# Reassembly of received segments

Segments arrive without sequence numbers.  A player needs everything received so far, in the order
of arrival, so the reassembly keeps one buffer and extends it with every segment.

## Main Definitions

* `Reassembly` - the buffer and the number of segments in it
* `Reassembly.append`, `Reassembly.release` - take in one segment, give the buffer up

## Main Statements

* `buffer_foldl_append`, `count_foldl_append` - after any segments the buffer is their
  concatenation, and their number is counted
-/

namespace Livecast

/-- The segments received so far. -/
structure Reassembly where
  /-- The segments put together, in the order of arrival. -/
  buffer : Bytes
  /-- How many segments there were since the start or the last release. -/
  count : Nat
deriving DecidableEq

namespace Reassembly

/-- Nothing has been received. -/
def empty : Reassembly := ⟨[], 0⟩

/-- Takes in one segment, which may be empty. -/
def append (s : Reassembly) (chunk : Bytes) : Reassembly := ⟨s.buffer ++ chunk, s.count + 1⟩

/-- Gives the buffer up and counts from zero again. -/
def release (_ : Reassembly) : Reassembly := empty

/-- After any segments the buffer has grown by their concatenation. -/
theorem buffer_foldl_append (s : Reassembly) (chunks : List Bytes) :
    (chunks.foldl append s).buffer = s.buffer ++ chunks.flatten := by
  induction chunks generalizing s with
  | nil => simp
  | cons c r ih => simp [ih, append]

/-- Every segment is counted, also an empty one. -/
theorem count_foldl_append (s : Reassembly) (chunks : List Bytes) :
    (chunks.foldl append s).count = s.count + chunks.length := by
  induction chunks generalizing s with
  | nil => simp
  | cons c r ih => simp [ih, append]; omega

end Reassembly

end Livecast
