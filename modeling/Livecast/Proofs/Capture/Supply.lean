import Livecast.Capture.Reader

/-!
# What a byte stream supplies

The writer of a byte stream writes on it and ends it.  What can be read of the stream in all is
settled by that alone: it is what the stream holds and what is written before it ends, up to the
first failure, behind which nobody can read.

## Main Definitions

* `Feed` - what the writer of a byte stream does
* `Arrival.content` - the bytes in front of the first failure
* `Pipe.supply` - the bytes that a stream supplies in all

## Main Statements

* `Pipe.supply_write`, `Pipe.supply_finish` - what the writer does next belongs to what is supplied
* `Pipe.supply_of_data` - what is read and what is left are together what is supplied
* `Pipe.supply_of_failure`, `Pipe.supply_of_ended` - at its end a stream supplies nothing

## Design Notes

A supply is a function of what the writer is still going to do.  A law that says for all of this how
much is supplied holds on when the writer does some of it, and needs no account of the past.
-/

namespace Livecast

/-- What the writer of a byte stream does. -/
inductive Feed where
  /-- It writes. -/
  | write (arrival : Arrival)
  /-- It ends the stream. -/
  | finish

/-- What is written before the stream is ended. -/
def Feed.arrivals : List Feed → List Arrival
  | .write arrival :: rest => arrival :: arrivals rest
  | .finish :: _ | [] => []

/-- The bytes in front of the first failure. -/
def Arrival.content : List Arrival → Bytes
  | .data bytes :: rest => bytes ++ content rest
  | .failure :: _ | [] => []

namespace Pipe

/-- The bytes that a stream supplies in all if its writer does these things: those that it holds,
and those that are written as long as it takes any. -/
def supply (p : Pipe) (feeds : List Feed) : Bytes :=
  Arrival.content (p.unread ++ if p.accepts then Feed.arrivals feeds else [])

variable {p : Pipe} {feeds : List Feed}

theorem supply_write (p : Pipe) (arrival : Arrival) (feeds : List Feed) :
    (p.write arrival).supply feeds = p.supply (.write arrival :: feeds) := by
  cases accepts : p.accepts with
  | false => simp [supply, write, accepts]
  | true =>
      have still : ({ p with unread := p.unread ++ [arrival] } : Pipe).accepts = true := accepts
      simp [supply, write, accepts, still, Feed.arrivals]

theorem supply_finish (p : Pipe) (feeds : List Feed) :
    p.finish.supply feeds = p.supply (.finish :: feeds) := by
  simp [supply, finish, accepts, Feed.arrivals]

/-- **A read takes from what is supplied**, and leaves the rest of it. -/
theorem supply_of_data {bytes : Bytes} {rest : List Arrival}
    (unread : p.unread = .data bytes :: rest) (chunk : Nat) (feeds : List Feed) :
    p.supply feeds = bytes.take chunk ++
      ({ p with
        unread := if bytes.length ≤ chunk then rest else .data (bytes.drop chunk) :: rest } :
          Pipe).supply feeds := by
  simp only [supply, unread, List.cons_append, Arrival.content]
  by_cases whole : bytes.length ≤ chunk
  · rw [if_pos whole, List.take_of_length_le whole]
    rfl
  · rw [if_neg whole, List.cons_append, Arrival.content, ← List.append_assoc,
      List.take_append_drop]
    rfl

/-- Behind a failure nothing is supplied. -/
theorem supply_of_failure {rest : List Arrival} (unread : p.unread = .failure :: rest)
    (feeds : List Feed) : p.supply feeds = [] := by
  rw [supply, unread]
  rfl

/-- A stream that was ended and read supplies nothing. -/
theorem supply_of_ended (unread : p.unread = []) (ended : p.writing = false) (feeds : List Feed) :
    p.supply feeds = [] := by
  simp [supply, unread, accepts, ended, Arrival.content]

end Pipe

end Livecast
