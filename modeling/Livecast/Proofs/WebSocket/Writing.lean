import Livecast.WebSocket.Connection

/-!
# A step of the writing task

The writing task has four steps: it puts a frame on the stream, it closes the stream, it gives up
because a frame was refused, and it ends because nothing is left to write and nobody can hand
anything over.  What a step of it keeps is read off these.

## Main Definitions

* `Connection.Writes` - a step of the writing task

## Main Statements

* `Connection.write?_eq_some_iff` - the steps of the writing task are these
-/

namespace Livecast.Connection

variable {L : Type} {c next : Connection} {refused : Option String} {events : List (Event L)}

/-- **What a step of the writing task can be**, with the connection behind it and what it
reports. -/
inductive Writes (c : Connection) : Option String → Connection → List (Event L) → Prop where
  /-- Nothing is left to write and nobody can hand anything over: it ends. -/
  | ends {refused : Option String} (works : c.isWriting = true) (empty : c.outbound.items = [])
      (gone : c.outbound.sending = false) :
      Writes c refused { c with outbound := c.outbound.dropReceiver } []
  /-- It closes the stream, and ends without what was handed over behind that. -/
  | closes {refused : Option String} {rest : List Dispatch} (works : c.isWriting = true)
      (front : c.outbound.items = .close :: rest) :
      Writes c refused { c with
        outbound := ({ c.outbound with items := rest } : Mailbox Dispatch).dropReceiver,
        written := c.written ++ [.close] } []
  /-- It puts a frame on the stream. -/
  | writes {f : Frame} {rest : List Dispatch} (works : c.isWriting = true)
      (front : c.outbound.items = .frame f :: rest) :
      Writes c none { c with
        outbound := { c.outbound with items := rest }, written := c.written ++ [.frame f] } []
  /-- A frame is refused: it says so, and ends. -/
  | fails {f : Frame} {rest : List Dispatch} {reason : String} (works : c.isWriting = true)
      (front : c.outbound.items = .frame f :: rest) :
      Writes c (some reason) { c with
        outbound := ({ c.outbound with items := rest } : Mailbox Dispatch).dropReceiver }
        [.errored reason]

/-- **The steps of the writing task** are these four. -/
theorem write?_eq_some_iff :
    c.write? refused = some (next, events) ↔ c.Writes refused next events := by
  constructor
  · intro step
    unfold write? at step
    cases works : c.isWriting with
    | false => simp [works] at step
    | true =>
        rw [works] at step
        cases front : c.outbound.items with
        | nil =>
            cases gone : c.outbound.sending with
            | true => simp [front, gone] at step
            | false =>
                simp only [front, gone] at step
                cases step
                exact .ends works front gone
        | cons d rest =>
            rw [front] at step
            cases d with
            | close =>
                cases step
                exact .closes works front
            | frame f =>
                cases refused with
                | none =>
                    cases step
                    exact .writes works front
                | some reason =>
                    cases step
                    exact .fails works front
  · intro step
    cases step with
    | ends works empty gone => simp [write?, works, empty, gone]
    | closes works front | writes works front | fails works front => simp [write?, works, front]

/-- A writing task that has ended does nothing. -/
theorem write?_of_ended (ended : c.outbound.receiving = false) (refused : Option String) :
    c.write? (L := L) refused = none := by
  simp [write?, isWriting, ended]

end Livecast.Connection
