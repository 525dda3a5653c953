/-!
# Mailboxes

Tasks hand values over through unbounded mailboxes: first in, first out, never full.  A mailbox
lives as long as one of its ends does.  A value that is sent after the receiver has gone is refused,
and a receiver that finds the mailbox empty without a sender knows that nothing will follow.

## Main Definitions

* `Mailbox` - the values under way, and which ends are left
* `Mailbox.send`, `Mailbox.accepts` - hand a value over
* `Mailbox.isFinished` - nothing is under way and nothing will follow

## Main Statements

* `Mailbox.sendAll_eq` - what becomes of values that are handed over together
-/

namespace Livecast

/-- An unbounded queue from its senders to its one receiver. -/
structure Mailbox (α : Type) where
  /-- The values under way, the oldest first. -/
  items : List α
  /-- There still is a sender. -/
  sending : Bool
  /-- There still is the receiver. -/
  receiving : Bool

namespace Mailbox

variable {α : Type}

/-- A new mailbox with both of its ends. -/
def fresh : Mailbox α := ⟨[], true, true⟩

/-- What is left of a mailbox that never had ends. -/
def gone : Mailbox α := ⟨[], false, false⟩

instance : Inhabited (Mailbox α) := ⟨gone⟩

/-- A value that is sent now is accepted. -/
def accepts (m : Mailbox α) : Bool := m.sending && m.receiving

/-- Hands a value over, if there is someone to receive it. -/
def send (m : Mailbox α) (a : α) : Mailbox α :=
  if m.accepts then { m with items := m.items ++ [a] } else m

/-- Hands several values over. -/
def sendAll (m : Mailbox α) (l : List α) : Mailbox α := l.foldl send m

/-- The last sender goes; what is under way still arrives. -/
def dropSender (m : Mailbox α) : Mailbox α := { m with sending := false }

/-- The receiver goes, and what is under way with it. -/
def dropReceiver (m : Mailbox α) : Mailbox α := { m with receiving := false, items := [] }

/-- The receiver takes everything that is under way. -/
def drain (m : Mailbox α) : List α × Mailbox α := (m.items, { m with items := [] })

/-- Nothing is under way and nothing will follow. -/
def isFinished (m : Mailbox α) : Bool := m.items.isEmpty && !m.sending

/-! ## Laws -/

theorem send_of_accepts {m : Mailbox α} (h : m.accepts = true) (a : α) :
    m.send a = { m with items := m.items ++ [a] } := if_pos h

/-- Values that are handed over together come behind each other, or not at all. -/
theorem sendAll_eq (m : Mailbox α) (l : List α) :
    m.sendAll l = if m.accepts then { m with items := m.items ++ l } else m := by
  induction l generalizing m with
  | nil => cases m; simp [sendAll]
  | cons a rest ih =>
      have first : m.sendAll (a :: rest) = (m.send a).sendAll rest := rfl
      cases listens : m.accepts with
      | false => simp [first, ih, send, listens]
      | true =>
          have still : ({ m with items := m.items ++ [a] } : Mailbox α).accepts = true := listens
          simp [first, ih, send, listens, still]

@[simp] theorem accepts_send (m : Mailbox α) (a : α) :
    (m.send a).accepts = m.accepts := by
  unfold send
  split <;> rfl

@[simp] theorem accepts_sendAll (m : Mailbox α) (l : List α) :
    (m.sendAll l).accepts = m.accepts := by
  rw [sendAll_eq]
  split <;> rfl

end Mailbox

end Livecast
