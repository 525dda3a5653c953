import Livecast.Frame
import Livecast.Proofs.Text.Cutting

/-!
# What a text frame means

Text frames have no escapes: what a frame means is decided by how it begins.  One text is a
heartbeat, all texts behind the mark of an error report are reports, and no text is both.  Blanks
between the mark and the message belong to neither, so a message that begins with blanks loses them
on its way; it does so once, and is not changed by being passed on.

## Main Definitions

* `Signal.relayed` - what is left of a signal that is written and read again a number of times

## Main Statements

* `Signal.decode?_eq_error_iff` - the texts that report an error, and which
* `Signal.decode?_encode_error` - what is read of a written report
* `Signal.decode?_exact` - what every text means, and what becomes of every signal
-/

namespace Livecast

open Livecast.Text

namespace Signal

/-! ## What a text means -/

theorem toList_report (rest : String) :
    ("ERROR:" ++ rest).toList = 'E' :: 'R' :: 'R' :: 'O' :: 'R' :: ':' :: rest.toList := by
  rw [String.toList_append]
  rfl

/-- The first rule compares a whole text. -/
theorem decode?_heartbeat : decode? "h" = some heartbeat := rfl

/-- The second rule reads what is behind the mark, whatever it is. -/
theorem decode?_report (rest : String) :
    decode? ("ERROR:" ++ rest) = some (error (String.ofList (trimStart rest.toList))) := by
  rw [decode?, toList_report, ofChars?, if_neg (by simp [heartbeatChars])]

/-- There is no third rule. -/
theorem decode?_eq_none {t : String} (beats : t ≠ "h") (reports : ∀ rest, t ≠ "ERROR:" ++ rest) :
    decode? t = none := by
  have other : t.toList ≠ heartbeatChars := fun same => beats (String.toList_inj.mp same)
  rw [decode?, ofChars?, if_neg other]
  intro r mark
  refine reports (String.ofList r) (String.toList_inj.mp ?_)
  rw [mark, toList_report, String.toList_ofList]

/-- **What a text is read as**: a heartbeat, the report behind the mark, or nothing. -/
theorem decode?_cases (t : String) :
    t = "h" ∧ decode? t = some heartbeat ∨
      (∃ rest, t = "ERROR:" ++ rest ∧
        decode? t = some (error (String.ofList (trimStart rest.toList)))) ∨
      (t ≠ "h" ∧ ∀ rest, t ≠ "ERROR:" ++ rest) ∧ decode? t = none := by
  by_cases beats : t = "h"
  · exact .inl ⟨beats, beats ▸ decode?_heartbeat⟩
  · by_cases reports : ∃ rest, t = "ERROR:" ++ rest
    · obtain ⟨rest, rfl⟩ := reports
      exact .inr (.inl ⟨rest, rfl, decode?_report rest⟩)
    · have none := not_exists.mp reports
      exact .inr (.inr ⟨⟨beats, none⟩, decode?_eq_none beats none⟩)

theorem decode?_eq_heartbeat_iff {t : String} : decode? t = some heartbeat ↔ t = "h" := by
  rcases decode?_cases t with ⟨rfl, read⟩ | ⟨rest, rfl, read⟩ | ⟨⟨beats, -⟩, read⟩
  · exact iff_of_true read rfl
  · have other : "ERROR:" ++ rest ≠ "h" := by
      rw [← String.toList_inj.ne, toList_report]
      simp
    exact iff_of_false (by simp [read]) other
  · exact iff_of_false (by simp [read]) beats

/-- **The texts that report an error**: the mark, any blanks, and the message, which does not begin
with a blank. -/
theorem decode?_eq_error_iff {t message : String} :
    decode? t = some (error message) ↔
      ∃ blanks, t = "ERROR:" ++ blanks ++ message ∧ IsBlankText blanks ∧ BeginsInked message := by
  constructor
  · intro error
    rcases decode?_cases t with ⟨-, read⟩ | ⟨rest, rfl, read⟩ | ⟨-, read⟩
    · simp [read] at error
    · obtain rfl : String.ofList (trimStart rest.toList) = message := by simpa [read] using error
      obtain ⟨blanks, whole, blank⟩ := exists_blanks rest
      refine ⟨blanks, ?_, blank, beginsInked_trimStart _⟩
      rw [String.append_assoc, ← whole]
    · simp [read] at error
  · rintro ⟨blanks, rfl, blank, inked⟩
    rw [String.append_assoc, decode?_report, trimStart_of_blanks blank inked]

theorem decode?_eq_none_iff {t : String} :
    decode? t = none ↔ t ≠ "h" ∧ ∀ rest, t ≠ "ERROR:" ++ rest := by
  rcases decode?_cases t with ⟨rfl, read⟩ | ⟨rest, rfl, read⟩ | ⟨other, read⟩
  · exact iff_of_false (by simp [read]) fun other => other.1 rfl
  · exact iff_of_false (by simp [read]) fun other => other.2 rest rfl
  · exact iff_of_true read other

/-! ## Signals on their way -/

theorem encode_error (message : String) : encode (error message) = "ERROR:" ++ message := by
  apply String.toList_inj.mp
  rw [encode, chars, String.toList_ofList, String.toList_append]
  rfl

/-- **A written report is read as a report**, of its message without the blanks in front. -/
theorem decode?_encode_error {blanks message : String} (blank : IsBlankText blanks)
    (inked : BeginsInked message) :
    decode? (encode (error (blanks ++ message))) = some (error message) := by
  rw [encode_error, decode?_report, trimStart_of_blanks blank inked]

/-- A signal that was read is written and read without a change. -/
theorem decode?_encode_of_decode? {t : String} {m : Signal} (read : decode? t = some m) :
    decode? m.encode = some m := by
  cases m with
  | heartbeat => exact decode?_heartbeat
  | error message =>
      obtain ⟨-, -, -, inked⟩ := decode?_eq_error_iff.mp read
      have empty : IsBlankText "" := by simp [IsBlankText]
      simpa using decode?_encode_error empty inked

/-- What is left of a signal that is written and read again, and this a number of times. -/
def relayed : Nat → Signal → Option Signal
  | 0, m => some m
  | n + 1, m => (decode? m.encode).bind (relayed n)

/-- However often a signal is passed on that was read, it stays what it is. -/
theorem relayed_of_decode? {t : String} {m : Signal} (read : decode? t = some m) (n : Nat) :
    relayed n m = some m := by
  induction n with
  | zero => rfl
  | succ n ih => rw [relayed, decode?_encode_of_decode? read, Option.bind_some, ih]

/-- However often a report is passed on, it stays a report. -/
theorem exists_relayed_error (message : String) (n : Nat) :
    ∃ rest, relayed n (error message) = some (error rest) := by
  cases n with
  | zero => exact ⟨message, rfl⟩
  | succ n =>
      have read : decode? (encode (error message)) = _ :=
        (congrArg decode? (encode_error message)).trans (decode?_report message)
      exact ⟨_, by rw [relayed, read, Option.bind_some, relayed_of_decode? read]⟩

/-- **What every text means, and what becomes of every signal.**  A text is a heartbeat exactly if
it is the one letter `h`; it reports an error exactly if it is the mark, any blanks and the message,
which does not begin with a blank; every other text means nothing.  What is written is read as the
same kind of signal, and all that a message can lose are the blanks in front of it.  So a signal
that was read stays as it is however often it is passed on, and no report ever becomes a
heartbeat. -/
theorem decode?_exact :
    (∀ t, (decode? t = some heartbeat ↔ t = "h") ∧
      (∀ message, decode? t = some (error message) ↔ ∃ blanks,
        t = "ERROR:" ++ blanks ++ message ∧ IsBlankText blanks ∧ BeginsInked message) ∧
      (decode? t = none ↔ t ≠ "h" ∧ ∀ rest, t ≠ "ERROR:" ++ rest)) ∧
    decode? heartbeat.encode = some heartbeat ∧
    (∀ message, ∃ blanks rest, message = blanks ++ rest ∧ IsBlankText blanks ∧ BeginsInked rest ∧
      decode? (error message).encode = some (error rest)) ∧
    (∀ t n, (decode? t).bind (relayed n) = decode? t) ∧
    ∀ message n, relayed n (error message) ≠ some heartbeat := by
  refine ⟨fun t => ⟨decode?_eq_heartbeat_iff, fun _ => decode?_eq_error_iff, decode?_eq_none_iff⟩,
    decode?_heartbeat, fun message => ?_, fun t n => ?_, fun message n => ?_⟩
  · obtain ⟨blanks, whole, blank⟩ := exists_blanks message
    refine ⟨blanks, _, whole, blank, beginsInked_trimStart _, ?_⟩
    rw [encode_error, decode?_report]
  · cases read : decode? t with
    | none => rfl
    | some m => exact relayed_of_decode? read n
  · obtain ⟨rest, same⟩ := exists_relayed_error message n
    simp [same]

/-- A report of the text of a heartbeat, behind blanks of two kinds, is a report all the same. -/
example : decode? "ERROR:\u3000 h" = some (error "h") := by decide

end Signal

end Livecast
