import Livecast.Command.LiveSession
import Livecast.Proofs.Session.Teardown

/-!
# The verdict on a session

A session is closed by one event, and how it ended is decided by that event and by the stage in
which it is met: the same hang-up is a failed handshake before the session opens and a clean end
afterwards.  What the server reports in the meantime does not count, and neither does anything that
comes later.  The command that ran the session fails exactly if its session did.

## Main Definitions

* `SessionFailure.ofConnection` - the failures that handshakes and connections come with
* `Cause` - the table of the events that close a session, each with the failure that it is
* `Machine.ClosedBy` - the event that closes a session in the course of a run
* `Judged` - the law of verdicts

## Main Statements

* `Machine.Sound.cause_iff` - an event closes a session exactly if the table lists it
* `Machine.exists_closedBy`, `Machine.ClosedBy.run_eq` - a session that has closed was closed by one
  event, and stays as this has left it
* `LiveSession.ending?_of_report` - how a command ends whose session has ended
* `Machine.run_judged` - every session that closes is judged by the event that closes it
-/

namespace Livecast

variable {L : Type}

/-- The failure is one of the connection: of its handshake or of its transport. -/
def SessionFailure.ofConnection : SessionFailure → Bool
  | .handshake _ | .transport _ => true
  | .remote _ | .capture _ => false

/-! ## The table of causes -/

/-- **The events that close a session** of some role whose collaborators answer `a`, by the stage in
which they are met, each with the failure that it is. -/
inductive Cause (role : Role) (a : Answers) :
    SessionStage → Event L → Option SessionFailure → Prop where
  /-- The caller wants the session closed. -/
  | requested {stage : SessionStage} (unclosed : stage ≠ .closed) :
      Cause role a stage .closeRequested none
  /-- The other side closes the connection of an open session. -/
  | hungUp : Cause role a .opened .closed none
  /-- The device of an open session ends. -/
  | deviceEnded : Cause role a .opened .deviceEnded none
  /-- The handshake fails, for a reason of its own. -/
  | handshakeFailed (e : SessionFailure) : Cause role a .connecting (.handshakeFailed e) (some e)
  /-- The connection fails before the session opens. -/
  | failedEarly (reason : String) :
      Cause role a .connecting (.errored reason) (some (.handshake reason))
  /-- The other side closes the connection before the session opens. -/
  | hungUpEarly : Cause role a .connecting .closed
      (some (.handshake "connection closed before the session opened"))
  /-- The source of a publishing session does not start. -/
  | startRefused {e : CaptureFailure} (link : L) (publishes : role = .publish)
      (start : a.start = some e) :
      Cause role a .connecting (.opened link) (some (.capture e.message))
  /-- The connection of an open session fails. -/
  | failed (reason : String) : Cause role a .opened (.errored reason) (some (.transport reason))
  /-- The connection does not take a heartbeat. -/
  | heartbeatRefused {e : SessionFailure} (send : a.send = some e) :
      Cause role a .opened .heartbeatTick (some e)
  /-- The connection does not take a signal. -/
  | signalRefused {e : SessionFailure} (signal : Signal) (send : a.send = some e) :
      Cause role a .opened (.sendSignal signal) (some e)
  /-- The connection does not take a segment; an empty one is not sent. -/
  | segmentRefused {e : SessionFailure} {data : Bytes} (nonempty : data ≠ [])
      (send : a.send = some e) : Cause role a .opened (.segment data) (some e)

/-- The failure that an event is, as far as the response to it decides that: a clean end is none. -/
def Response.failure? (role : Role) (a : Answers) : Response L → Option (Option SessionFailure)
  | .establish _ => if role = .publish then a.start.map fun e => some (.capture e.message) else none
  | .fail e => some (some e)
  | .close => some none
  | .send _ => a.send.map some
  | _ => none

section

variable {role : Role} {a : Answers} {stage : SessionStage} {event : Event L}
  {failure : Option SessionFailure}

theorem Cause.failure? (h : Cause role a stage event failure) :
    (response stage event).failure? role a = some failure := by
  cases h with
  | requested unclosed => cases stage <;> simp_all [response, Response.failure?]
  | startRefused link publishes start => simp [response, Response.failure?, publishes, start]
  | heartbeatRefused send | signalRefused signal send => simp [response, Response.failure?, send]
  | segmentRefused nonempty send => simp [response, Response.failure?, nonempty, send]
  | _ => rfl

theorem cause_of_failure? (h : (response stage event).failure? role a = some failure) :
    Cause role a stage event failure := by
  -- outside the stages in which it closes a session an event has no failure
  cases stage with
  | closed => cases event <;> simp [response, Response.failure?] at h
  | connecting =>
      cases event with
      | opened link =>
          obtain ⟨publishes, e, start, rfl⟩ : role = .publish ∧
              ∃ e, a.start = some e ∧ some (.capture e.message) = failure := by
            simpa [response, Response.failure?] using h
          exact .startRefused link publishes start
      | handshakeFailed e => cases h; exact .handshakeFailed e
      | errored reason => cases h; exact .failedEarly reason
      | closed => cases h; exact .hungUpEarly
      | closeRequested => cases h; exact .requested (by simp)
      | _ => simp [response, Response.failure?] at h
  | opened =>
      -- what is sent fails with the answer of the connection
      have refusal : a.send.map some = some failure → ∃ e, a.send = some e ∧ some e = failure :=
        Option.map_eq_some_iff.mp
      rcases event with _ | _ | (_ | _) | reason | _ | _ | _ | _ | data | signal | _
      case errored => cases h; exact .failed reason
      case closed => cases h; exact .hungUp
      case deviceEnded => cases h; exact .deviceEnded
      case closeRequested => cases h; exact .requested (by simp)
      case heartbeatTick =>
        obtain ⟨e, send, rfl⟩ := refusal h
        exact .heartbeatRefused send
      case sendSignal =>
        obtain ⟨e, send, rfl⟩ := refusal h
        exact .signalRefused signal send
      case segment =>
        by_cases empty : data = []
        · simp [response, Response.failure?, empty] at h
        · have sent : response .opened (.segment data : Event L) = .send (.binary data) := by
            simp [response, empty]
          rw [sent] at h
          obtain ⟨e, send, rfl⟩ := refusal h
          exact .segmentRefused empty send
      all_goals simp [response, Response.failure?] at h

/-- **The table lists the responses that end a session**, and no others. -/
theorem cause_iff :
    Cause role a stage event failure ↔ (response stage event).failure? role a = some failure :=
  ⟨Cause.failure?, cause_of_failure?⟩

end

namespace Machine

variable {m next : Machine L} {a : Answers} {r : Response L} {calls : List (Call L)}

/-- **A response ends a session that has not closed exactly if it is a failure or a clean end**, and
this is what the session then has as its failure. -/
theorem Outcome.failure? (h : Outcome m a r next calls) (unclosed : m.state ≠ .closed) :
    r.failure? m.id.role a = if next.state = .closed then some next.failure else none := by
  cases h with
  | established stage start =>
      by_cases publishes : m.id.role = .publish <;> simp [Response.failure?, publishes, start]
  | startRefused stage publishes start => simp [Response.failure?, publishes, start]
  | sent stage link send => simp [Response.failure?, stage, send]
  | refused stage link send => simp [Response.failure?, send]
  | failed | closed => simp [Response.failure?]
  | _ => simp [Response.failure?, unclosed]

/-- **An event closes a session exactly if the table lists it**, and what it lists is then the
failure of the session. -/
theorem Sound.cause_iff (sound : m.Sound) (unclosed : m.state ≠ .closed) (a : Answers)
    (event : Event L) (failure : Option SessionFailure) :
    Cause m.id.role a m.state event failure ↔
      (m.handle a event).1.state = .closed ∧ (m.handle a event).1.failure = failure := by
  rw [Livecast.cause_iff, (sound.handle_outcome a event).failure? unclosed]
  split
  · next closed => simp [closed]
  · next still => simp [still]

/-! ## The event that closes a session -/

/-- The session that `m` becomes in the course of the events `before` has not closed, and the event
`event` closes it. -/
structure ClosedBy (m : Machine L) (before : List (Event L × Answers)) (event : Event L)
    (a : Answers) : Prop where
  /-- The session has not closed before. -/
  unclosed : (m.run before).1.state ≠ .closed
  /-- The event closes it. -/
  closed : ((m.run before).1.handle a event).1.state = .closed

/-- A session that has closed was closed by one of its events. -/
theorem exists_closedBy (unclosed : m.state ≠ .closed) (es : List (Event L × Answers))
    (closed : (m.run es).1.state = .closed) :
    ∃ before event a after, es = before ++ (event, a) :: after ∧ m.ClosedBy before event a := by
  induction es generalizing m with
  | nil => exact absurd closed unclosed
  | cons e rest ih =>
      by_cases first : (m.handle e.2 e.1).1.state = .closed
      · exact ⟨[], e.1, e.2, rest, rfl, unclosed, first⟩
      · obtain ⟨before, event, a, after, rfl, h⟩ := ih first closed
        exact ⟨e :: before, event, a, after, rfl, h.unclosed, h.closed⟩

/-- A session stays as the event that closes it has left it. -/
theorem ClosedBy.run_eq {before after : List (Event L × Answers)} {event : Event L}
    (h : m.ClosedBy before event a) :
    (m.run (before ++ (event, a) :: after)).1 = ((m.run before).1.handle a event).1 := by
  rw [run_append]
  change (((m.run before).1.handle a event).1.run after).1 = _
  rw [run_closed h.closed]

end Machine

/-! ## How the command ends -/

/-- **A command whose session has ended ends as its session did.** -/
theorem LiveSession.ending?_of_report {l : LiveSession} {report : SessionSummary}
    (ended : l.ensemble.task.report? = some report) :
    l.ending? = some (match report.fatality? with
      | some e => .failure l.output l.setup.filter (l.log ++ keptLine report)
          (.plain (report.id.text ++ ": " ++ e.message))
      | none => .success l.output l.setup.filter
          (l.log ++ keptLine report ++ [report.id.notice .info "finished"])) := by
  rw [ending?, ended]
  rfl

/-- A failure is one of the command unless it is an error that the server has reported. -/
theorem SessionSummary.fatality?_eq {r : SessionSummary}
    (own : ∀ reason, r.failure ≠ some (.remote reason)) : r.fatality? = r.failure := by
  rw [fatality?]
  cases failure : r.failure with
  | none => rfl
  | some e =>
      cases e with
      | remote reason => exact absurd failure (own reason)
      | _ => rfl

/-- A listed failure is none that the server reports, if handshake and connection have failures of
their own. -/
theorem Cause.ne_remote {role : Role} {a : Answers} {stage : SessionStage} {event : Event L}
    {failure : Option SessionFailure} (h : Cause role a stage event failure)
    (handshake : ∀ e, event = .handshakeFailed e → e.ofConnection = true)
    (send : ∀ e, a.send = some e → e.ofConnection = true) (reason : String) :
    failure ≠ some (.remote reason) := by
  rintro rfl
  cases h with
  | handshakeFailed => simpa [SessionFailure.ofConnection] using handshake _ rfl
  | heartbeatRefused refused | signalRefused _ refused | segmentRefused _ refused =>
      simpa [SessionFailure.ofConnection] using send _ refused

/-! ## Every session is judged -/

/-- **The law of verdicts**, for a new session `m` that some events close and for the report on
it. -/
structure Judged (m : Machine L) (es : List (Event L × Answers)) (report : SessionSummary) :
    Prop where
  /-- One of the events has closed the session. -/
  closed : ∃ before event a after, es = before ++ (event, a) :: after ∧ m.ClosedBy before event a
  /-- What this event is in the stage in which it was met is the failure that is reported. -/
  cause : ∀ before event a after, es = before ++ (event, a) :: after → m.ClosedBy before event a →
    Cause m.id.role a (m.run before).1.state event report.failure
  /-- It is not an error that the server has reported. -/
  own : ∀ reason, report.failure ≠ some (.remote reason)
  /-- Later events do not change the report. -/
  final : ∀ later, (m.run (es ++ later)).1.report = report
  /-- The command that ran the session fails exactly if a failure is reported, with this failure as
  its error. -/
  command : ∀ l : LiveSession, l.ensemble.task.report? = some report →
    ∃ ending, l.ending? = some ending ∧
      (ending.exit = if report.failure.isSome then 1 else 0) ∧
      ∀ e, report.failure = some e →
        (Failure.plain (report.id.text ++ ": " ++ e.message)).lines <:+ ending.lines

/-- **Every session that closes is judged by the event that closes it**, whatever else it meets and
whatever its source answers, as long as handshake and connection have failures of their own. -/
theorem Machine.run_judged (id : SessionIdentity) (settings : SessionPolicy) (observers : Nat)
    (es : List (Event L × Answers))
    (handshake : ∀ e a, (.handshakeFailed e, a) ∈ es → e.ofConnection = true)
    (send : ∀ event a e, (event, a) ∈ es → a.send = some e → e.ofConnection = true)
    (closed : ((fresh id settings observers).run es).1.state = .closed) :
    Judged (fresh id settings observers) es ((fresh id settings observers).run es).1.report := by
  have cause : ∀ before event a after, es = before ++ (event, a) :: after →
      (fresh id settings observers).ClosedBy before event a →
      Cause id.role a ((fresh id settings observers).run before).1.state event
        ((fresh id settings observers).run es).1.failure := by
    rintro before event a after rfl closing
    have past := history_run id settings observers before
    have listed := (past.sound.cause_iff closing.unclosed a event _).mpr ⟨closing.closed, rfl⟩
    rw [past.unchanged.1] at listed
    rwa [closing.run_eq]
  have reached := exists_closedBy (m := fresh id settings observers) (by simp [fresh]) es closed
  have own (reason : String) :
      ((fresh id settings observers).run es).1.failure ≠ some (.remote reason) := by
    obtain ⟨before, event, a, after, split, closing⟩ := reached
    have met : (event, a) ∈ es := by simp [split]
    have listed := cause before event a after split closing
    refine listed.ne_remote ?_ (fun e => send event a e met) reason
    rintro e rfl
    exact handshake e a met
  constructor
  case closed => exact reached
  case cause => exact cause
  case own => exact own
  case final =>
    intro later
    rw [run_append, run_closed closed]
  case command =>
    intro l ended
    refine ⟨_, LiveSession.ending?_of_report ended, ?_, ?_⟩
    · rw [SessionSummary.fatality?_eq own]
      cases ((fresh id settings observers).run es).1.report.failure <;> rfl
    · intro e failure
      rw [SessionSummary.fatality?_eq own, failure]
      exact List.suffix_append _ _

/-- A server reports an error, the next heartbeat is not taken, and the connection is reset: the
heartbeat is what counts. -/
theorem Machine.run_judged_heartbeat :
    let m : Machine Nat := .fresh ⟨"c", "k", .watch⟩ .standard 1
    let es := [(.opened 7, .willing), (.message (.text "ERROR:slow down"), .willing),
      (.heartbeatTick, ⟨none, some (.transport "gone")⟩), (.errored "reset", .willing)]
    (∀ e a, (.handshakeFailed e, a) ∈ es → e.ofConnection = true) ∧
      (∀ event a e, (event, a) ∈ es → a.send = some e → e.ofConnection = true) ∧
      (m.run es).1.state = .closed ∧ (m.run es).1.report.failure = some (.transport "gone") ∧
      Judged m es (m.run es).1.report := by
  intro m es
  have handshake : ∀ e a, (.handshakeFailed e, a) ∈ es → e.ofConnection = true := by
    simp [es]
  have send : ∀ event a e, (event, a) ∈ es → a.send = some e → e.ofConnection = true := by
    grind [Answers.willing, SessionFailure.ofConnection]
  have closed : (m.run es).1.state = .closed := by decide +kernel
  exact ⟨handshake, send, closed, by decide +kernel, run_judged _ _ _ _ handshake send closed⟩

end Livecast
