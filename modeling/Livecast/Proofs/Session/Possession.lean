import Livecast.Proofs.Session.History

/-!
# Late events are harmless: what a session possesses after any run

A session that is not open has nothing that could still act for it: no connection to send on, no
heartbeat that ticks, no capture that delivers.  That is why an event which was posted in one stage
may be handled in another one.  The invariant `Machine.Sound` describes the whole side of a session
at once; here it is read off through what a caller can ask about one thing at a time.

## Main Definitions

* `Machine.hasDevice`, `Machine.received?` - the idle device, and what was received
* `Possession` - what a session has in each stage, one thing at a time

## Main Statements

* `Machine.Sound.capture_iff`, `Machine.Sound.device_iff`, `Machine.Sound.received_empty` - what a
  sound machine has because of its role
* `Machine.run_possession` - every run of every session keeps to the law of possession
-/

namespace Livecast

variable {L : Type}

namespace Machine

/-- The session has a device that was acquired and not yet started. -/
def hasDevice (m : Machine L) : Bool :=
  match m.side with
  | .publish device _ => device
  | .watch _ _ => false

/-- What a watching session has received and not given up. -/
def received? (m : Machine L) : Option Reassembly :=
  match m.side with
  | .publish _ _ => none
  | .watch received _ => some received

namespace Sound

variable {m : Machine L}

/-- A session captures exactly while it is open and publishes. -/
theorem capture_iff (sound : m.Sound) :
    m.isCapturing = true ↔ m.state = .opened ∧ m.id.role = .publish := by
  cases role : m.id.role with
  | publish =>
      have side := sound.publishes role
      by_cases stage : m.state = .opened <;> simp [isCapturing, side, stage]
  | watch =>
      obtain ⟨received, resumeAt, side, -⟩ := sound.watches role
      simp [isCapturing, side]

/-- A session has an idle device exactly while it is connecting and is to publish. -/
theorem device_iff (sound : m.Sound) :
    m.hasDevice = true ↔ m.state = .connecting ∧ m.id.role = .publish := by
  cases role : m.id.role with
  | publish =>
      have side := sound.publishes role
      simp [hasDevice, side]
  | watch =>
      obtain ⟨received, resumeAt, side, -⟩ := sound.watches role
      simp [hasDevice, side]

/-- A session has a place for received media exactly if it watches. -/
theorem isSome_received?_iff (sound : m.Sound) :
    m.received?.isSome = true ↔ m.id.role = .watch := by
  cases role : m.id.role with
  | publish =>
      have side := sound.publishes role
      simp [received?, side]
  | watch =>
      obtain ⟨received, resumeAt, side, -⟩ := sound.watches role
      simp [received?, side]

/-- Nothing has been received before the session opens, and nothing is left after it has closed
unless it was to be kept. -/
theorem received_empty (sound : m.Sound) {received : Reassembly}
    (hreceived : m.received? = some received)
    (hstage : m.state = .connecting ∨ m.state = .closed ∧ m.settings.retain = false) :
    received = .empty := by
  have role : m.id.role = .watch := by
    rw [← sound.isSome_received?_iff, hreceived]
    rfl
  obtain ⟨held, resumeAt, side, connecting, closed⟩ := sound.watches role
  obtain rfl : held = received := by
    simpa [received?, side] using hreceived
  rcases hstage with stage | ⟨stage, retain⟩
  · exact connecting stage
  · exact closed stage retain

end Sound

end Machine

/-- **The law of possession**, for a session of some role that keeps or does not keep what it has
received. -/
structure Possession (role : Role) (retain : Bool) (m : Machine L) : Prop where
  /-- There is a connection exactly while the session is open. -/
  link : m.link.isSome = true ↔ m.state = .opened
  /-- The heartbeat runs exactly while the session is open. -/
  heartbeat : m.heartbeat = true ↔ m.state = .opened
  /-- There is a capture exactly while the session is open and publishes. -/
  capture : m.isCapturing = true ↔ m.state = .opened ∧ role = .publish
  /-- There is an idle device exactly while the session is connecting and is to publish. -/
  device : m.hasDevice = true ↔ m.state = .connecting ∧ role = .publish
  /-- Only a closed session has failed. -/
  failure : m.failure ≠ none → m.state = .closed
  /-- There is a place for received media exactly if the session watches. -/
  place : m.received?.isSome = true ↔ role = .watch
  /-- It is empty, and nothing in it has been counted, before the session opens and, unless it is
  kept, after the session has closed. -/
  nothing : ∀ received, m.received? = some received →
    m.state = .connecting ∨ m.state = .closed ∧ retain = false →
    received.buffer = [] ∧ received.count = 0
  /-- So whatever still runs belongs to an open session. -/
  running : m.heartbeat = true ∨ m.isCapturing = true → m.state = .opened

/-- **Every run of every session keeps to the law of possession**, whatever the events, their order
and the answers of its collaborators. -/
theorem Machine.run_possession (id : SessionIdentity) (settings : SessionPolicy) (observers : Nat)
    (es : List (Event L × Answers)) :
    Possession id.role settings.retain ((fresh id settings observers).run es).1 := by
  have history := history_run id settings observers es
  have sound := history.sound
  obtain ⟨sameId, sameSettings, -⟩ := history.unchanged
  have capture := sound.capture_iff
  have device := sound.device_iff
  have place := sound.isSome_received?_iff
  rw [sameId] at capture device place
  constructor
  case link => exact sound.link
  case heartbeat => exact sound.heartbeat
  case capture => exact capture
  case device => exact device
  case failure =>
    intro failed
    refine Classical.byContradiction fun unclosed => ?_
    exact failed (sound.failure unclosed)
  case place => exact place
  case nothing =>
    intro received hreceived hstage
    have retain := congrArg SessionPolicy.retain sameSettings
    obtain rfl := sound.received_empty hreceived (by rwa [retain])
    exact ⟨rfl, rfl⟩
  case running =>
    rintro (beating | capturing)
    · exact sound.heartbeat.mp beating
    · exact (capture.mp capturing).1

end Livecast
