import Livecast.Proofs.Session.Response
import Mathlib.Tactic.Simps.Basic

/-!
# What a session owns, and what one event changes

In each stage of its life a session owns definite things: an idle device before it opens, a
connection, a heartbeat and a running capture while it is open, nothing afterwards.  `Machine.Sound`
says so.  On a sound machine every event has one of a few outcomes, and `Machine.Outcome` lists them
with the machine that results and with the calls that are made, in order.

## Main Definitions

* `Machine.Sound` - the session owns what belongs to its stage
* `Machine.ended`, `Machine.teardown` - a closed machine, and the calls that close it
* `Machine.Outcome` - what performing a response can come to

## Main Statements

* `Machine.handle_outcome` - handling an event on a sound machine has one of the outcomes
* `Machine.Sound.handle` - a sound machine stays sound

## Design Notes

`Outcome` is the only place that looks into the operations of the machine.  A statement about all
runs is proved by cases on the outcome of one event, and survives a change to an operation as long
as its outcomes stay.
-/

namespace Livecast

variable {L : Type}

namespace Machine

/-- A session owns what belongs to the stage of its life, and nothing else. -/
structure Sound (m : Machine L) : Prop where
  /-- It owns a connection exactly while it is open. -/
  link : m.link.isSome ↔ m.state = .opened
  /-- Its heartbeat runs exactly while it is open. -/
  heartbeat : m.heartbeat = true ↔ m.state = .opened
  /-- Only a closed session has failed. -/
  failure : m.state ≠ .closed → m.failure = none
  /-- A publishing session has an idle device until it opens, and a capture while it is open. -/
  publishes : m.id.role = .publish →
    m.side = .publish (m.state = .connecting) (if m.state = .opened then some ⟨true⟩ else none)
  /-- A watching session has received nothing before it opens, and keeps nothing after it has
  closed unless it is told to. -/
  watches : m.id.role = .watch → ∃ received resumeAt, m.side = .watch received resumeAt ∧
    (m.state = .connecting → received = .empty) ∧
    (m.state = .closed → m.settings.retain = false → received = .empty)

/-- An open session has a connection. -/
theorem Sound.exists_link {m : Machine L} (sound : m.Sound) (hstage : m.state = .opened) :
    ∃ link, m.link = some link :=
  Option.isSome_iff_exists.mp (sound.link.mpr hstage)

/-- A session that is not open has none. -/
theorem Sound.link_eq_none {m : Machine L} (sound : m.Sound) (hstage : m.state ≠ .opened) :
    m.link = none := by
  rw [← Option.not_isSome_iff_eq_none]
  exact mt sound.link.mp hstage

/-- A new session is sound. -/
theorem sound_fresh (id : SessionIdentity) (settings : SessionPolicy) (observers : Nat) :
    (fresh id settings observers : Machine L).Sound where
  link := by simp [fresh]
  heartbeat := by simp [fresh]
  failure := fun _ => rfl
  publishes := by intro role; simp only [fresh] at role ⊢; simp [role]
  watches := by intro role; simp only [fresh] at role ⊢; simp [role]

end Machine

/-! ## Telling the observers -/

/-- What an observer can be told. -/
inductive Notice where
  /-- The session is open. -/
  | opened
  /-- There is a failure, or the server reports an error. -/
  | failure (error : SessionFailure)
  /-- The session has closed. -/
  | closed
deriving DecidableEq

/-- The call that tells an observer. -/
def Notice.call : Notice → Nat → Call L
  | .opened => .toldOpened
  | .failure e => (.toldError · e)
  | .closed => .toldClosed

/-- All observers are told the same, in the order of their registration. -/
def Machine.announce (m : Machine L) (n : Notice) : List (Call L) := m.notify n.call

/-- Whoever does not listen to a notice sees nothing of it. -/
theorem Machine.filterMap_announce_eq_nil {α : Type} {f : Call L → Option α} (m : Machine L)
    (n : Notice) (h : ∀ i, f (n.call i) = none) : (m.announce n).filterMap f = [] := by
  rw [announce, notify, List.filterMap_map]
  exact List.filterMap_eq_nil_iff.mpr fun i _ => h i

/-! ## Closing -/

/-- What is left on a side when its session has closed. -/
def Side.ended (retain : Bool) : Side → Side
  | .publish _ _ => .publish false none
  | .watch received resumeAt => .watch (if retain then received else .empty) resumeAt

namespace Machine

/-- The machine once it has closed, with the failure that closed it, if any. -/
@[simps]
def ended (m : Machine L) (failure : Option SessionFailure) : Machine L where
  id := m.id
  settings := m.settings
  observers := m.observers
  state := .closed
  link := none
  heartbeat := false
  side := m.side.ended m.settings.retain
  failure := failure

/-- The player is given up when the session closes. -/
def releasesPlayer (m : Machine L) : Bool := m.id.role = .watch && !m.settings.retain

/-- The calls of a session that gives back everything it owns. -/
def teardown (m : Machine L) : List (Call L) :=
  (if m.id.role = .publish then [.source .stop] else []) ++ m.link.toList.map .linkClosed ++
    (if m.releasesPlayer then [.playerReleased] else []) ++ m.announce .closed

variable {m : Machine L}

/-- **What is read off a teardown** is read off its four parts. -/
theorem filterMap_teardown {α : Type} (f : Call L → Option α) (m : Machine L) :
    m.teardown.filterMap f =
      (if m.id.role = .publish then (f (.source .stop)).toList else []) ++
        m.link.toList.filterMap (fun link => f (.linkClosed link)) ++
          (if m.releasesPlayer then (f .playerReleased).toList else []) ++
            (m.announce .closed).filterMap f := by
  have single (c : Call L) : [c].filterMap f = (f c).toList := by
    cases h : f c <;> simp [h]
  rw [teardown, List.filterMap_append, List.filterMap_append, List.filterMap_append,
    List.filterMap_map]
  congr 3
  · split
    · exact single _
    · rfl
  · split
    · exact single _
    · rfl

/-- Whoever is not concerned with endings sees nothing of a teardown. -/
theorem filterMap_teardown_eq_nil {α : Type} {f : Call L → Option α} (m : Machine L)
    (hsource : f (.source .stop) = none) (hlink : ∀ link, f (.linkClosed link) = none)
    (hplayer : f .playerReleased = none) (htold : ∀ i, f (.toldClosed i) = none) :
    m.teardown.filterMap f = [] := by
  rw [filterMap_teardown, hsource, hplayer, m.filterMap_announce_eq_nil .closed htold]
  simp [hlink]

theorem Sound.stopSource_eq (sound : m.Sound) (hopen : m.state ≠ .closed) :
    stopSource m.side = (if m.id.role = .publish then (.publish false none, [.source .stop])
      else (m.side, []) : Side × List (Call L)) := by
  cases role : m.id.role with
  | publish =>
      rw [sound.publishes role]
      cases stage : m.state with
      | closed => exact absurd stage hopen
      | _ => rfl
  | watch =>
      obtain ⟨received, resumeAt, side, -⟩ := sound.watches role
      rw [side]
      rfl

/-- Whatever failure is noted on a sound machine, closing gives back what it owns. -/
theorem Sound.close_noting (sound : m.Sound) (hopen : m.state ≠ .closed)
    (failure : Option SessionFailure) :
    ({ m with failure := failure } : Machine L).close = (m.ended failure, m.teardown) := by
  unfold close
  rw [if_neg (by simpa [isClosed] using hopen)]
  simp only [sound.stopSource_eq hopen]
  cases role : m.id.role with
  | publish =>
      have side := sound.publishes role
      simp [ended, teardown, releasesPlayer, announce, Notice.call, notify, role, side,
        releasePlayback, Side.ended]
  | watch =>
      obtain ⟨received, resumeAt, side, -⟩ := sound.watches role
      cases retain : m.settings.retain <;>
        simp [ended, teardown, releasesPlayer, announce, Notice.call, notify, role, side, retain,
          releasePlayback, Side.ended, Reassembly.release]

/-- **A sound session that closes gives back what it owns.** -/
theorem Sound.close_eq (sound : m.Sound) (hopen : m.state ≠ .closed) :
    m.close = (m.ended none, m.teardown) := by
  -- a clean close is a close that notes no failure: there is none to be overwritten
  have noted : ({ m with failure := none } : Machine L) = m := by
    rw [← sound.failure hopen]
  rw [← sound.close_noting hopen none, noted]

/-- A sound session that fails reports the failure before it gives back anything. -/
theorem Sound.fail_eq (sound : m.Sound) (hopen : m.state ≠ .closed) (e : SessionFailure) :
    m.fail e = (m.ended (some e), m.announce (.failure e) ++ m.teardown) := by
  unfold fail
  rw [if_neg (by simpa [isClosed] using hopen)]
  simp only [sound.close_noting hopen (some e)]
  rfl

/-! ## Opening -/

/-- The machine once it has opened over a connection. -/
@[simps]
def established (m : Machine L) (link : L) : Machine L where
  id := m.id
  settings := m.settings
  observers := m.observers
  state := .opened
  link := some link
  heartbeat := true
  side := match m.side with
    | .publish _ _ => .publish false (some ⟨true⟩)
    | side => side
  failure := m.failure

/-- The calls that begin a session: a publishing one starts its source. -/
def startup (m : Machine L) : List (Call L) :=
  if m.id.role = .publish then [.source (.start m.settings.capture)] else []

/-- What is read off a beginning is read off the start of a source. -/
theorem filterMap_startup {α : Type} (f : Call L → Option α) (m : Machine L) :
    m.startup.filterMap f =
      if m.id.role = .publish then (f (.source (.start m.settings.capture))).toList else [] := by
  unfold startup
  split
  · cases h : f (.source (.start m.settings.capture)) <;> simp [h]
  · rfl

/-- Whoever is not concerned with sources sees nothing of a beginning. -/
theorem filterMap_startup_eq_nil {α : Type} {f : Call L → Option α} (m : Machine L)
    (hsource : f (.source (.start m.settings.capture)) = none) : m.startup.filterMap f = [] := by
  rw [filterMap_startup, hsource]
  exact ite_self _

/-- A session opens unless it publishes and its source refuses to start. -/
theorem Sound.establish_eq (sound : m.Sound) (hstage : m.state = .connecting) (a : Answers)
    (hstart : m.id.role = .publish → a.start = none) (link : L) :
    m.establish a link = (m.established link, m.startup ++ m.announce .opened) := by
  unfold establish
  cases role : m.id.role with
  | publish =>
      have side := sound.publishes role
      simp [established, startup, announce, Notice.call, notify, role, side, hstage,
        SourceTap.start, hstart role]
  | watch =>
      obtain ⟨received, resumeAt, side, -⟩ := sound.watches role
      simp [established, startup, announce, Notice.call, notify, role, side]

/-- A source that refuses to start is stopped, and the session closes with its refusal. -/
theorem Sound.establish_eq_of_refusal (sound : m.Sound) (hstage : m.state = .connecting)
    (hrole : m.id.role = .publish) {a : Answers} {e : CaptureFailure} (hstart : a.start = some e)
    (link : L) :
    m.establish a link = (m.ended (some (.capture e.message)),
      [.source (.start m.settings.capture), .source .stop] ++
        m.announce (.failure (.capture e.message)) ++ [.linkClosed link] ++
        m.announce .closed) := by
  have side := sound.publishes hrole
  unfold establish
  simp [side, hstage, SourceTap.start, hstart, fail, close, isClosed, stopSource,
    releasePlayback, ended, Side.ended, announce, Notice.call, notify]

/-! ## The outcomes of one event -/

/-- **What performing a response can come to** on a machine `m` whose collaborators answer `a`: the
machine that results, and the calls in their order. -/
inductive Outcome (m : Machine L) (a : Answers) :
    Response L → Machine L → List (Call L) → Prop where
  /-- Nothing happens. -/
  | ignored : Outcome m a .ignore m []
  /-- A connection that comes second or late is closed. -/
  | discarded {link : L} (hstage : m.state ≠ .connecting) :
      Outcome m a (.discard link) m [.linkClosed link]
  /-- The session opens. -/
  | established {link : L} (hstage : m.state = .connecting)
      (hstart : m.id.role = .publish → a.start = none) :
      Outcome m a (.establish link) (m.established link) (m.startup ++ m.announce .opened)
  /-- The source refuses to start, so the session does not open. -/
  | startRefused {link : L} {e : CaptureFailure} (hstage : m.state = .connecting)
      (hrole : m.id.role = .publish) (hstart : a.start = some e) :
      Outcome m a (.establish link) (m.ended (some (.capture e.message)))
        ([.source (.start m.settings.capture), .source .stop] ++
          m.announce (.failure (.capture e.message)) ++ [.linkClosed link] ++
          m.announce .closed)
  /-- The session fails. -/
  | failed {e : SessionFailure} (hstage : m.state ≠ .closed) :
      Outcome m a (.fail e) (m.ended (some e)) (m.announce (.failure e) ++ m.teardown)
  /-- The session closes cleanly. -/
  | closed (hstage : m.state ≠ .closed) : Outcome m a .close (m.ended none) m.teardown
  /-- A watching session takes in media and presents them. -/
  | received {data : Bytes} {received : Reassembly} {resumeAt : Duration}
      (hstage : m.state = .opened) (hside : m.side = .watch received resumeAt) :
      Outcome m a (.receive data) { m with side := .watch (received.append data) resumeAt }
        [.presented ⟨received.buffer ++ data, data, received.count + 1, resumeAt⟩]
  /-- A publishing session does not take in media. -/
  | overlooked {data : Bytes} (hrole : m.id.role = .publish) : Outcome m a (.receive data) m []
  /-- The server reports an error. -/
  | warned {content message : String} (hstage : m.state = .opened)
      (hsignal : Signal.decode? content = some (.error message)) :
      Outcome m a (.hear content) m (m.announce (.failure (.remote message)))
  /-- The server reports no error. -/
  | heard {content : String}
      (hsignal : ∀ message, Signal.decode? content ≠ some (.error message)) :
      Outcome m a (.hear content) m []
  /-- A watching session remembers a position other than the very start. -/
  | recorded {position : Duration} {received : Reassembly} {resumeAt : Duration}
      (hstage : m.state ≠ .closed) (hside : m.side = .watch received resumeAt) :
      Outcome m a (.record position)
        { m with side := .watch received (if position.isZero then resumeAt else position) } []
  /-- A publishing session has no position. -/
  | unrecorded {position : Duration} (hrole : m.id.role = .publish) :
      Outcome m a (.record position) m []
  /-- A frame is sent. -/
  | sent {link : L} {frame : Frame} (hstage : m.state = .opened) (hlink : m.link = some link)
      (hsend : a.send = none) : Outcome m a (.send frame) m [.sent link frame]
  /-- A frame is refused, and the session fails. -/
  | refused {link : L} {frame : Frame} {e : SessionFailure} (hstage : m.state = .opened)
      (hlink : m.link = some link) (hsend : a.send = some e) :
      Outcome m a (.send frame) (m.ended (some e))
        (.refused link frame :: (m.announce (.failure e) ++ m.teardown))

theorem Sound.outcome_establish (sound : m.Sound) (hstage : m.state = .connecting) (a : Answers)
    (link : L) :
    Outcome m a (.establish link) (m.establish a link).1 (m.establish a link).2 := by
  -- only a publishing session asks for an answer, so a refusal means nothing to a watching one
  by_cases hstart : m.id.role = .publish → a.start = none
  · rw [sound.establish_eq hstage a hstart link]
    exact .established hstage hstart
  · obtain ⟨hrole, hstart⟩ := Classical.not_imp.mp hstart
    obtain ⟨e, hstart⟩ := Option.ne_none_iff_exists'.mp hstart
    rw [sound.establish_eq_of_refusal hstage hrole hstart link]
    exact .startRefused hstage hrole hstart

theorem Sound.outcome_receive (sound : m.Sound) (hstage : m.state = .opened) (a : Answers)
    (data : Bytes) : Outcome m a (.receive data) (m.receive data).1 (m.receive data).2 := by
  unfold receive
  cases role : m.id.role with
  | publish =>
      rw [sound.publishes role]
      exact .overlooked role
  | watch =>
      obtain ⟨received, resumeAt, side, -⟩ := sound.watches role
      rw [side]
      exact .received hstage side

theorem outcome_hear (hstage : m.state = .opened) (a : Answers) (content : String) :
    Outcome m a (.hear content) (m.hear content).1 (m.hear content).2 := by
  unfold hear
  split
  · next message signal => exact .warned hstage signal
  · next other => exact .heard other

theorem Sound.outcome_record (sound : m.Sound) (hstage : m.state ≠ .closed) (a : Answers)
    (position : Duration) : Outcome m a (.record position) (m.record position) [] := by
  unfold record
  cases role : m.id.role with
  | publish =>
      rw [sound.publishes role]
      exact .unrecorded role
  | watch =>
      obtain ⟨received, resumeAt, side, -⟩ := sound.watches role
      -- the very start leaves the machine as it is, which is to set the side to what it was
      have unchanged : ({ m with side := .watch received resumeAt } : Machine L) = m := by
        rw [← side]
      have outcome : Outcome m a (.record position) _ _ := .recorded hstage side
      cases zero : position.isZero with
      | true => simpa only [side, zero, if_true, unchanged] using outcome
      | false => simpa only [side, zero, Bool.false_eq_true, if_false] using outcome

theorem Sound.outcome_send (sound : m.Sound) (hstage : m.state = .opened) (a : Answers)
    (frame : Frame) : Outcome m a (.send frame) (m.send a frame).1 (m.send a frame).2 := by
  obtain ⟨link, hlink⟩ := sound.exists_link hstage
  unfold send
  rw [hlink]
  cases hsend : a.send with
  | none => exact .sent hstage hlink hsend
  | some e =>
      have failing := sound.fail_eq (by simp [hstage]) e
      simpa only [failing] using .refused hstage hlink hsend

theorem Sound.outcome_perform (sound : m.Sound) (a : Answers) {r : Response L}
    (arises : r.Arises m.state) : Outcome m a r (m.perform a r).1 (m.perform a r).2 := by
  cases r with
  | ignore => exact .ignored
  | discard link => exact .discarded arises
  | establish link => exact sound.outcome_establish arises a link
  | fail e => simpa only [perform, sound.fail_eq arises e] using .failed arises
  | close => simpa only [perform, sound.close_eq arises] using .closed arises
  | receive data => exact sound.outcome_receive arises a data
  | hear content => exact outcome_hear arises a content
  | record position => exact sound.outcome_record arises a position
  | send frame => exact sound.outcome_send arises a frame

/-- **Handling an event on a sound machine has one of the outcomes.** -/
theorem Sound.handle_outcome (sound : m.Sound) (a : Answers) (event : Event L) :
    Outcome m a (response m.state event) (m.handle a event).1 (m.handle a event).2 := by
  rw [handle_eq_perform]
  exact sound.outcome_perform a (response_arises m.state event)

/-! ## A sound machine stays sound -/

theorem Sound.ended (sound : m.Sound) (failure : Option SessionFailure) :
    (m.ended failure).Sound where
  link := by simp
  heartbeat := by simp
  failure := by simp
  publishes := by
    intro role
    have side := sound.publishes role
    simp [side, Side.ended]
  watches := by
    intro role
    obtain ⟨received, resumeAt, side, -⟩ := sound.watches role
    exact ⟨_, _, by rw [ended_side, side, Side.ended], by simp, fun _ retain => by simp_all⟩

theorem Sound.established (sound : m.Sound) (hstage : m.state = .connecting) (link : L) :
    (m.established link).Sound where
  link := by simp
  heartbeat := by simp
  failure := fun _ => sound.failure (by simp [hstage])
  publishes := by
    intro role
    have side := sound.publishes role
    simp [side]
  watches := by
    intro role
    obtain ⟨received, resumeAt, side, -⟩ := sound.watches role
    exact ⟨received, resumeAt, by rw [established_side, side], by simp, by simp⟩

/-- What is received and where playback is do not matter to a machine that has not closed, as long
as nothing has been received before it opens. -/
theorem Sound.withSide (sound : m.Sound) (hstage : m.state ≠ .closed) {received : Reassembly}
    {resumeAt : Duration} (hrole : m.id.role = .watch)
    (hreceived : m.state = .connecting → received = .empty) :
    ({ m with side := .watch received resumeAt } : Machine L).Sound where
  link := sound.link
  heartbeat := sound.heartbeat
  failure := sound.failure
  publishes := by intro role; simp [hrole] at role
  watches := fun _ => ⟨received, resumeAt, rfl, hreceived, fun closed => absurd closed hstage⟩

theorem Sound.role_of_side (sound : m.Sound) {received : Reassembly} {resumeAt : Duration}
    (hside : m.side = .watch received resumeAt) : m.id.role = .watch := by
  cases role : m.id.role with
  | publish => simp [sound.publishes role] at hside
  | watch => rfl

theorem Outcome.sound {a : Answers} {r : Response L} {next : Machine L} {calls : List (Call L)}
    (h : Outcome m a r next calls) (sound : m.Sound) : next.Sound := by
  cases h with
  | ignored | discarded | overlooked | warned | heard | unrecorded | sent => exact sound
  | established hstage => exact sound.established hstage _
  | startRefused | failed | closed | refused => exact sound.ended _
  | received hstage hside =>
      exact sound.withSide (by simp [hstage]) (sound.role_of_side hside) (by simp [hstage])
  | recorded hstage hside =>
      refine sound.withSide hstage (sound.role_of_side hside) fun connecting => ?_
      obtain ⟨received, resumeAt, side, empty, -⟩ := sound.watches (sound.role_of_side hside)
      rw [hside] at side
      cases side
      exact empty connecting

/-- **A sound machine stays sound.** -/
theorem Sound.handle (sound : m.Sound) (a : Answers) (event : Event L) :
    (m.handle a event).1.Sound :=
  (sound.handle_outcome a event).sound sound

/-! ## What an outcome cannot do -/

namespace Outcome

variable {a : Answers} {r : Response L} {next : Machine L} {calls : List (Call L)}

/-- Identity, settings and observers of a session are never changed. -/
theorem unchanged (h : Outcome m a r next calls) :
    next.id = m.id ∧ next.settings = m.settings ∧ next.observers = m.observers := by
  cases h <;> exact ⟨rfl, rfl, rfl⟩

/-- A session does not go back to connecting. -/
theorem stage_connecting (h : Outcome m a r next calls) (hnext : next.state = .connecting) :
    m.state = .connecting := by
  cases h with
  | established | startRefused | failed | closed | refused => simp at hnext
  | _ => exact hnext

/-- A closed session stays as it is. -/
theorem eq_of_closed (h : Outcome m a r next calls) (hstage : m.state = .closed) : next = m := by
  cases h with
  | established connecting | startRefused connecting => simp [hstage] at connecting
  | failed unclosed | closed unclosed | recorded unclosed => exact absurd hstage unclosed
  | received opened | refused opened => simp [hstage] at opened
  | _ => rfl

theorem stage_closed (h : Outcome m a r next calls) (hstage : m.state = .closed) :
    next.state = .closed := by
  rw [h.eq_of_closed hstage, hstage]

/-- A session that is not connecting does not take up a connection. -/
theorem link_eq_some (h : Outcome m a r next calls) (hstage : m.state ≠ .connecting) {link : L}
    (hnext : next.link = some link) : m.link = some link := by
  cases h with
  | established connecting => exact absurd connecting hstage
  | startRefused | failed | closed | refused => simp at hnext
  | _ => exact hnext

end Outcome

end Machine

end Livecast
