import Livecast.Proofs.Session.History
import Livecast.Session.Task

/-!
# Schedules of the task of a session

While a session is connecting its task waits for its handshake and for posted events alike, and when
both are there it takes either.  What comes of that is not determined; what is determined is that
the session sees one event after the other.  This file says which sequences of events it can see.

## Main Definitions

* `Stimulus` - what can happen to the task: something is posted, the handshake gets its result, or
  the task takes one of the two
* `SessionTask.run` - a schedule is any list of stimuli
* `Intake`, `SessionTask.intakes` - the events that the task takes, and what each of them came to
* `SessionTask.Reaction` - what one stimulus can come to
* `SessionTask.Course` - what leads from the task of a new session to a task
* `Serial` - the law of the task

## Main Statements

* `SessionTask.handle_eq` - what taking an event does to the task
* `SessionTask.Course.history` - the turns of a task are a history of its machine
* `SessionTask.Course.queue` - what becomes of the events that are posted
* `SessionTask.Course.conduct` - what becomes of the handshake
* `SessionTask.Course.deadline` - a request to close is met in time
* `SessionTask.run_serial` - every schedule obeys the law

## Design Notes

A handshake that is `ready` is one that would give its result if it were asked now.  It gives the
result in the step in which the task takes it, and in no other: dropped before, it has not finished.
A stimulus that is not possible does nothing, so that all lists of stimuli are schedules.  Observers
post while an event is handled, the others at any time; both are posts between two steps of the
task, because the task does not look at its queue in the course of a step.
-/

namespace Livecast

variable {L : Type}

/-- What can happen to the task of a session. -/
inductive Stimulus (L : Type) where
  /-- Someone posts an event. -/
  | post (event : Event L)
  /-- The handshake gets its result. -/
  | conclude (result : Except SessionFailure L)
  /-- The task takes the result of the handshake. -/
  | takeHandshake (a : Answers)
  /-- The task takes the oldest posted event. -/
  | takeEvent (a : Answers)

/-- The event that a stimulus posts. -/
def Stimulus.posted? : Stimulus L → Option (Event L)
  | .post event => some event
  | _ => none

/-- The result that a stimulus gives to the handshake. -/
def Stimulus.verdict? : Stimulus L → Option (Except SessionFailure L)
  | .conclude result => some result
  | _ => none

/-- An event that the task of a session has taken. -/
structure Intake (L : Type) where
  /-- It is the result of the handshake; every other event was posted. -/
  fromHandshake : Bool
  /-- What the session did about it. -/
  turn : Turn L

/-- The event and the answers with which it met. -/
def Intake.input (i : Intake L) : Event L × Answers := (i.turn.event, i.turn.answers)

/-- The event, if it was posted. -/
def Intake.posted? (i : Intake L) : Option (Event L) :=
  if i.fromHandshake then none else some i.turn.event

/-- The event, if it is the result of the handshake. -/
def Intake.verdict? (i : Intake L) : Option (Event L) :=
  if i.fromHandshake then some i.turn.event else none

/-- With it the session left the connecting stage. -/
def Intake.departs (i : Intake L) : Bool :=
  i.turn.before = .connecting && i.turn.after ≠ .connecting

section

variable (m : Machine L) (event : Event L) (a : Answers)

@[simp] theorem Intake.posted?_turn (origin : Bool) :
    Intake.posted? ⟨origin, m.turn event a⟩ = if origin then none else some event := rfl

@[simp] theorem Intake.verdict?_turn (origin : Bool) :
    Intake.verdict? ⟨origin, m.turn event a⟩ = if origin then some event else none := rfl

@[simp] theorem Intake.departs_turn (origin : Bool) :
    Intake.departs ⟨origin, m.turn event a⟩ =
      (m.state = .connecting && (m.handle a event).1.state ≠ .connecting) := rfl

end

/-- The call that an activity is. -/
def Activity.call? : Activity L → Option (Call L)
  | .call c => some c
  | _ => none

/-- The activity is that the handshake is dropped. -/
def Activity.isDrop : Activity L → Bool
  | .handshakeDropped => true
  | _ => false

theorem Activity.filterMap_call?_call (calls : List (Call L)) :
    (calls.map Activity.call).filterMap Activity.call? = calls := by
  rw [List.filterMap_map]
  exact List.filterMap_some

@[simp] theorem Activity.filter_isDrop_handshakeDropped :
    [(.handshakeDropped : Activity L)].filter isDrop = [.handshakeDropped] := rfl

@[simp] theorem Activity.filter_isDrop_map_call (calls : List (Call L)) :
    (calls.map Activity.call).filter isDrop = [] := by
  simp [isDrop]

/-- The handshake can still give a result. -/
def Handshake.isOpen : Handshake L → Bool
  | .pending | .ready _ => true
  | .taken | .dropped => false

namespace SessionTask

/-- The result of the handshake as an event, if the session waits for it and it is there. -/
def result? (t : SessionTask L) : Option (Event L) :=
  match t.machine.state, t.handshake with
  | .connecting, .ready result => some (outcome result)
  | _, _ => none

/-- The oldest posted event, if the session has not closed and there is one. -/
def oldest? (t : SessionTask L) : Option (Event L) :=
  if t.machine.state = .closed then none else t.queue.items.head?

/-- The task without its oldest posted event. -/
def withoutOldest (t : SessionTask L) : SessionTask L :=
  { t with queue := { t.queue with items := t.queue.items.tail } }

theorem takeHandshake?_eq (t : SessionTask L) (a : Answers) :
    t.takeHandshake? a =
      t.result?.map fun event =>
        ({ t with handshake := .taken } : SessionTask L).handle a event := by
  unfold takeHandshake? result?
  cases stage : t.machine.state <;> cases shake : t.handshake <;> simp

theorem takeEvent?_eq (t : SessionTask L) (a : Answers) :
    t.takeEvent? a = t.oldest?.map fun event => t.withoutOldest.handle a event := by
  unfold takeEvent? oldest? withoutOldest Machine.isClosed
  cases stage : t.machine.state <;> cases items : t.queue.items <;> simp

@[simp] theorem post_machine (t : SessionTask L) (event : Event L) :
    (t.post event).machine = t.machine := rfl

@[simp] theorem post_handshake (t : SessionTask L) (event : Event L) :
    (t.post event).handshake = t.handshake := rfl

/-! ## Steps and schedules -/

/-- The handshake gets its result, unless it has one or is not waited for any more. -/
def conclude (t : SessionTask L) (result : Except SessionFailure L) : SessionTask L :=
  match t.handshake with
  | .pending => { t with handshake := .ready result }
  | _ => t

/-- What a stimulus does; a task that has nothing to take waits. -/
def step (t : SessionTask L) : Stimulus L → SessionTask L × List (Activity L)
  | .post event => (t.post event, [])
  | .conclude result => (t.conclude result, [])
  | .takeHandshake a => (t.takeHandshake? a).getD (t, [])
  | .takeEvent a => (t.takeEvent? a).getD (t, [])

/-- What the task takes with a stimulus. -/
def intake? (t : SessionTask L) : Stimulus L → Option (Intake L)
  | .takeHandshake a => t.result?.map fun event => ⟨true, t.machine.turn event a⟩
  | .takeEvent a => t.oldest?.map fun event => ⟨false, t.machine.turn event a⟩
  | _ => none

/-- What a schedule does. -/
def run (t : SessionTask L) : List (Stimulus L) → SessionTask L × List (Activity L)
  | [] => (t, [])
  | s :: rest =>
    let (next, did) := t.step s
    let (last, more) := next.run rest
    (last, did ++ more)

/-- What the task takes in the course of a schedule. -/
def intakes (t : SessionTask L) : List (Stimulus L) → List (Intake L)
  | [] => []
  | s :: rest => (t.intake? s).toList ++ (t.step s).1.intakes rest

/-- **What handling an event does to the task**: with the session its queue ends, and a handshake
that is no longer waited for is dropped. -/
theorem handle_eq (t : SessionTask L) (a : Answers) (event : Event L) :
    t.handle a event =
      ({ machine := (t.machine.handle a event).1
         queue := if (t.machine.handle a event).1.state = .closed then t.queue.dropReceiver
           else t.queue
         handshake := if (t.machine.handle a event).1.state ≠ .connecting ∧ t.handshake.isOpen
           then .dropped else t.handshake },
        (t.machine.handle a event).2.map .call ++
          if (t.machine.handle a event).1.state ≠ .connecting ∧ t.handshake.isOpen
          then [.handshakeDropped] else []) := by
  unfold handle settle Machine.isClosed
  cases stage : (t.machine.handle a event).1.state <;> cases shake : t.handshake <;>
    simp [stage, Handshake.isOpen]

/-! ## What a stimulus comes to -/

/-- **What a stimulus can come to** for a task `t`: what is taken, the task that results, and what
it has done. -/
inductive Reaction (t : SessionTask L) :
    Stimulus L → Option (Intake L) → SessionTask L → List (Activity L) → Prop where
  /-- An event is posted. -/
  | posted (event : Event L) : Reaction t (.post event) none (t.post event) []
  /-- The handshake has got its result. -/
  | concluded {result : Except SessionFailure L} (pending : t.handshake = .pending) :
      Reaction t (.conclude result) none { t with handshake := .ready result } []
  /-- The result of the handshake is taken. -/
  | tookResult {a : Answers} {result : Except SessionFailure L}
      (connecting : t.machine.state = .connecting) (ready : t.handshake = .ready result) :
      Reaction t (.takeHandshake a) (some ⟨true, t.machine.turn (outcome result) a⟩)
        { machine := (t.machine.handle a (outcome result)).1
          queue := if (t.machine.handle a (outcome result)).1.state = .closed
            then t.queue.dropReceiver else t.queue
          handshake := .taken }
        ((t.machine.handle a (outcome result)).2.map .call)
  /-- A posted event is taken. -/
  | tookEvent {a : Answers} {event : Event L} {rest : List (Event L)}
      (unclosed : t.machine.state ≠ .closed) (items : t.queue.items = event :: rest) :
      Reaction t (.takeEvent a) (some ⟨false, t.machine.turn event a⟩)
        { machine := (t.machine.handle a event).1
          queue := if (t.machine.handle a event).1.state = .closed
            then { t.queue with items := rest }.dropReceiver
            else { t.queue with items := rest }
          handshake := if (t.machine.handle a event).1.state ≠ .connecting ∧ t.handshake.isOpen
            then .dropped else t.handshake }
        ((t.machine.handle a event).2.map .call ++
          if (t.machine.handle a event).1.state ≠ .connecting ∧ t.handshake.isOpen
          then [.handshakeDropped] else [])
  /-- There is nothing to take, or nobody who waits for the result. -/
  | idle {s : Stimulus L} (quiet : s.posted? = none)
      (ignored : s.verdict? ≠ none → t.handshake ≠ .pending) : Reaction t s none t []

theorem reaction_conclude (t : SessionTask L) (result : Except SessionFailure L) :
    Reaction t (.conclude result) none (t.conclude result) [] := by
  unfold conclude
  split
  · next pending => exact .concluded pending
  · next other => exact .idle rfl fun _ => other

theorem reaction_takeHandshake (t : SessionTask L) (a : Answers) :
    Reaction t (.takeHandshake a) (t.intake? (.takeHandshake a)) (t.step (.takeHandshake a)).1
      (t.step (.takeHandshake a)).2 := by
  rw [step, takeHandshake?_eq, intake?]
  unfold result?
  split
  · next result connecting ready =>
      rw [Option.map_some, Option.map_some, Option.getD_some, handle_eq]
      -- a handshake that has been taken cannot be dropped any more
      simpa [Handshake.isOpen] using Reaction.tookResult (a := a) connecting ready
  · exact .idle rfl fun given => absurd rfl given

theorem reaction_takeEvent (t : SessionTask L) (a : Answers) :
    Reaction t (.takeEvent a) (t.intake? (.takeEvent a)) (t.step (.takeEvent a)).1
      (t.step (.takeEvent a)).2 := by
  rw [step, takeEvent?_eq, intake?]
  unfold oldest?
  split
  · exact .idle rfl fun given => absurd rfl given
  · next unclosed =>
      cases items : t.queue.items with
      | nil => exact .idle rfl fun given => absurd rfl given
      | cons event rest =>
          simp only [List.head?_cons, Option.map_some, Option.getD_some, handle_eq]
          simpa only [withoutOldest, items, List.tail_cons] using
            Reaction.tookEvent (a := a) unclosed items

/-- **Every stimulus comes to one of the reactions.** -/
theorem reaction (t : SessionTask L) (s : Stimulus L) :
    Reaction t s (t.intake? s) (t.step s).1 (t.step s).2 := by
  cases s with
  | post event => exact .posted event
  | conclude result => exact t.reaction_conclude result
  | takeHandshake a => exact t.reaction_takeHandshake a
  | takeEvent a => exact t.reaction_takeEvent a

/-- **The machine takes one event more or stays as it is**, and once closed it takes none. -/
theorem Reaction.machine {t next : SessionTask L} {s : Stimulus L} {intake : Option (Intake L)}
    {did : List (Activity L)} (now : Reaction t s intake next did) :
    (intake = none ∧ next.machine = t.machine) ∨
      ∃ origin event a, intake = some ⟨origin, t.machine.turn event a⟩ ∧
        next.machine = (t.machine.handle a event).1 ∧ t.machine.state ≠ .closed := by
  cases now with
  | posted | concluded | idle => exact .inl ⟨rfl, rfl⟩
  | tookResult connecting => exact .inr ⟨_, _, _, rfl, rfl, by simp [connecting]⟩
  | tookEvent unclosed => exact .inr ⟨_, _, _, rfl, rfl, unclosed⟩

/-! ## Courses -/

/-- The stimuli, the intakes and the activities that lead from the task of a new session to a task,
one stimulus at a time. -/
inductive Course (id : SessionIdentity) (settings : SessionPolicy) (observers : Nat) :
    List (Stimulus L) → List (Intake L) → List (Activity L) → SessionTask L → Prop where
  /-- Nothing has happened yet. -/
  | start : Course id settings observers [] [] [] (.start (.fresh id settings observers))
  /-- One more thing happens. -/
  | step {ss : List (Stimulus L)} {taken : List (Intake L)} {log : List (Activity L)}
      {t next : SessionTask L} {s : Stimulus L} {intake : Option (Intake L)}
      {did : List (Activity L)} (past : Course id settings observers ss taken log t)
      (now : Reaction t s intake next did) :
      Course id settings observers (ss ++ [s]) (taken ++ intake.toList) (log ++ did) next

variable {id : SessionIdentity} {settings : SessionPolicy} {observers : Nat}

theorem Course.run {ss : List (Stimulus L)} {taken : List (Intake L)} {log : List (Activity L)}
    {t : SessionTask L} (past : Course id settings observers ss taken log t)
    (more : List (Stimulus L)) :
    Course id settings observers (ss ++ more) (taken ++ t.intakes more) (log ++ (t.run more).2)
      (t.run more).1 := by
  induction more generalizing ss taken log t with
  | nil => simpa [intakes, SessionTask.run] using past
  | cons s rest ih =>
      have all := ih (past.step (t.reaction s))
      rw [List.append_assoc, List.append_assoc, List.append_assoc] at all
      exact all

/-- Every schedule of a new session is a course. -/
theorem course_run (id : SessionIdentity) (settings : SessionPolicy) (observers : Nat)
    (ss : List (Stimulus L)) :
    Course id settings observers ss ((start (.fresh id settings observers)).intakes ss)
      ((start (.fresh id settings observers)).run ss).2
      ((start (.fresh id settings observers)).run ss).1 :=
  Course.start.run ss

namespace Course

variable {ss : List (Stimulus L)} {taken : List (Intake L)} {log : List (Activity L)}
  {t : SessionTask L}

/-- **The turns of a task are a history of its machine.** -/
theorem history (h : Course id settings observers ss taken log t) :
    Machine.History id settings observers (taken.map Intake.turn) t.machine := by
  induction h with
  | start => exact .fresh
  | step past now ih =>
      rcases now.machine with ⟨rfl, same⟩ | ⟨origin, event, a, rfl, after, -⟩
      · simpa [same] using ih
      · rw [after, List.map_append]
        exact ih.turn event a

/-- The task calls the collaborators as its machine says, and in this order. -/
theorem calls (h : Course id settings observers ss taken log t) :
    log.filterMap Activity.call? = Turn.log (taken.map Intake.turn) := by
  induction h with
  | start => rfl
  | step past now ih =>
      rw [List.filterMap_append, List.map_append, Turn.log_append, ih]
      cases now with
      | tookResult => simp [Machine.turn, Activity.filterMap_call?_call, -List.filterMap_map]
      | tookEvent =>
          rw [List.filterMap_append, Activity.filterMap_call?_call]
          split <;> simp [Machine.turn, Activity.call?]
      | _ => rfl

theorem before_ne_closed (h : Course id settings observers ss taken log t) :
    ∀ i ∈ taken, i.turn.before ≠ .closed := by
  induction h with
  | start => simp
  | step past now ih =>
      intro i hi
      rcases List.mem_append.mp hi with hi | hi
      · exact ih i hi
      · rcases now.machine with ⟨rfl, -⟩ | ⟨origin, event, a, rfl, -, unclosed⟩
        · simp at hi
        · obtain rfl := List.mem_singleton.mp hi
          exact unclosed

/-- **Posted events are taken in order**, none is lost while the session has not closed, and as long
as that is so the session listens. -/
theorem queue (h : Course id settings observers ss taken log t) :
    ∃ left, ss.filterMap Stimulus.posted? = taken.filterMap Intake.posted? ++ left ∧
      (t.machine.state ≠ .closed → t.queue.accepts = true ∧ t.queue.items = left) := by
  induction h with
  | start => exact ⟨[], rfl, fun _ => ⟨rfl, rfl⟩⟩
  | @step ss taken log t next s intake did past now ih =>
      obtain ⟨left, all, open'⟩ := ih
      rw [List.filterMap_append, List.filterMap_append, all]
      cases now with
      | posted event =>
          refine ⟨left ++ [event], by simp [Stimulus.posted?], fun unclosed => ?_⟩
          obtain ⟨listens, items⟩ := open' unclosed
          rw [post, Mailbox.send, if_pos listens, items]
          exact ⟨listens, rfl⟩
      | concluded => exact ⟨left, by simp [Stimulus.posted?], open'⟩
      | idle quiet => exact ⟨left, by simp [quiet], open'⟩
      | tookResult connecting =>
          refine ⟨left, by simp [Stimulus.posted?], fun unclosed => ?_⟩
          rw [if_neg unclosed]
          exact open' (by simp [connecting])
      | @tookEvent a event rest unclosed items =>
          obtain ⟨listens, rfl⟩ := open' unclosed
          refine ⟨rest, by simp [Stimulus.posted?, items], fun later => ?_⟩
          rw [if_neg later]
          exact ⟨listens, rfl⟩

/-! ## The handshake -/

/-- **The four stages of a handshake**: the result that it has got, the events with which the
session has left the connecting stage, the results that were taken, and how often it was dropped. -/
inductive Conduct : Option (Except SessionFailure L) → List (Intake L) → List (Event L) → Nat →
    SessionStage → Handshake L → Prop where
  /-- It is under way. -/
  | pending : Conduct none [] [] 0 .connecting .pending
  /-- Its result waits to be taken. -/
  | ready (result : Except SessionFailure L) :
      Conduct (some result) [] [] 0 .connecting (.ready result)
  /-- Its result was taken, and the session has left the connecting stage with it. -/
  | taken {result : Except SessionFailure L} {i : Intake L} {stage : SessionStage}
      (left : stage ≠ .connecting) (origin : i.fromHandshake = true) :
      Conduct (some result) [i] [outcome result] 0 stage .taken
  /-- It was dropped, because the session has left the connecting stage with a posted event. -/
  | dropped {verdict : Option (Except SessionFailure L)} {i : Intake L} {stage : SessionStage}
      (left : stage ≠ .connecting) (origin : i.fromHandshake = false) :
      Conduct verdict [i] [] 1 stage .dropped

/-- Once the session has left the connecting stage it does not matter how far it is. -/
theorem Conduct.later {verdict : Option (Except SessionFailure L)} {left : List (Intake L)}
    {results : List (Event L)} {drops : Nat} {before after : SessionStage} {shake : Handshake L}
    (h : Conduct verdict left results drops before shake) (hbefore : before ≠ .connecting)
    (hafter : after ≠ .connecting) : Conduct verdict left results drops after shake := by
  cases h with
  | pending | ready => exact absurd rfl hbefore
  | taken _ origin => exact .taken hafter origin
  | dropped _ origin => exact .dropped hafter origin

theorem state_handle_outcome_ne {m : Machine L} (sound : m.Sound) (hstage : m.state = .connecting)
    (a : Answers) (result : Except SessionFailure L) :
    (m.handle a (outcome result)).1.state ≠ .connecting := by
  have came := sound.handle_outcome a (outcome result)
  generalize (m.handle a (outcome result)).1 = next, (m.handle a (outcome result)).2 = calls at came
  rw [hstage] at came
  cases result with
  | ok link => cases came <;> simp
  | error e => cases came; simp

theorem state_eq_of_handle {m : Machine L} (sound : m.Sound) {a : Answers} {event : Event L}
    (hnext : (m.handle a event).1.state = .connecting) : m.state = .connecting :=
  (sound.handle_outcome a event).stage_connecting hnext

/-- **Every reaction keeps to the four stages.** -/
theorem Conduct.reaction {verdict : Option (Except SessionFailure L)} {left : List (Intake L)}
    {results : List (Event L)} {drops : Nat} {t next : SessionTask L} {s : Stimulus L}
    {intake : Option (Intake L)} {did : List (Activity L)}
    (before : Conduct verdict left results drops t.machine.state t.handshake)
    (sound : t.machine.Sound) (now : Reaction t s intake next did) :
    Conduct (verdict.or s.verdict?) (left ++ intake.toList.filter Intake.departs)
      (results ++ intake.toList.filterMap Intake.verdict?)
      (drops + (did.filter Activity.isDrop).length) next.machine.state next.handshake := by
  cases now with
  | posted event => simpa [Stimulus.verdict?] using before
  | concluded pending =>
      rw [pending] at before
      generalize t.machine.state = stage at before
      cases before
      exact .ready _
  | @tookResult a result connecting ready =>
      have departed := state_handle_outcome_ne sound connecting a result
      rw [connecting, ready] at before
      cases before
      have taken : Conduct (some result) [⟨true, t.machine.turn (outcome result) a⟩]
          [outcome result] 0 _ .taken := .taken departed rfl
      simpa [connecting, departed, Stimulus.verdict?] using taken
  | @tookEvent a event rest unclosed items =>
      by_cases waiting : (t.machine.handle a event).1.state = .connecting
      · -- the session waits for its handshake as before
        rw [state_eq_of_handle sound waiting] at before
        simpa [waiting, Stimulus.verdict?] using before
      · by_cases connecting : t.machine.state = .connecting
        · -- the session leaves the connecting stage with this event
          generalize t.handshake = shake at before
          rw [connecting] at before
          cases before with
          | pending | ready =>
              simpa [connecting, waiting, Stimulus.verdict?, Handshake.isOpen] using
                Conduct.dropped waiting (i := ⟨false, t.machine.turn event a⟩) rfl
          | taken gone | dropped gone => exact absurd rfl gone
        · -- the session has left it before, and the handshake is not waited for any more
          have parted : t.handshake.isOpen = false := by
            generalize t.handshake = shake at before
            generalize t.machine.state = stage at before connecting
            cases before with
            | pending | ready => exact absurd rfl connecting
            | taken | dropped => rfl
          have kept := before.later connecting waiting
          simpa [connecting, parted, Stimulus.verdict?] using kept
  | idle quiet ignored =>
      cases given : s.verdict? with
      | none => simpa using before
      | some result =>
          have gone := ignored (by simp [given])
          generalize t.handshake = shake at before gone
          generalize t.machine.state = stage at before
          cases before with
          | pending => exact absurd rfl gone
          | ready => simpa using .ready _
          | taken left origin => simpa using .taken left origin
          | dropped left origin => simpa using .dropped left origin

/-- **The handshake of a task keeps to the four stages.** -/
theorem conduct (h : Course id settings observers ss taken log t) :
    Conduct (ss.findSome? Stimulus.verdict?) (taken.filter Intake.departs)
      (taken.filterMap Intake.verdict?) (log.filter Activity.isDrop).length t.machine.state
      t.handshake := by
  induction h with
  | start => exact .pending
  | @step ss taken log t next s intake did past now ih =>
      have more := ih.reaction past.history.sound now
      rw [List.findSome?_append, List.filter_append, List.filterMap_append, List.filter_append,
        List.length_append]
      cases given : s.verdict? <;> simpa [given] using more

theorem state_handle_closeRequested {m : Machine L} (sound : m.Sound) (a : Answers) :
    (m.handle a .closeRequested).1.state = .closed := by
  have came := sound.handle_outcome a .closeRequested
  generalize (m.handle a .closeRequested).1 = next, (m.handle a .closeRequested).2 = calls at came
  cases stage : m.state with
  | closed => exact came.stage_closed stage
  | _ => rw [stage] at came; cases came; rfl

/-- **A request to close is the last event that the session takes**, and closes it. -/
theorem closing (h : Course id settings observers ss taken log t) {front rest : List (Intake L)}
    {i : Intake L} (split : taken = front ++ i :: rest) (asked : i.turn.event = .closeRequested) :
    rest = [] ∧ t.machine.state = .closed := by
  induction h generalizing rest with
  | start => simp at split
  | @step ss taken log t next s intake did past now ih =>
      rcases now.machine with ⟨rfl, same⟩ | ⟨origin, event, a, rfl, after, unclosed⟩
      · rw [same]
        exact ih (by simpa using split)
      · rw [Option.toList_some] at split
        rcases List.eq_nil_or_concat rest with rfl | ⟨earlier, last, rfl⟩
        · obtain ⟨-, rfl⟩ := List.append_singleton_inj.mp split
          obtain rfl : event = .closeRequested := asked
          exact ⟨rfl, by rw [after, state_handle_closeRequested past.history.sound]⟩
        · rw [List.concat_eq_append, ← List.cons_append, ← List.append_assoc] at split
          exact absurd (ih (List.append_singleton_inj.mp split).1).2 unclosed

/-- **A request to close is met in time**: of the events posted after it none is taken, and unless
the session has closed no more are taken than were posted before it. -/
theorem deadline (h : Course id settings observers ss taken log t) {early late : List (Event L)}
    (asked : ss.filterMap Stimulus.posted? = early ++ .closeRequested :: late) :
    (taken.filterMap Intake.posted?).length ≤ early.length + 1 ∧
      (t.machine.state ≠ .closed → (taken.filterMap Intake.posted?).length ≤ early.length) := by
  obtain ⟨left, all, -⟩ := h.queue
  rcases Nat.lt_or_ge early.length (taken.filterMap Intake.posted?).length with more | few
  · -- the request itself is among the events that were taken
    have upTo : early ++ [.closeRequested] <+: early ++ .closeRequested :: late := ⟨late, by simp⟩
    have met : taken.filterMap Intake.posted? <+: early ++ .closeRequested :: late :=
      ⟨left, by rw [← all, asked]⟩
    obtain ⟨rest, met⟩ := List.prefix_of_prefix_length_le upTo met
      (by simpa using Nat.succ_le_of_lt more)
    rw [List.append_assoc, List.singleton_append] at met
    obtain ⟨before, after, rfl, -, hafter⟩ := List.filterMap_eq_append_iff.mp met.symm
    obtain ⟨quiet, i, later, rfl, -, hi, hlater⟩ := List.filterMap_eq_cons_iff.mp hafter
    have event : i.turn.event = .closeRequested := by
      unfold Intake.posted? at hi
      split at hi
      · simp at hi
      · exact Option.some.inj hi
    have split : before ++ (quiet ++ i :: later) = (before ++ quiet) ++ i :: later := by simp
    obtain ⟨rfl, closed⟩ := h.closing split event
    rw [List.filterMap_nil] at hlater
    rw [← met, ← hlater]
    exact ⟨by simp, fun unclosed => absurd closed unclosed⟩
  · exact ⟨by omega, fun _ => few⟩

end Course

end SessionTask

/-! ## The law -/

open SessionTask

/-- **The law of a task** that begins with the machine `m` and goes through the schedule `ss`: what
it takes, what it does and what becomes of it. -/
structure Serial (m : Machine L) (ss : List (Stimulus L)) (taken : List (Intake L))
    (log : List (Activity L)) (t : SessionTask L) : Prop where
  /-- The events are handled one after the other. -/
  turns : taken.map Intake.turn = m.turns (taken.map Intake.input)
  /-- What becomes of the machine is what handling them makes of it. -/
  machine : t.machine = (m.run (taken.map Intake.input)).1
  /-- The collaborators are called as handling them calls them. -/
  calls : log.filterMap Activity.call? = (m.run (taken.map Intake.input)).2
  /-- The task ends exactly when the session has closed, and then with its report. -/
  report : ∀ summary, t.report? = some summary ↔
    (m.run (taken.map Intake.input)).1.state = .closed ∧
      summary = (m.run (taken.map Intake.input)).1.report
  /-- Posted events are taken in the order in which they were posted. -/
  posted : taken.filterMap Intake.posted? <+: ss.filterMap Stimulus.posted?
  /-- Besides them at most one event is taken, the result that the handshake got first. -/
  results : taken.filterMap Intake.verdict? <+: (ss.findSome? Stimulus.verdict?).toList.map outcome
  /-- Nothing is taken after the event that closes the session. -/
  cut : ∀ i ∈ taken, i.turn.before ≠ .closed
  /-- Until the session has closed it listens, and what was posted is taken or can still be
  taken. -/
  waiting : t.machine.state ≠ .closed → t.queue.accepts = true ∧
    ss.filterMap Stimulus.posted? = taken.filterMap Intake.posted? ++ t.queue.items ∧
      ∀ a, (t.takeEvent? a).isSome ↔ t.queue.items ≠ []
  /-- If a request to close is posted, the session closes with it or before; as long as it has not,
  there is an event to take. -/
  closing : ∀ early late, ss.filterMap Stimulus.posted? = early ++ .closeRequested :: late →
    (taken.filterMap Intake.posted?).length ≤ early.length + 1 ∧
      (t.machine.state ≠ .closed → (taken.filterMap Intake.posted?).length ≤ early.length ∧
        ∀ a, (t.takeEvent? a).isSome)
  /-- The handshake is dropped exactly when a posted event takes the session out of the connecting
  stage. -/
  dropped : .handshakeDropped ∈ log ↔ ∃ i ∈ taken, i.fromHandshake = false ∧ i.departs = true
  /-- It is dropped at most once. -/
  dropped_once : (log.filter Activity.isDrop).length ≤ 1
  /-- A handshake that has given its result has given it to the machine. -/
  handed : t.handshake = .taken ↔ taken.filterMap Intake.verdict? ≠ []
  /-- A handshake that could give its result is one that the session waits for. -/
  awaited : ∀ result, t.handshake = .ready result → t.machine.state = .connecting
  /-- As long as the session is connecting, and no longer, a result that the handshake has got can
  be taken. -/
  answered : ∀ a, (t.takeHandshake? a).isSome ↔
    t.machine.state = .connecting ∧ (ss.findSome? Stimulus.verdict?).isSome

namespace SessionTask

variable {id : SessionIdentity} {settings : SessionPolicy} {observers : Nat}
  {ss : List (Stimulus L)} {taken : List (Intake L)} {log : List (Activity L)} {t : SessionTask L}

theorem report?_eq_some (t : SessionTask L) (summary : SessionSummary) :
    t.report? = some summary ↔ t.machine.state = .closed ∧ summary = t.machine.report := by
  simp [report?, isFinished, Machine.isClosed, eq_comm]

theorem isSome_takeEvent? (t : SessionTask L) (unclosed : t.machine.state ≠ .closed) (a : Answers) :
    (t.takeEvent? a).isSome ↔ t.queue.items ≠ [] := by
  rw [takeEvent?_eq, Option.isSome_map, oldest?, if_neg unclosed, List.isSome_head?]

theorem isSome_takeHandshake? (t : SessionTask L) (a : Answers) : (t.takeHandshake? a).isSome ↔
    t.machine.state = .connecting ∧ ∃ result, t.handshake = .ready result := by
  rw [takeHandshake?_eq, Option.isSome_map, result?]
  cases t.machine.state <;> cases t.handshake <;> simp

theorem handshakeDropped_mem (log : List (Activity L)) :
    .handshakeDropped ∈ log ↔ 0 < (log.filter Activity.isDrop).length := by
  rw [List.length_pos_iff_exists_mem]
  refine ⟨fun h => ⟨_, List.mem_filter.mpr ⟨h, rfl⟩⟩, fun ⟨x, h⟩ => ?_⟩
  obtain ⟨hx, hdrop⟩ := List.mem_filter.mp h
  cases x with
  | handshakeDropped => exact hx
  | _ => simp [Activity.isDrop] at hdrop

namespace Course

section

variable {verdict : Option (Except SessionFailure L)} {left : List (Intake L)}
  {results : List (Event L)} {drops : Nat} {stage : SessionStage} {shake : Handshake L}

/-- The handshake is dropped if the session leaves the connecting stage without its result. -/
theorem Conduct.drops_pos (h : Conduct verdict left results drops stage shake) :
    0 < drops ↔ ∃ i ∈ left, i.fromHandshake = false := by
  cases h with
  | pending | ready => simp
  | taken _ origin | dropped _ origin => simp [origin]

theorem Conduct.drops_le_one (h : Conduct verdict left results drops stage shake) : drops ≤ 1 := by
  cases h <;> simp

theorem Conduct.results_prefix (h : Conduct verdict left results drops stage shake) :
    results <+: verdict.toList.map outcome := by
  cases h <;> simp

theorem Conduct.eq_taken_iff (h : Conduct verdict left results drops stage shake) :
    shake = .taken ↔ results ≠ [] := by
  cases h <;> simp

/-- What the handshake has got waits for a session that is connecting. -/
theorem Conduct.exists_ready_iff (h : Conduct verdict left results drops .connecting shake) :
    (∃ result, shake = .ready result) ↔ verdict.isSome := by
  cases h with
  | pending | ready => simp
  | taken stage | dropped stage => exact absurd rfl stage

theorem Conduct.stage_of_ready {result : Except SessionFailure L}
    (h : Conduct verdict left results drops stage (.ready result)) : stage = .connecting := by
  cases h
  rfl

end

theorem serial (h : Course id settings observers ss taken log t) :
    Serial (.fresh id settings observers) ss taken log t := by
  obtain ⟨turns, machine⟩ := h.history.replay
  obtain ⟨left, all, open'⟩ := h.queue
  rw [List.map_map] at turns machine
  exact {
    turns := turns.symm
    machine := machine.symm
    calls := by
      rw [h.calls, ← turns, Machine.log_turns]
      rfl
    report := by
      intro summary
      rw [t.report?_eq_some, ← machine]
      rfl
    posted := ⟨left, all.symm⟩
    results := h.conduct.results_prefix
    cut := h.before_ne_closed
    waiting := fun unclosed => by
      obtain ⟨listens, rfl⟩ := open' unclosed
      exact ⟨listens, all, t.isSome_takeEvent? unclosed⟩
    closing := fun early late asked => by
      obtain ⟨met, before⟩ := h.deadline asked
      refine ⟨met, fun unclosed => ⟨before unclosed, fun a => ?_⟩⟩
      obtain ⟨-, rfl⟩ := open' unclosed
      rw [t.isSome_takeEvent? unclosed]
      intro empty
      have short := before unclosed
      -- with nothing left the request itself would have been taken
      rw [empty, List.append_nil, asked] at all
      rw [← all, List.length_append, List.length_cons] at short
      omega
    dropped := by
      rw [handshakeDropped_mem, h.conduct.drops_pos]
      simp only [List.mem_filter, and_assoc, and_comm (a := Intake.departs _ = true)]
    dropped_once := h.conduct.drops_le_one
    handed := h.conduct.eq_taken_iff
    awaited := fun result ready => (ready ▸ h.conduct).stage_of_ready
    answered := fun a => by
      rw [t.isSome_takeHandshake?]
      refine and_congr_right fun connecting => ?_
      have waiting := h.conduct
      rw [connecting] at waiting
      exact waiting.exists_ready_iff }

end Course

/-- **Every schedule of a new session obeys the law of its task.** -/
theorem run_serial (id : SessionIdentity) (settings : SessionPolicy) (observers : Nat)
    (ss : List (Stimulus L)) :
    Serial (.fresh id settings observers) ss ((start (.fresh id settings observers)).intakes ss)
      ((start (.fresh id settings observers)).run ss).2
      ((start (.fresh id settings observers)).run ss).1 :=
  (course_run id settings observers ss).serial

end SessionTask

end Livecast
