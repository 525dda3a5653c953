import Livecast.Proofs.Capture.Supply
import Livecast.Proofs.Session.Schedule
import Livecast.Proofs.Session.Teardown
import Livecast.Session.Ensemble

/-!
# Interleavings of a session and its surroundings

The tasks around a session do their steps in any order, and between two steps anything can arrive
from outside.  Each of these is an incident, and a run is any list of incidents: no clock and no
fairness restrict it.

## Main Definitions

* `Wish`, `Wishes`, `Outside` - what callers, observers, connections and timers post
* `Incident`, `Ensemble.undergo` - what can happen next, and what it does
* `Ensemble.run`, `Ensemble.turns` - a run, and what the session did in its course

## Main Statements

* `Ensemble.follow_task`, `Ensemble.follow_line`, `Ensemble.follow_log` - how the surroundings
  follow a step of the session
* `Ensemble.taking`, `Ensemble.aside` - what an incident comes to, with an event of the session and
  without one
* `Ensemble.history_run` - unless its connection is cut off, what a session does is a history

## Design Notes

A timer fires when an incident says so, be it due or not, and the clock shows whatever it is told to
show.  Runs on a clock are some of these runs.
-/

namespace Livecast

/-! ## What is posted from outside -/

/-- What those who hold the controller of a session can ask for, observers among them. -/
inductive Wish where
  /-- The session is to be closed. -/
  | close
  /-- A signal is to be sent. -/
  | signal (s : Signal)
  /-- Playback has reached this position. -/
  | progress (position : Duration)

/-- The event that a wish is. -/
def Wish.event {L : Type} : Wish → Event L
  | .close => .closeRequested
  | .signal s => .sendSignal s
  | .progress position => .progress position

/-- What an observer asks for when it is told something. -/
structure Wishes where
  /-- When the session has opened. -/
  opened : List Wish
  /-- When there is a failure. -/
  error : List Wish
  /-- When the session has closed. -/
  closed : List Wish

/-- Everything that an observer asks for. -/
def Wishes.all (w : Wishes) : List Wish := w.opened ++ w.error ++ w.closed

/-- The events that an observer with these wishes posts. -/
def Wishes.reactions (w : Wishes) : Reactions where
  opened := w.opened.map Wish.event
  error := w.error.map Wish.event
  closed := w.closed.map Wish.event

/-- What is posted from outside: by callers, by the connection and by the timer of the heartbeat. -/
inductive Outside where
  /-- A caller wants something. -/
  | wish (w : Wish)
  /-- A frame has arrived. -/
  | message (frame : Frame)
  /-- The connection reports an error. -/
  | errored (reason : String)
  /-- The other side has closed the connection. -/
  | closed
  /-- A heartbeat period has passed. -/
  | beat

/-- The event that is posted. -/
def Outside.event {L : Type} : Outside → Event L
  | .wish w => w.event
  | .message frame => .message frame
  | .errored reason => .errored reason
  | .closed => .closed
  | .beat => .heartbeatTick

/-! ## Incidents -/

/-- What can happen to a session and its surroundings. -/
inductive Incident where
  /-- A task does a step. -/
  | move (m : Ensemble.Move)
  /-- The session takes a posted event although the handshake could give its result. -/
  | overtake
  /-- The handshake gets its result. -/
  | conclude (result : Except SessionFailure MeteredLink)
  /-- Someone outside posts something. -/
  | post (o : Outside)
  /-- The connection refuses frames from now on. -/
  | cutOff (refusal : SessionFailure)
  /-- The clock shows this time. -/
  | clock (now : Nat)
  /-- The timer of the producer fires, if it is due. -/
  | cut
  /-- Something arrives on the byte stream that the source reads. -/
  | arrive (arrival : Arrival)
  /-- The byte stream ends. -/
  | exhaust

/-- The incident cuts the connection off. -/
def Incident.isCutOff : Incident → Bool
  | .cutOff _ => true
  | _ => false

/-- What the writer of the byte stream does with an incident. -/
def Incident.feeds : Incident → List Feed
  | .arrive arrival => [.write arrival]
  | .exhaust => [.finish]
  | _ => []

namespace Ensemble

/-- What an incident does; a task that has to wait does nothing. -/
def undergo (r : Ensemble) : Incident → Ensemble
  | .move m => (r.step? m).getD r
  | .overtake => r.takeEvent?.getD r
  | .conclude result => (r.conclude result).1
  | .post o => r.post o.event
  | .cutOff refusal => r.cutOff refusal
  | .clock now => { r with now := now }
  | .cut => { r with line := r.line.fire r.now }
  | .arrive arrival => (r.feed (·.write arrival) Pipe.accepts).1
  | .exhaust => (r.feed Pipe.finish Pipe.accepts).1

/-- What a list of incidents does. -/
def run (r : Ensemble) (is : List Incident) : Ensemble := is.foldl undergo r

@[simp] theorem run_nil (r : Ensemble) : r.run [] = r := rfl

@[simp] theorem run_cons (r : Ensemble) (i : Incident) (is : List Incident) :
    r.run (i :: is) = (r.undergo i).run is := rfl

/-- The event that the session takes with an incident, if it takes one. -/
def taken? (r : Ensemble) : Incident → Option (Event MeteredLink)
  | .move .take => if r.driven then r.task.result?.or r.task.oldest? else none
  | .overtake => r.task.oldest?
  | _ => none

/-- What the session does about an incident. -/
def turn? (r : Ensemble) (i : Incident) : Option (Turn MeteredLink) :=
  (r.taken? i).map fun event => r.task.machine.turn event r.answers

/-- What the session does in the course of a run. -/
def turns (r : Ensemble) : List Incident → List (Turn MeteredLink)
  | [] => []
  | i :: rest => (r.turn? i).toList ++ (r.undergo i).turns rest

end Ensemble

/-! ## How the surroundings follow the session -/

/-- What an activity asks of the source. -/
def Activity.source? {L : Type} : Activity L → Option SourceCall
  | .call c => c.source?
  | _ => none

@[simp] theorem Activity.filterMap_source?_call {L : Type} (calls : List (Call L)) :
    (calls.map Activity.call).filterMap Activity.source? = sources calls := by
  rw [List.filterMap_map]
  rfl

@[simp] theorem Activity.filterMap_source?_handshakeDropped {L : Type} :
    [(.handshakeDropped : Activity L)].filterMap Activity.source? = [] := rfl

/-- What an activity makes of the player. -/
def Activity.played {L : Type} : Activity L → Recorder → Recorder
  | .call (.presented update) => (Recorder.present · update.chunk)
  | .call .playerReleased => Recorder.release
  | _ => id

theorem CaptureLine.queue_forward? {L : Type} {l next : CaptureLine}
    {queue queue' : Mailbox (Event L)} (h : l.forward? queue = some (next, queue')) :
    ∃ report, queue' = queue.sendAll (forward report).1.toList := by
  unfold forward? at h
  split at h
  · obtain ⟨⟨report, rest⟩, -, posted⟩ := Option.map_eq_some_iff.mp h
    exact ⟨report, (congrArg Prod.snd posted).symm⟩
  · simp at h

theorem SessionTask.items_eq_cons {L : Type} {t : SessionTask L} {event : Event L}
    (h : t.oldest? = some event) : event :: t.queue.items.tail = t.queue.items := by
  unfold oldest? at h
  split at h
  · simp at h
  · obtain ⟨rest, items⟩ := List.head?_eq_some_iff.mp h
    rw [items, List.tail_cons]

namespace Ensemble

/-- What the observers post about an activity. -/
def echo (r : Ensemble) : Activity MeteredLink → List (Event MeteredLink)
  | .call (.toldOpened i) => ((r.observers[i]?).join.map Reactions.opened).getD []
  | .call (.toldError i _) => ((r.observers[i]?).join.map Reactions.error).getD []
  | .call (.toldClosed i) => ((r.observers[i]?).join.map Reactions.closed).getD []
  | _ => []

/-- Observers who have wishes post nothing else. -/
theorem echo_wishes {r : Ensemble} {observers : List (Option Wishes)}
    (h : r.observers = observers.map (Option.map Wishes.reactions))
    (activity : Activity MeteredLink) : ∃ wishes : List Wish,
      r.echo activity = wishes.map Wish.event ∧
        ∀ w ∈ wishes, ∃ o, some o ∈ observers ∧ w ∈ o.all := by
  have chosen (i : Nat) (choose : Reactions → List (Event MeteredLink))
      (wanted : Wishes → List Wish) (part : ∀ o : Wishes, wanted o ⊆ o.all)
      (same : ∀ o : Wishes, choose o.reactions = (wanted o).map Wish.event) :
      ∃ wishes : List Wish,
        ((r.observers[i]?).join.map choose).getD [] = wishes.map Wish.event ∧
          ∀ w ∈ wishes, ∃ o, some o ∈ observers ∧ w ∈ o.all := by
    rw [h, List.getElem?_map]
    rcases found : observers[i]? with _ | _ | o
    · exact ⟨[], rfl, by simp⟩
    · exact ⟨[], rfl, by simp⟩
    · exact ⟨wanted o, same o, fun w hw => ⟨o, List.mem_of_getElem? found, part o hw⟩⟩
  rcases activity with url | _ | c
  case call =>
    cases c with
    | toldOpened i => exact chosen i _ Wishes.opened (by simp [Wishes.all]) fun _ => rfl
    | toldError i => exact chosen i _ Wishes.error (by simp [Wishes.all]) fun _ => rfl
    | toldClosed i => exact chosen i _ Wishes.closed (by simp [Wishes.all]) fun _ => rfl
    | _ => exact ⟨[], rfl, by simp⟩
  all_goals exact ⟨[], rfl, by simp⟩

theorem foldl_post (r : Ensemble) (events : List (Event MeteredLink)) :
    events.foldl post r =
      { r with task := { r.task with queue := r.task.queue.sendAll events } } := by
  induction events generalizing r with
  | nil => rfl
  | cons e rest ih => rw [List.foldl_cons, ih]; rfl

theorem react_eq (r : Ensemble) (i : Nat) (choose : Reactions → List (Event MeteredLink)) :
    r.react i choose = { r with task := { r.task with
      queue := r.task.queue.sendAll (((r.observers[i]?).join.map choose).getD []) } } := by
  unfold react
  cases (r.observers[i]?).join with
  | none => rfl
  | some reactions => exact r.foldl_post (choose reactions)

/-- What an activity leaves alone: the observers, the clock, and who drives the session. -/
theorem note_observers (r : Ensemble) (activity : Activity MeteredLink) :
    (r.note activity).observers = r.observers ∧ (r.note activity).now = r.now ∧
      (r.note activity).driven = r.driven := by
  rcases activity with url | _ | c
  case call => cases c <;> simp [note, perform, react_eq]
  all_goals exact ⟨rfl, rfl, rfl⟩

theorem note_task (r : Ensemble) (activity : Activity MeteredLink) :
    (r.note activity).task =
      { r.task with queue := r.task.queue.sendAll (r.echo activity) } := by
  rcases activity with url | _ | c
  case call =>
    cases c with
    | toldOpened | toldError | toldClosed => simp only [note, perform, react_eq]; rfl
    | _ => rfl
  all_goals rfl

theorem note_line (r : Ensemble) (activity : Activity MeteredLink) :
    (r.note activity).line =
      activity.source?.toList.foldl (fun l call => l.perform r.now call) r.line := by
  rcases activity with url | _ | c
  case call =>
    cases c with
    | toldOpened | toldError | toldClosed => simp only [note, perform, react_eq]; rfl
    | _ => rfl
  all_goals rfl

theorem note_log (r : Ensemble) (activity : Activity MeteredLink) :
    (r.note activity).log = r.log ++ [activity] := by
  rcases activity with url | _ | c
  case call => cases c <;> simp [note, perform, react_eq]
  all_goals rfl

theorem note_file (r : Ensemble) (activity : Activity MeteredLink) :
    (r.note activity).file = r.file.map activity.played := by
  rcases activity with url | _ | c
  case call =>
    cases c with
    | presented | playerReleased => rfl
    | toldOpened | toldError | toldClosed => simp [note, perform, react_eq, Activity.played]
    | _ => exact Option.map_id'.symm
  all_goals exact Option.map_id'.symm

theorem foldl_note_observers (r : Ensemble) (did : List (Activity MeteredLink)) :
    (did.foldl note r).observers = r.observers ∧ (did.foldl note r).now = r.now ∧
      (did.foldl note r).driven = r.driven := by
  induction did generalizing r with
  | nil => exact ⟨rfl, rfl, rfl⟩
  | cons activity rest ih =>
      obtain ⟨observers, now, driven⟩ := r.note_observers activity
      rw [List.foldl_cons, ← observers, ← now, ← driven]
      exact ih _

theorem note_heartbeat (r : Ensemble) (activity : Activity MeteredLink) :
    (r.note activity).heartbeat = r.heartbeat := by
  rcases activity with url | _ | c
  case call => cases c <;> simp [note, perform, react_eq]
  all_goals rfl

theorem foldl_note_heartbeat (r : Ensemble) (did : List (Activity MeteredLink)) :
    (did.foldl note r).heartbeat = r.heartbeat := by
  induction did generalizing r with
  | nil => rfl
  | cons activity rest ih => rw [List.foldl_cons, ih, note_heartbeat]

theorem foldl_note_log (r : Ensemble) (did : List (Activity MeteredLink)) :
    (did.foldl note r).log = r.log ++ did := by
  induction did generalizing r with
  | nil => simp
  | cons activity rest ih => rw [List.foldl_cons, ih, note_log]; simp

theorem foldl_note_line (r : Ensemble) (did : List (Activity MeteredLink)) :
    (did.foldl note r).line = (did.filterMap Activity.source?).foldl
      (fun l call => l.perform r.now call) r.line := by
  induction did generalizing r with
  | nil => rfl
  | cons activity rest ih =>
      rw [List.foldl_cons, ih, note_line, (r.note_observers activity).2.1, filterMap_cons_toList,
        List.foldl_append]

theorem foldl_note_task (r : Ensemble) (did : List (Activity MeteredLink)) :
    (did.foldl note r).task =
      { r.task with queue := r.task.queue.sendAll (did.flatMap r.echo) } := by
  induction did generalizing r with
  | nil => rfl
  | cons activity rest ih =>
      have same : (r.note activity).echo = r.echo := by
        funext other
        rcases other with url | _ | c
        case call => cases c <;> simp [echo, (r.note_observers activity).1]
        all_goals rfl
      rw [List.foldl_cons, ih, note_task, same, List.flatMap_cons, Mailbox.sendAll, Mailbox.sendAll,
        Mailbox.sendAll, List.foldl_append]

theorem foldl_note_file (r : Ensemble) (did : List (Activity MeteredLink)) :
    (did.foldl note r).file =
      r.file.map fun s => did.foldl (fun s activity => activity.played s) s := by
  induction did generalizing r with
  | nil => simp
  | cons activity rest ih => rw [List.foldl_cons, ih, note_file, Option.map_map]; rfl

section

variable (r : Ensemble) (done : SessionTask MeteredLink × List (Activity MeteredLink))

theorem syncHeartbeat_eq (r : Ensemble) :
    r.syncHeartbeat = { r with heartbeat := r.syncHeartbeat.heartbeat } := by
  unfold syncHeartbeat
  split <;> rfl

theorem leave_eq (r : Ensemble) : r.leave =
    { r with
      file := r.file.map (if r.driven && r.task.isFinished then Recorder.release else id) } := by
  unfold leave
  split <;> simp

theorem syncHeartbeat_leave_eq (r : Ensemble) :
    r.syncHeartbeat.leave =
      { r with heartbeat := r.syncHeartbeat.heartbeat, file := r.syncHeartbeat.leave.file } := by
  rw [syncHeartbeat_eq, leave_eq]

theorem follow_task : (r.follow done).task =
    { done.1 with queue := done.1.queue.sendAll (done.2.flatMap r.echo) } := by
  rw [follow, syncHeartbeat_leave_eq, foldl_note_task]
  rfl

theorem follow_line : (r.follow done).line =
    (done.2.filterMap Activity.source?).foldl (fun l call => l.perform r.now call) r.line := by
  rw [follow, syncHeartbeat_leave_eq, foldl_note_line]

theorem follow_log : (r.follow done).log = r.log ++ done.2 := by
  rw [follow, syncHeartbeat_leave_eq, foldl_note_log]

theorem follow_file : (r.follow done).file = r.file.map fun s =>
    (if r.driven && done.1.isFinished then Recorder.release else id)
      (done.2.foldl (fun s activity => activity.played s) s) := by
  have driven := (foldl_note_observers { r with task := done.1 } done.2).2.2
  have finished : (done.2.foldl note { r with task := done.1 }).task.isFinished =
      done.1.isFinished := by
    rw [foldl_note_task]
    rfl
  rw [follow, syncHeartbeat_eq, leave_eq]
  simp only [driven, finished, foldl_note_file, Option.map_map]
  rfl

theorem follow_observers : (r.follow done).observers = r.observers ∧ (r.follow done).now = r.now ∧
    (r.follow done).driven = r.driven := by
  rw [follow, syncHeartbeat_leave_eq]
  exact foldl_note_observers _ done.2

/-- The heartbeat begins to tick when the session opens, and is silent unless it is open. -/
theorem follow_heartbeat : (r.follow done).heartbeat =
    if done.1.machine.heartbeat then
      if r.heartbeat.running then r.heartbeat
      else .start done.1.machine.settings.heartbeat r.now
    else .silent := by
  have machine : (done.2.foldl note { r with task := done.1 }).task.machine = done.1.machine := by
    rw [foldl_note_task]
  have now := (foldl_note_observers { r with task := done.1 } done.2).2.1
  have heartbeat := foldl_note_heartbeat { r with task := done.1 } done.2
  rw [follow, syncHeartbeat_leave_eq, syncHeartbeat, machine, heartbeat, now]
  cases done.1.machine.heartbeat with
  | false => cases r.heartbeat.running <;> rfl
  | true =>
      cases running : r.heartbeat.running with
      | false => simp
      | true => simpa [running] using heartbeat

end

/-! ## Taking an event -/

/-- **What taking an event does**: the session handles it, and whatever is around it follows.  In
`rest` is what was waiting apart from the event, and `shake` is the handshake once the event is
taken. -/
structure Taking (r : Ensemble) (event : Event MeteredLink) (rest : List (Event MeteredLink))
    (shake : Handshake MeteredLink) (next : Ensemble) : Prop where
  /-- The session had not closed. -/
  unclosed : r.task.machine.state ≠ .closed
  /-- The session handles the event. -/
  machine : next.task.machine = (r.task.machine.handle r.answers event).1
  /-- A handshake that is no longer waited for is dropped. -/
  handshake : next.task.handshake =
    if next.task.machine.state ≠ .connecting ∧ shake.isOpen then .dropped else shake
  /-- The log goes on with its calls; a handshake that is dropped comes last. -/
  log : ∃ drops, (∀ d ∈ drops, d = .handshakeDropped) ∧
    next.log = r.log ++ ((r.task.machine.handle r.answers event).2.map .call ++ drops)
  /-- The source is asked what the session asks of it. -/
  line : next.line = (sources (r.task.machine.handle r.answers event).2).foldl
    (fun l call => l.perform r.now call) r.line
  /-- The player is given what the session presents, and is given up when the session has closed. -/
  file : r.driven = true → next.file = r.file.map fun s =>
    (if next.task.machine.state = .closed then Recorder.release else id)
      ((r.task.machine.handle r.answers event).2.foldl (fun s c => (Activity.call c).played s) s)
  /-- Unless the session has closed, the observers post behind what was waiting. -/
  queue : next.task.machine.state ≠ .closed → next.task.queue =
    { r.task.queue with items := rest }.sendAll
      ((r.task.machine.handle r.answers event).2.flatMap fun c => r.echo (.call c))
  /-- The observers stay, and so does the one who drives the session. -/
  observers : next.observers = r.observers ∧ next.driven = r.driven
  /-- The heartbeat begins to tick when the session opens, and is silent unless it is open. -/
  heartbeat : next.heartbeat =
    if next.task.machine.heartbeat then
      if r.heartbeat.running then r.heartbeat
      else .start next.task.machine.settings.heartbeat r.now
    else .silent
  /-- No time passes. -/
  now : next.now = r.now

theorem follow_taking {r : Ensemble} {t : SessionTask MeteredLink} {event : Event MeteredLink}
    {rest : List (Event MeteredLink)} (unclosed : r.task.machine.state ≠ .closed)
    (machine : t.machine = r.task.machine) (queue : t.queue = { r.task.queue with items := rest }) :
    Taking r event rest t.handshake (r.follow (t.handle r.answers event)) := by
  refine ⟨unclosed, ?_, ?_, ?_, ?_, fun driven => ?_, fun open' => ?_, ?_, ?_, ?_⟩
  · rw [follow_task, SessionTask.handle_eq, machine]
  · rw [follow_task, SessionTask.handle_eq, machine]
  · rw [follow_log, SessionTask.handle_eq, machine]
    refine ⟨_, ?_, rfl⟩
    split <;> simp
  · rw [follow_line, SessionTask.handle_eq, machine, List.filterMap_append,
      Activity.filterMap_source?_call]
    split <;> simp
  · -- a handshake that is dropped means nothing to the player
    have nothing (p : Prop) [Decidable p] (s : Recorder) :
        (if p then [(.handshakeDropped : Activity MeteredLink)] else []).foldl
          (fun s activity => activity.played s) s = s := by
      split <;> rfl
    rw [follow_file, follow_task, SessionTask.handle_eq, machine, driven]
    simp only [List.foldl_append, List.foldl_map, nothing, SessionTask.isFinished,
      Machine.isClosed, Bool.true_and, decide_eq_true_eq]
  · rw [follow_task, SessionTask.handle_eq, machine] at open' ⊢
    rw [if_neg open', queue, List.flatMap_append, List.flatMap_map]
    split <;> simp [echo]
  · exact ⟨(r.follow_observers _).1, (r.follow_observers _).2.2⟩
  · rw [follow_heartbeat, follow_task]
  · exact (r.follow_observers _).2.1

/-- The calls that are logged are those of the session. -/
theorem Taking.calls {r next : Ensemble} {event : Event MeteredLink}
    {rest : List (Event MeteredLink)} {shake : Handshake MeteredLink}
    (h : Taking r event rest shake next) : next.log.filterMap Activity.call? =
      r.log.filterMap Activity.call? ++ (r.task.machine.handle r.answers event).2 := by
  obtain ⟨drops, dropped, log⟩ := h.log
  have silent : drops.filterMap Activity.call? = [] := by
    refine List.filterMap_eq_nil_iff.mpr fun d hd => ?_
    rw [dropped d hd]
    rfl
  rw [log, List.filterMap_append, List.filterMap_append, silent, List.append_nil,
    Activity.filterMap_call?_call]

variable {r : Ensemble} {i : Incident} {event : Event MeteredLink}

/-- An event that is taken was waiting first in the queue, or is the result of the handshake.  The
session does not overtake the result by itself. -/
theorem taking (h : r.taken? i = some event) :
    ((r.task.oldest? = some event ∧ (i = .move .take → r.task.result? = none)) ∧
        Taking r event r.task.queue.items.tail r.task.handshake (r.undergo i)) ∨
      (r.task.result? = some event ∧
        Taking r event r.task.queue.items .taken (r.undergo i)) := by
  have posted (oldest : r.task.oldest? = some event) :
      r.takeEvent? = some (r.follow (r.task.withoutOldest.handle r.answers event)) ∧
        Taking r event r.task.queue.items.tail r.task.handshake
          (r.follow (r.task.withoutOldest.handle r.answers event)) := by
    refine ⟨?_, follow_taking (t := r.task.withoutOldest) ?_ rfl rfl⟩
    · rw [takeEvent?, SessionTask.takeEvent?_eq, oldest]
      rfl
    · unfold SessionTask.oldest? at oldest
      split at oldest
      · simp at oldest
      · assumption
  cases i with
  | move m =>
      cases m with
      | take =>
          cases driven : r.driven with
          | false => simp [taken?, driven] at h
          | true =>
              simp only [taken?, driven, if_true] at h
              simp only [undergo, step?, driven, if_true, SessionTask.takeHandshake?_eq]
              cases result : r.task.result? with
              | none =>
                  rw [result, Option.none_or] at h
                  obtain ⟨taken, now⟩ := posted h
                  rw [Option.map_none, taken]
                  exact .inl ⟨⟨h, fun _ => rfl⟩, now⟩
              | some outcome =>
                  rw [result, Option.some_or, Option.some.injEq] at h
                  subst h
                  let t : SessionTask MeteredLink := { r.task with handshake := .taken }
                  refine .inr ⟨rfl, follow_taking (t := t) ?_ rfl rfl⟩
                  unfold SessionTask.result? at result
                  split at result <;> simp_all
      | _ => simp [taken?] at h
  | overtake =>
      obtain ⟨taken, now⟩ := posted h
      rw [undergo, taken]
      exact .inl ⟨⟨h, by simp⟩, now⟩
  | _ => simp [taken?] at h

theorem exists_taking (h : r.taken? i = some event) :
    ∃ rest shake, Taking r event rest shake (r.undergo i) := by
  rcases taking h with ⟨-, now⟩ | ⟨-, now⟩ <;> exact ⟨_, _, now⟩

/-! ## Incidents with which the session takes nothing -/

/-- **What an incident comes to with which the session takes no event.** -/
inductive Aside (r : Ensemble) : Incident → Ensemble → Prop where
  /-- The task has to wait, or nobody waits for the result. -/
  | waits {i : Incident} (uncut : i.isCutOff = false) (unfed : i.feeds = [])
      (starved : i = .move .read → r.line.readOnce? = none) : Aside r i r
  /-- The producer reads. -/
  | read {line : CaptureLine} (h : r.line.readOnce? = some line) :
      Aside r (.move .read) { r with line := line }
  /-- The forwarder takes a report. -/
  | forwarded {line : CaptureLine} {queue : Mailbox (Event MeteredLink)}
      (h : r.line.forward? r.task.queue = some (line, queue)) :
      Aside r (.move .forward) { r with line := line, task := { r.task with queue := queue } }
  /-- The player's task does a step. -/
  | wrote {recorder next : Recorder} (present : r.file = some recorder)
      (h : recorder.step? = some next) : Aside r (.move .write) { r with file := some next }
  /-- The handshake has got its result. -/
  | concluded {result : Except SessionFailure MeteredLink} (pending : r.task.handshake = .pending) :
      Aside r (.conclude result) { r with task := { r.task with handshake := .ready result } }
  /-- Something is posted. -/
  | posted (o : Outside) : Aside r (.post o) (r.post o.event)
  /-- The connection is cut off. -/
  | cutOff (refusal : SessionFailure) : Aside r (.cutOff refusal) (r.cutOff refusal)
  /-- The clock shows another time. -/
  | clock (now : Nat) : Aside r (.clock now) { r with now := now }
  /-- The timer of the producer fires. -/
  | cut : Aside r .cut { r with line := r.line.fire r.now }
  /-- Something arrives. -/
  | arrived (arrival : Arrival) :
      Aside r (.arrive arrival) { r with line := (r.line.feed (·.write arrival) Pipe.accepts).1 }
  /-- The byte stream ends. -/
  | exhausted : Aside r .exhaust { r with line := (r.line.feed Pipe.finish Pipe.accepts).1 }

/-- A session that has nothing to take waits. -/
theorem undergo_take_of_none (h : r.taken? (.move .take) = none) : r.undergo (.move .take) = r := by
  cases driven : r.driven with
  | false => simp [undergo, step?, driven]
  | true =>
      simp only [taken?, driven, if_true, Option.or_eq_none_iff] at h
      simp [undergo, step?, driven, SessionTask.takeHandshake?_eq, takeEvent?,
        SessionTask.takeEvent?_eq, h.1, h.2]

theorem aside_move (m : Move) (h : r.taken? (.move m) = none) :
    Aside r (.move m) (r.undergo (.move m)) := by
  cases m with
  | take =>
      rw [undergo_take_of_none h]
      exact .waits rfl rfl (by simp)
  | read =>
      cases line : r.line.readOnce? with
      | none => simpa [undergo, step?, line] using .waits rfl rfl fun _ => line
      | some next => simpa [undergo, step?, line] using .read line
  | forward =>
      cases line : r.line.forward? r.task.queue with
      | none => simpa [undergo, step?, forward?, line] using .waits rfl rfl (by simp)
      | some next => simpa [undergo, step?, forward?, line] using .forwarded line
  | write =>
      cases file : r.file with
      | none => simpa [undergo, step?, file] using .waits rfl rfl (by simp)
      | some recorder =>
          cases step : recorder.step? with
          | none => simpa [undergo, step?, file, step] using .waits rfl rfl (by simp)
          | some next => simpa [undergo, step?, file, step] using .wrote file step

/-- **Every incident comes to something.** -/
theorem aside (h : r.taken? i = none) : Aside r i (r.undergo i) := by
  cases i with
  | move m => exact aside_move m h
  | overtake =>
      have h : r.task.oldest? = none := h
      simpa [undergo, takeEvent?, SessionTask.takeEvent?_eq, h] using .waits rfl rfl (by simp)
  | conclude result =>
      simp only [undergo, conclude]
      split
      · next pending => exact .concluded pending
      · exact .waits rfl rfl (by simp)
  | post o => exact .posted o
  | cutOff refusal => exact .cutOff refusal
  | clock now => exact .clock now
  | cut => exact .cut
  | arrive arrival => exact .arrived arrival
  | exhaust => exact .exhausted

theorem sound_cutOff (sound : r.task.machine.Sound) (refusal : SessionFailure) :
    (r.cutOff refusal).task.machine.Sound :=
  { sound with link := by simpa [cutOff] using sound.link }

namespace Aside

variable {next : Ensemble}

/-- **Without an event the machine stays as it is**, unless its connection is cut off. -/
theorem machine (h : Aside r i next) (uncut : i.isCutOff = false) :
    next.task.machine = r.task.machine := by
  cases h with
  | cutOff => simp [Incident.isCutOff] at uncut
  | _ => rfl

theorem log (h : Aside r i next) : next.log = r.log := by
  cases h <;> rfl

end Aside

/-! ## Runs -/

/-- **Unless its connection is cut off, what a session does is a history of its machine.** -/
theorem history_run {id : SessionIdentity} {settings : SessionPolicy} {observers : Nat}
    {ts : List (Turn MeteredLink)}
    (past : Machine.History id settings observers ts r.task.machine) (is : List Incident)
    (uncut : ∀ i ∈ is, i.isCutOff = false) :
    Machine.History id settings observers (ts ++ r.turns is) (r.run is).task.machine := by
  induction is generalizing r ts with
  | nil => simpa [turns] using past
  | cons i rest ih =>
      obtain ⟨now, later⟩ := List.forall_mem_cons.mp uncut
      cases taken : r.taken? i with
      | none =>
          rw [turns, turn?, taken, run_cons]
          exact ih ((aside taken).machine now ▸ past) later
      | some event =>
          obtain ⟨rest, shake, now⟩ := exists_taking taken
          have more := ih (now.machine ▸ past.turn event r.answers) later
          rw [turns, turn?, taken, run_cons]
          simpa using more

end Ensemble

end Livecast
