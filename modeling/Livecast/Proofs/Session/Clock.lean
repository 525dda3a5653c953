import Livecast.Proofs.Session.Interleaving
import Livecast.Proofs.Session.Outbound

/-!
# Sessions on a clock

On a clock everything happens at a time, and time passes only as far as the next tick of the
heartbeat: the tick is posted before the clock goes on.  Apart from that anything can happen at any
time and in any order.  The machine may also be fed by hand, with the events that wait or with
others; then it goes on to meet events after it has closed.

## Main Definitions

* `Moment`, `Ensemble.pass` - what can happen next on a clock, and what it does
* `Ensemble.live`, `Ensemble.story` - a run on a clock, and what can be told of it
* `Ensemble.Handling`, `Ensemble.Keeping` - a moment with an event of the session, and one without
* `Ensemble.Passage` - what a moment can come to
* `Ensemble.Past` - what leads from a session to another one, moment by moment

## Main Statements

* `Timer.start_eq_next` - a timer is an interval that skips its first firing
* `Ensemble.fire_eq`, `Ensemble.pumpUpTo_eq`, `Ensemble.exists_live_settle` - what the clock and the
  hand do are moments
* `Ensemble.nextDue?_eq_some`, `Ensemble.exists_live_stop` - where the clock stops
* `Ensemble.nextDue?_eq_none`, `Ensemble.exists_live_rest` - where the clock ends
* `Ensemble.passage` - every moment comes to something

## Design Notes

The heartbeat alone decides when it ticks, so that a tick is neither posted from outside nor handed
to the machine by anyone else.
-/

namespace Livecast

/-- A timer is an interval that would fire at once and then every period, and whose first firing is
skipped. -/
theorem Timer.start_eq_next (period : Duration) (now : Nat) :
    Timer.start period now = (⟨period.atLeast Timer.minPeriod, now⟩ : Timer).next := rfl

/-- The incident is one of the clock or of the heartbeat. -/
def Incident.isTimed : Incident → Bool
  | .clock _ | .post .beat => true
  | _ => false

/-- What can happen next on a clock. -/
inductive Moment where
  /-- Time passes, but not beyond a tick that is due. -/
  | wait (nanos : Nat)
  /-- The task of the heartbeat posts its tick, if it is due. -/
  | beat
  /-- Something else happens. -/
  | incident (i : Incident) (untimed : i.isTimed = false)
  /-- The machine is fed with an event by hand. -/
  | feed (event : Event MeteredLink) (other : event ≠ .heartbeatTick)
  /-- The machine is fed with the oldest event that waits. -/
  | pump

/-- What can be told of a moment. -/
structure Episode where
  /-- The time at which it began. -/
  time : Nat
  /-- The stage of the session before it. -/
  before : SessionStage
  /-- A tick of the heartbeat was posted. -/
  ticked : Bool
  /-- What the session did, if it met an event. -/
  turn? : Option (Turn MeteredLink)
  /-- The stage of the session after it. -/
  after : SessionStage

namespace Ensemble

/-- The stage of the session. -/
def stage (r : Ensemble) : SessionStage := r.task.machine.state

/-- How many ticks wait in the queue of the session. -/
def ticksWaiting (r : Ensemble) : Nat := r.task.queue.items.count .heartbeatTick

/-- The task of the heartbeat posts its tick if it is due. -/
def beat (r : Ensemble) : Ensemble :=
  if r.heartbeat.due?.any (· ≤ r.now) then
    { r with heartbeat := r.heartbeat.tick r.task.queue.accepts }.post .heartbeatTick
  else r

/-- The time to which the clock moves on. -/
def timeAfter (r : Ensemble) (nanos : Nat) : Nat :=
  match r.heartbeat.due? with
  | none => r.now + nanos
  | some due => max r.now (min (r.now + nanos) due)

/-- The session without the oldest event that waits. -/
def withoutOldest (r : Ensemble) : Ensemble := { r with task := r.task.withoutOldest }

/-- What a moment does. -/
def pass (r : Ensemble) : Moment → Ensemble
  | .wait nanos => { r with now := r.timeAfter nanos }
  | .beat => r.beat
  | .incident i _ => r.undergo i
  | .feed event _ => r.handle event
  | .pump =>
    match r.task.queue.items with
    | [] => r
    | event :: _ => r.withoutOldest.handle event

/-- What a list of moments does. -/
def live (r : Ensemble) (ms : List Moment) : Ensemble := ms.foldl pass r

@[simp] theorem live_nil (r : Ensemble) : r.live [] = r := rfl

@[simp] theorem live_cons (r : Ensemble) (m : Moment) (ms : List Moment) :
    r.live (m :: ms) = (r.pass m).live ms := rfl

theorem live_append (r : Ensemble) (ms more : List Moment) :
    r.live (ms ++ more) = (r.live ms).live more := List.foldl_append

/-- The event that the session meets in a moment, if it meets one. -/
def met? (r : Ensemble) : Moment → Option (Event MeteredLink)
  | .incident i _ => r.taken? i
  | .feed event _ => some event
  | .pump => r.task.queue.items.head?
  | _ => none

/-- A tick is posted in a moment, and somebody listens. -/
def ticksAt (r : Ensemble) : Moment → Bool
  | .beat => r.heartbeat.due?.any (· ≤ r.now) && r.task.queue.accepts
  | _ => false

/-- What can be told of a moment. -/
def episode (r : Ensemble) (m : Moment) : Episode where
  time := r.now
  before := r.stage
  ticked := r.ticksAt m
  turn? := (r.met? m).map fun event => r.task.machine.turn event r.answers
  after := (r.pass m).stage

/-- What can be told of a run. -/
def story (r : Ensemble) : List Moment → List Episode
  | [] => []
  | m :: rest => r.episode m :: (r.pass m).story rest

/-! ## What the clock and the hand do -/

/-- Firing the timers is a beat, and then perhaps a cut of the producer. -/
theorem fire_eq (r : Ensemble) : r.fire = r.live [.beat, .incident .cut rfl] := rfl

/-- Handling waiting events by hand is feeding the machine with them. -/
theorem pumpUpTo_eq (fuel : Nat) (r : Ensemble) :
    (r.pumpUpTo fuel).1 = r.live (List.replicate fuel .pump) := by
  induction fuel generalizing r with
  | zero => rfl
  | succ fuel ih =>
      rw [List.replicate_succ, live_cons, ← ih, pumpUpTo]
      simp only [pass]
      cases items : r.task.queue.items with
      | nil => cases fuel <;> simp [pumpUpTo, items]
      | cons event rest =>
          have taken : r.withoutOldest = { r with task :=
              { r.task with queue := { r.task.queue with items := rest } } } := by
            simp [withoutOldest, SessionTask.withoutOldest, items]
          simp only [taken]

/-- What holds of a session and stays with every step of a task holds once all tasks wait. -/
theorem settle_induction {P : Ensemble → Prop} {r : Ensemble} (start : P r)
    (step : ∀ {r next : Ensemble} {move : Move}, P r → r.step? move = some next → P next) :
    P r.settle := by
  have each (fuel : Nat) (current : Move) (r : Ensemble) (h : P r) :
      P (settleUpTo fuel current r) := by
    induction fuel generalizing current r with
    | zero => exact h
    | succ fuel ih =>
        rw [settleUpTo]
        cases possible : r.nextMove? current with
        | none => exact h
        | some found =>
            obtain ⟨move, next⟩ := found
            obtain ⟨candidate, -, made⟩ := List.exists_of_findSome?_eq_some possible
            obtain ⟨done, stepped, same⟩ := Option.map_eq_some_iff.mp made
            obtain ⟨rfl, rfl⟩ := Prod.mk.inj same
            exact ih _ _ (step h stepped)
  exact each _ _ r start

/-- The tasks run until they wait, move by move. -/
theorem exists_live_settle (r : Ensemble) : ∃ ms, r.live ms = r.settle := by
  refine settle_induction (P := fun next => ∃ ms, r.live ms = next) ⟨[], rfl⟩ ?_
  rintro _ next move ⟨ms, rfl⟩ step
  refine ⟨ms ++ [.incident (.move move) rfl], ?_⟩
  simp only [live_append, live_cons, live_nil, pass, undergo, step, Option.getD_some]

/-- Time passes, but not beyond a tick that is due. -/
theorem timeAfter_bounds {r : Ensemble} (intime : ∀ due, r.heartbeat.due? = some due → r.now ≤ due)
    (nanos : Nat) : r.now ≤ r.timeAfter nanos ∧
      ∀ due, r.heartbeat.due? = some due → r.timeAfter nanos ≤ due := by
  unfold timeAfter
  split
  · next never => exact ⟨Nat.le_add_right _ _, by simp [never]⟩
  · next due isDue =>
      have ahead := intime due isDue
      refine ⟨Nat.le_max_left _ _, fun due' isDue' => ?_⟩
      obtain rfl := Option.some.inj (isDue.symm.trans isDue')
      exact Nat.max_le.mpr ⟨ahead, Nat.min_le_right _ _⟩

/-- Time passes to any time that is not behind the next tick. -/
theorem pass_wait {r : Ensemble} {time : Nat} (later : r.now ≤ time)
    (intime : ∀ due, r.heartbeat.due? = some due → time ≤ due) :
    r.pass (.wait (time - r.now)) = { r with now := time } := by
  have passed : r.timeAfter (time - r.now) = time := by
    unfold timeAfter
    split
    · omega
    · next due isDue =>
        have := intime due isDue
        omega
  simp only [pass, passed]

/-- The clock considers the timers that are due in time. -/
theorem mem_dues_iff (timer timer' : Option Nat) (limit due : Nat) :
    due ∈ [timer, timer'].filterMap
      (fun timer => timer.bind fun due => if due ≤ limit then some due else none) ↔
      due ≤ limit ∧ (timer = some due ∨ timer' = some due) := by
  have each (timer : Option Nat) :
      (timer.bind fun due => if due ≤ limit then some due else none) = some due ↔
        due ≤ limit ∧ timer = some due := by
    simp only [Option.bind_eq_some_iff, Option.ite_none_right_eq_some, Option.some.injEq]
    constructor
    · rintro ⟨_, found, reached, rfl⟩
      exact ⟨reached, found⟩
    · rintro ⟨reached, found⟩
      exact ⟨due, found, reached, rfl⟩
  simp only [List.mem_filterMap, List.mem_cons, List.not_mem_nil, or_false, exists_eq_or_imp,
    exists_eq_left, each, and_or_left]

/-- **Where the clock stops a timer is due**, and none is due before. -/
theorem nextDue?_eq_some {r : Ensemble} {limit due : Nat} (h : r.nextDue? limit = some due) :
    due ≤ limit ∧ (r.heartbeat.due? = some due ∨ r.line.due? = some due) ∧
      ∀ time, r.heartbeat.due? = some time ∨ r.line.due? = some time → due ≤ time := by
  obtain ⟨among, least⟩ := List.min?_eq_some_iff.mp h
  obtain ⟨reached, own⟩ := (mem_dues_iff _ _ _ _).mp among
  refine ⟨reached, own, fun time isDue => ?_⟩
  rcases Nat.le_total time limit with small | later
  · exact least time ((mem_dues_iff _ _ _ _).mpr ⟨small, isDue⟩)
  · exact Nat.le_trans reached later

/-- Where the clock does not stop any more no timer is due. -/
theorem nextDue?_eq_none {r : Ensemble} {limit : Nat} (h : r.nextDue? limit = none) :
    ∀ time, r.heartbeat.due? = some time ∨ r.line.due? = some time → limit < time := by
  intro time isDue
  refine Nat.lt_of_not_le fun small => ?_
  have among := (mem_dues_iff _ _ limit _).mpr ⟨small, isDue⟩
  rw [List.min?_eq_none_iff.mp h] at among
  cases among

/-- **Where the clock stops its timers fire**, and then the tasks run until they wait. -/
theorem exists_live_stop {r : Ensemble} {limit due : Nat} (h : r.nextDue? limit = some due)
    (later : r.now ≤ due) : ∃ ms, r.live ms = { r with now := due }.fire.settle := by
  obtain ⟨ms, lived⟩ := exists_live_settle ({ r with now := due } : Ensemble).fire
  refine ⟨.wait (due - r.now) :: .beat :: .incident .cut rfl :: ms, ?_⟩
  rw [live_cons, pass_wait later fun time isDue => (nextDue?_eq_some h).2.2 time (.inl isDue),
    ← lived]
  rfl

/-- **Where the clock ends no timer is due before.** -/
theorem exists_live_rest {r : Ensemble} {limit : Nat} (h : r.nextDue? limit = none)
    (later : r.now ≤ limit) : ∃ ms, r.live ms = { r with now := limit } := by
  exact ⟨[.wait (limit - r.now)],
    pass_wait later fun time isDue => Nat.le_of_lt (nextDue?_eq_none h time (.inl isDue))⟩

/-! ## What a moment comes to -/

/-- A tick that is due is posted, and nothing happens otherwise. -/
theorem beat_cases (r : Ensemble) :
    (∀ timer, r.heartbeat.timer = some timer → r.now < timer.due) ∧ r.beat = r ∨
      ∃ timer, r.heartbeat.timer = some timer ∧ timer.due ≤ r.now ∧ r.beat =
        ({ r with heartbeat := r.heartbeat.tick r.task.queue.accepts }.post .heartbeatTick) := by
  cases found : r.heartbeat.timer with
  | none => exact .inl ⟨by simp, by simp [beat, Heartbeat.due?, found]⟩
  | some timer =>
      by_cases due : timer.due ≤ r.now
      · exact .inr ⟨timer, rfl, due, by simp [beat, Heartbeat.due?, found, due]⟩
      · refine .inl ⟨?_, by simp [beat, Heartbeat.due?, found, due]⟩
        rintro _ ⟨⟩
        exact Nat.lt_of_not_le due

/-- **A moment in which the session meets an event**, which waited in the queue or not. -/
structure Handling (r : Ensemble) (event : Event MeteredLink) (next : Ensemble) : Prop where
  /-- The session handles the event. -/
  machine : next.task.machine = (r.task.machine.handle r.answers event).1
  /-- The heartbeat begins to tick when the session opens, and is silent unless it is open. -/
  heartbeat : next.heartbeat =
    if next.task.machine.heartbeat then
      if r.heartbeat.running then r.heartbeat
      else .start next.task.machine.settings.heartbeat r.now
    else .silent
  /-- No time passes. -/
  now : next.now = r.now
  /-- The log goes on with the calls of the session. -/
  calls : next.log.filterMap Activity.call? =
    r.log.filterMap Activity.call? ++ (r.task.machine.handle r.answers event).2
  /-- Unless the session has closed, the observers post behind what was waiting. -/
  queue : next.stage ≠ .closed → ∃ rest,
    (r.task.queue.items = event :: rest ∨ r.task.queue.items = rest ∧ event ≠ .heartbeatTick) ∧
      next.task.queue = { r.task.queue with items := rest }.sendAll
        ((r.task.machine.handle r.answers event).2.flatMap fun c => r.echo (.call c))
  /-- The observers stay. -/
  observers : next.observers = r.observers

/-- **A moment in which the session meets no event.** -/
structure Keeping (r next : Ensemble) : Prop where
  /-- The session stays in its stage, with its settings and with what belongs to the stage. -/
  machine : next.stage = r.stage ∧ next.task.machine.settings = r.task.machine.settings ∧
    (r.task.machine.Sound → next.task.machine.Sound)
  /-- The heartbeat does not tick. -/
  heartbeat : next.heartbeat = r.heartbeat
  /-- No time passes. -/
  now : next.now = r.now
  /-- The log stays. -/
  log : next.log = r.log
  /-- What is posted is no tick. -/
  queue : ∃ posted, .heartbeatTick ∉ posted ∧ next.task.queue = r.task.queue.sendAll posted
  /-- The observers stay. -/
  observers : next.observers = r.observers

/-- **What a moment can come to.** -/
inductive Passage (r : Ensemble) : Moment → Ensemble → Prop where
  /-- Time passes. -/
  | waited (nanos : Nat) : Passage r (.wait nanos) { r with now := r.timeAfter nanos }
  /-- A tick is not yet due, or there is no heartbeat. -/
  | early (h : ∀ timer, r.heartbeat.timer = some timer → r.now < timer.due) : Passage r .beat r
  /-- A tick is due, and is posted. -/
  | ticked {timer : Timer} (h : r.heartbeat.timer = some timer) (due : timer.due ≤ r.now) :
      Passage r .beat
        ({ r with heartbeat := r.heartbeat.tick r.task.queue.accepts }.post .heartbeatTick)
  /-- The session meets an event. -/
  | handled {m : Moment} {event : Event MeteredLink} {next : Ensemble}
      (met : r.met? m = some event) (quiet : r.ticksAt m = false)
      (now : Handling r event next) : Passage r m next
  /-- The session meets no event. -/
  | kept {m : Moment} {next : Ensemble} (met : r.met? m = none) (quiet : r.ticksAt m = false)
      (now : Keeping r next) : Passage r m next

variable {r next : Ensemble} {event : Event MeteredLink}

theorem Keeping.refl (r : Ensemble) : Keeping r r :=
  { machine := ⟨rfl, rfl, id⟩
    heartbeat := rfl
    now := rfl
    log := rfl
    queue := ⟨[], by simp, rfl⟩
    observers := rfl }

/-- An incident with an event. -/
theorem Taking.handling {rest : List (Event MeteredLink)} {shake : Handshake MeteredLink}
    (h : Taking r event rest shake next)
    (waited : r.task.queue.items = event :: rest ∨
      r.task.queue.items = rest ∧ event ≠ .heartbeatTick) : Handling r event next :=
  { machine := h.machine
    heartbeat := h.heartbeat
    now := h.now
    calls := h.calls
    queue := fun unclosed => ⟨rest, waited, h.queue unclosed⟩
    observers := h.observers.1 }

/-- Feeding by hand. -/
theorem handling_handle {t : SessionTask MeteredLink} {rest : List (Event MeteredLink)}
    (machine : t.machine = r.task.machine) (queue : t.queue = { r.task.queue with items := rest })
    (waited : r.task.queue.items = event :: rest ∨
      r.task.queue.items = rest ∧ event ≠ .heartbeatTick) :
    Handling r event ({ r with task := t }.handle event) := by
  have answers : ({ r with task := t } : Ensemble).answers = r.answers := by
    simp only [Ensemble.answers, machine]
  simp only [handle, machine, answers]
  constructor
  case machine => rw [follow_task]
  case heartbeat => rw [follow_heartbeat, follow_task]
  case now => exact (follow_observers _ _).2.1
  case calls =>
    rw [follow_log, List.filterMap_append, Activity.filterMap_call?_call]
  case queue =>
    intro _
    refine ⟨rest, waited, ?_⟩
    rw [follow_task, List.flatMap_map]
    simp only [queue]
    rfl
  case observers => exact (follow_observers _ _).1

/-- An incident without an event. -/
theorem Aside.keeping {i : Incident} (h : Aside r i next) (untimed : i.isTimed = false) :
    Keeping r next := by
  have rest := Keeping.refl r
  cases h with
  | waits => exact rest
  | forwarded found =>
      obtain ⟨report, queue⟩ := CaptureLine.queue_forward? found
      refine { rest with queue := ⟨(forward report).1.toList, ?_, queue⟩ }
      rcases report with _ | (_ | _) | _ <;> simp [forward]
  | posted o =>
      refine { rest with queue := ⟨[o.event], ?_, rfl⟩ }
      rcases o with (_ | _ | _) | _ | _ | _ | _ <;>
        simp_all [Outside.event, Wish.event, Incident.isTimed]
  | cutOff refusal =>
      exact { rest with machine := ⟨rfl, rfl, fun sound => sound_cutOff sound refusal⟩ }
  | clock => simp [Incident.isTimed] at untimed
  | read | wrote | concluded | cut | arrived | exhausted =>
      exact { rest with queue := ⟨[], by simp, rfl⟩ }

/-- **Every moment comes to something.** -/
theorem passage (r : Ensemble) (m : Moment) : Passage r m (r.pass m) := by
  cases m with
  | wait nanos => exact .waited nanos
  | beat =>
      simp only [pass]
      rcases r.beat_cases with ⟨early, idle⟩ | ⟨timer, found, due, ticks⟩
      · rw [idle]
        exact .early early
      · rw [ticks]
        exact .ticked found due
  | incident i untimed =>
      cases taken : r.taken? i with
      | none => exact .kept taken rfl ((aside taken).keeping untimed)
      | some event =>
          rcases taking taken with ⟨⟨oldest, -⟩, now⟩ | ⟨result, now⟩
          · exact .handled taken rfl
              (now.handling (.inl (SessionTask.items_eq_cons oldest).symm))
          · refine .handled taken rfl (now.handling (.inr ⟨rfl, ?_⟩))
            unfold SessionTask.result? at result
            split at result
            · next outcome _ _ =>
                obtain rfl := Option.some.inj result
                cases outcome <;> simp [SessionTask.outcome]
            · simp at result
  | feed event other => exact .handled rfl rfl (handling_handle rfl rfl (.inr ⟨rfl, other⟩))
  | pump =>
      simp only [pass]
      cases items : r.task.queue.items with
      | nil => exact .kept (by simp [met?, items]) rfl (.refl r)
      | cons event rest =>
          refine .handled (by simp [met?, items]) rfl
            (handling_handle rfl ?_ (.inl items))
          simp [SessionTask.withoutOldest, items]

/-! ## Runs -/

/-- What leads from a session to another one, moment by moment. -/
inductive Past (start : Ensemble) : List Episode → Ensemble → Prop where
  /-- Nothing has happened yet. -/
  | begin : Past start [] start
  /-- One more moment passes. -/
  | moment {es : List Episode} {r : Ensemble} (past : Past start es r) (m : Moment) :
      Past start (es ++ [r.episode m]) (r.pass m)

theorem Past.live {start : Ensemble} {es : List Episode} (past : Past start es r)
    (ms : List Moment) : Past start (es ++ r.story ms) (r.live ms) := by
  induction ms generalizing r es with
  | nil => simpa [story] using past
  | cons m rest ih =>
      have more := ih (past.moment m)
      rw [List.append_assoc] at more
      exact more

/-- **Every run is told moment by moment.** -/
theorem past_live (r : Ensemble) (ms : List Moment) : Past r (r.story ms) (r.live ms) :=
  Past.begin.live ms

end Ensemble

end Livecast
