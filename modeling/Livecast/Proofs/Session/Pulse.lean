import Livecast.Proofs.Session.Clock

/-!
# The pulse of a session

A session begins to tick one period after it has opened, and ticks once a period until it is no
longer open.  A tick is only posted, and may wait for a long time.  When the session meets it, it
sends a frame if it is open, and nothing if it is not any more.

## Main Definitions

* `openings`, `leavings`, `ticks`, `encounters` - what can be told of a run
* `pulse`, `beats` - how far ticks are apart, and when the first ones come
* `Rhythm` - how far the heartbeat is
* `Ensemble.Steady` - what is so in the course of every run
* `OnBeat`, `Punctual` - the schedule of a heartbeat, and its law

## Main Statements

* `Ensemble.Steady.step` - every moment keeps a run steady
* `Ensemble.live_punctual` - every run obeys the law of the heartbeat

## Design Notes

Nothing is said about a tick that is due in the moment in which the session closes: it is posted if
the timer comes first.  The runs are those of `Ensemble.live`; that a session with its clock lives
so is `Ensemble.InTime.exists_live`.
-/

namespace Livecast

/-! ## What is told of a run -/

/-- The times at which a session opens. -/
def openings (es : List Episode) : List Nat :=
  (es.filter fun e => e.before ≠ .opened ∧ e.after = .opened).map Episode.time

/-- The times at which a session leaves the stage in which it is open. -/
def leavings (es : List Episode) : List Nat :=
  (es.filter fun e => e.before = .opened ∧ e.after ≠ .opened).map Episode.time

/-- The times at which a tick is posted. -/
def ticks (es : List Episode) : List Nat := (es.filter Episode.ticked).map Episode.time

/-- What the session does, event by event. -/
def encounters (es : List Episode) : List (Turn MeteredLink) := es.filterMap Episode.turn?

/-- How many ticks the session has met. -/
def ticksMet (es : List Episode) : Nat :=
  ((encounters es).map Turn.event).count .heartbeatTick

section

variable (es : List Episode) (e : Episode)

theorem openings_concat : openings (es ++ [e]) =
    openings es ++ if e.before ≠ .opened ∧ e.after = .opened then [e.time] else [] := by
  unfold openings
  split <;> simp_all

theorem leavings_concat : leavings (es ++ [e]) =
    leavings es ++ if e.before = .opened ∧ e.after ≠ .opened then [e.time] else [] := by
  unfold leavings
  split <;> simp_all

theorem ticks_concat : ticks (es ++ [e]) = ticks es ++ if e.ticked then [e.time] else [] := by
  unfold ticks
  split <;> simp_all

theorem encounters_concat : encounters (es ++ [e]) = encounters es ++ e.turn?.toList := by
  rw [encounters, List.filterMap_append, filterMap_cons_toList, List.filterMap_nil,
    List.append_nil, encounters]

end

/-! ## The rhythm of the heartbeat -/

/-- The times of the first `n` ticks. -/
def beats (start period n : Nat) : List Nat := (List.range n).map fun k => start + (k + 1) * period

/-- The nanoseconds between two ticks. -/
def pulse (period : Duration) : Nat := max period.nanos Timer.minPeriod.nanos

/-- **How far the heartbeat is**, by the stage of the session. -/
inductive Rhythm (period : Duration) (es : List Episode) : SessionStage → Heartbeat → Nat → Prop
  /-- The session has not opened. -/
  | unopened {stage : SessionStage} {now : Nat} (shut : stage ≠ .opened)
      (opens : openings es = []) (leaves : leavings es = []) (posted : ticks es = []) :
      Rhythm period es stage .silent now
  /-- The session is open, and has been since `start`. -/
  | opened {start n now : Nat} (opens : openings es = [start]) (leaves : leavings es = [])
      (posted : ticks es = beats start (pulse period) n) (past : start + n * pulse period ≤ now)
      (ahead : now ≤ start + (n + 1) * pulse period) :
      Rhythm period es .opened
        ⟨true, some ⟨period.atLeast Timer.minPeriod, start + (n + 1) * pulse period⟩⟩ now
  /-- The session has been open, and is not any more. -/
  | left {start stop n now : Nat} (opens : openings es = [start]) (leaves : leavings es = [stop])
      (posted : ticks es = beats start (pulse period) n) (past : start + n * pulse period ≤ stop)
      (ahead : stop ≤ start + (n + 1) * pulse period) :
      Rhythm period es .closed .silent now

namespace Rhythm

variable {period : Duration} {es : List Episode} {stage : SessionStage} {beating : Heartbeat}
  {now : Nat} {e : Episode}

/-- Nothing changes with a moment in which the session stays in its stage and no tick is posted. -/
theorem still (h : Rhythm period es stage beating now) (same : e.before = e.after)
    (quiet : e.ticked = false) : Rhythm period (es ++ [e]) stage beating now := by
  have opens : openings (es ++ [e]) = openings es := by simp [openings_concat, same]
  have leaves : leavings (es ++ [e]) = leavings es := by simp [leavings_concat, same]
  have posted : ticks (es ++ [e]) = ticks es := by simp [ticks_concat, quiet]
  cases h with
  | unopened shut o l p => exact .unopened shut (opens.trans o) (leaves.trans l) (posted.trans p)
  | opened o l p past ahead =>
      exact .opened (opens.trans o) (leaves.trans l) (posted.trans p) past ahead
  | left o l p past ahead =>
      exact .left (opens.trans o) (leaves.trans l) (posted.trans p) past ahead

/-- Time passes to a time that is not behind the next tick. -/
theorem wait {time : Nat} (h : Rhythm period es stage beating now) (later : now ≤ time)
    (intime : ∀ due, beating.due? = some due → time ≤ due) :
    Rhythm period es stage beating time := by
  cases h with
  | unopened shut opens leaves posted => exact .unopened shut opens leaves posted
  | opened opens leaves posted past =>
      exact .opened opens leaves posted (Nat.le_trans past later) (intime _ rfl)
  | left opens leaves posted past ahead => exact .left opens leaves posted past ahead

/-- The next tick is not overdue. -/
theorem now_le_due (h : Rhythm period es stage beating now) {due : Nat}
    (isDue : beating.due? = some due) : now ≤ due := by
  cases h with
  | unopened | left => simp [Heartbeat.due?, Heartbeat.silent] at isDue
  | opened opens leaves posted past ahead => exact Option.some.inj isDue ▸ ahead

/-- Only an open session has a timer. -/
theorem opened_of_timer (h : Rhythm period es stage beating now) {timer : Timer}
    (found : beating.timer = some timer) : stage = .opened := by
  cases h with
  | unopened | left => simp [Heartbeat.silent] at found
  | opened => rfl

/-- A tick is posted when it is due. -/
theorem tick (h : Rhythm period es stage beating now) {timer : Timer}
    (found : beating.timer = some timer) (due : timer.due ≤ now) (same : e.before = e.after)
    (time : e.time = now) (ticked : e.ticked = true) :
    Rhythm period (es ++ [e]) stage (beating.tick true) now := by
  cases h with
  | unopened | left => simp [Heartbeat.silent] at found
  | @opened start n _ opens leaves posted past ahead =>
      obtain rfl := Option.some.inj found
      have exactly : now = start + (n + 1) * pulse period := Nat.le_antisymm ahead due
      have next : Heartbeat.tick ⟨true, some ⟨period.atLeast Timer.minPeriod,
          start + (n + 1) * pulse period⟩⟩ true =
            ⟨true, some ⟨period.atLeast Timer.minPeriod,
              start + (n + 1 + 1) * pulse period⟩⟩ := by
        have due : start + (n + 1) * pulse period + pulse period =
            start + (n + 1 + 1) * pulse period := by rw [Nat.add_assoc, ← Nat.succ_mul]
        simp only [Heartbeat.tick, if_true, Option.map_some, Timer.next, ← due]
        rfl
      rw [next]
      refine .opened ?_ ?_ ?_ due ?_
      · simpa [openings_concat, same] using opens
      · simpa [leavings_concat, same] using leaves
      · rw [ticks_concat, ticked, if_pos rfl, time, posted, exactly, beats, beats, List.range_succ,
          List.map_append, List.map_singleton]
      · rw [exactly]
        exact Nat.add_le_add_left (Nat.mul_le_mul_right _ (Nat.le_succ _)) _

/-- The session handles an event, with which its heartbeat begins to tick or ends. -/
theorem turn (h : Rhythm period es stage beating now) (before : e.before = stage)
    (time : e.time = now) (quiet : e.ticked = false)
    (left : stage = .opened → e.after ≠ .opened → e.after = .closed)
    (closed : stage = .closed → e.after = .closed) :
    Rhythm period (es ++ [e]) e.after
      (if e.after = .opened then if beating.running then beating else .start period now
        else .silent) now := by
  by_cases same : e.before = e.after
  · have kept := h.still same quiet
    rw [← same, before]
    cases h with
    | unopened shut => rwa [if_neg shut]
    | opened => rwa [if_pos rfl, if_pos rfl]
    | left => rwa [if_neg (by simp)]
  -- the stage changes, so that the session opens or closes
  · cases h with
    | unopened shut opens leaves posted =>
        have shut' : e.before ≠ .opened := before ▸ shut
        have leaves' : leavings (es ++ [e]) = [] := by simp [leavings_concat, shut', leaves]
        have posted' : ticks (es ++ [e]) = [] := by simp [ticks_concat, quiet, posted]
        by_cases opening : e.after = .opened
        · have began : (if Heartbeat.silent.running then Heartbeat.silent
              else Heartbeat.start period now) =
                ⟨true, some ⟨period.atLeast Timer.minPeriod, now + (0 + 1) * pulse period⟩⟩ := by
            simp [Heartbeat.silent, Heartbeat.start, Timer.start, Duration.atLeast, pulse]
          rw [if_pos opening, opening, began]
          refine .opened (n := 0) ?_ leaves' posted' (by simp) (Nat.le_add_right _ _)
          simp [openings_concat, shut', opening, opens, time]
        · rw [if_neg opening]
          refine .unopened opening ?_ leaves' posted'
          simp [openings_concat, opening, opens]
    | opened opens leaves posted past ahead =>
        have unopened : e.after ≠ .opened := fun still => same (before.trans still.symm)
        rw [if_neg unopened, left rfl unopened]
        refine .left ?_ ?_ ?_ past ahead
        · simpa [openings_concat, before] using opens
        · simp [leavings_concat, before, unopened, leaves, time]
        · simpa [ticks_concat, quiet] using posted
    | left => exact absurd (before.trans (closed rfl).symm) same

end Rhythm

/-! ## Nothing follows the end -/

/-- A session that has closed stays closed, up to the stage in which it is now, and no tick is
posted any more. -/
def Final (es : List Episode) (now : SessionStage) : Prop :=
  ∀ earlier e later, es = earlier ++ e :: later → e.after = .closed →
    now = .closed ∧ ∀ x ∈ later, x.before = .closed ∧ x.ticked = false

theorem Final.concat {es : List Episode} {e : Episode} (h : Final es e.before)
    (closed : e.before = .closed → e.after = .closed ∧ e.ticked = false) :
    Final (es ++ [e]) e.after := by
  intro earlier x later whole after
  rcases List.eq_nil_or_concat later with rfl | ⟨front, last, rfl⟩
  · obtain ⟨-, rfl⟩ := List.append_singleton_inj.mp whole
    exact ⟨after, by simp⟩
  · rw [List.concat_eq_append, ← List.cons_append, ← List.append_assoc] at whole
    obtain ⟨split, rfl⟩ := List.append_singleton_inj.mp whole
    obtain ⟨now, others⟩ := h earlier x front split after
    obtain ⟨still, quiet⟩ := closed now
    refine ⟨still, fun y hy => ?_⟩
    rw [List.concat_eq_append] at hy
    rcases List.mem_append.mp hy with hy | hy
    · exact others y hy
    · obtain rfl := List.mem_singleton.mp hy
      exact ⟨now, quiet⟩

/-! ## Runs -/

/-- What is so of every moment by itself. -/
structure Episode.Lawful (e : Episode) : Prop where
  /-- An event is met in the stage of the session, and what it asks for is sent. -/
  turn : ∀ t, e.turn? = some t → t.before = e.before ∧
    (transmissions t.calls).map Transmission.frame = t.outbound?.toList
  /-- An open session stays open until it closes. -/
  left : e.before = .opened → e.after ≠ .opened → e.after = .closed

/-- An open session that does not stay open has closed. -/
theorem Machine.Outcome.stage_left {L : Type} {m next : Machine L} {a : Answers} {r : Response L}
    {calls : List (Call L)} (h : Outcome m a r next calls) (opened : m.state = .opened)
    (unopened : next.state ≠ .opened) : next.state = .closed := by
  cases stage : next.state with
  | connecting => exact absurd (opened.symm.trans (h.stage_connecting stage)) (by simp)
  | opened => exact absurd stage unopened
  | closed => rfl

namespace Ensemble

/-- What is so in the course of every run. -/
structure Steady (settings : SessionPolicy) (observers : List (Option Wishes))
    (es : List Episode) (r : Ensemble) : Prop where
  /-- The session owns what belongs to its stage. -/
  sound : r.task.machine.Sound
  /-- Its settings stay. -/
  unchanged : r.task.machine.settings = settings
  /-- Its observers stay. -/
  observers : r.observers = observers.map (Option.map Wishes.reactions)
  /-- Until it has closed it listens. -/
  listens : r.stage ≠ .closed → r.task.queue.accepts = true
  /-- The heartbeat is where it should be. -/
  rhythm : Rhythm settings.heartbeat es r.stage r.heartbeat r.now
  /-- Until the session has closed every tick has been met or waits. -/
  counted : r.stage ≠ .closed → ticksMet es + r.ticksWaiting = (ticks es).length
  /-- Every moment is as it should be. -/
  each : ∀ e ∈ es, e.Lawful
  /-- The log has what the session does. -/
  log : r.log.filterMap Activity.call? = Turn.log (encounters es)
  /-- A session that has closed stays closed, and no tick is posted any more. -/
  final : Final es r.stage

variable {settings : SessionPolicy} {observers : List (Option Wishes)} {es : List Episode}
  {r next : Ensemble}

/-- A session that has not met anything. -/
theorem steady_ofSession (id : SessionIdentity) (settings : SessionPolicy) (url : Option String)
    (source : Source) (file : Option Recorder) (observers : List (Option Wishes)) :
    Steady settings observers [] (ofSession id settings url source file
      (observers.map (Option.map Wishes.reactions))) := by
  constructor
  case sound => exact Machine.sound_fresh id settings _
  case unchanged => rfl
  case observers => rfl
  case listens => exact fun _ => rfl
  case rhythm =>
    exact .unopened (by simp [ofSession, stage, SessionTask.start, Machine.fresh]) rfl rfl rfl
  case counted => exact fun _ => rfl
  case each => simp
  case log => cases url <;> rfl
  case final => simp [Final]

/-- After the session has closed no tick is due. -/
theorem Steady.quiet (h : Steady settings observers es r) (m : Moment)
    (closed : r.stage = .closed) : (r.episode m).ticked = false := by
  have silent : r.heartbeat.timer = none :=
    Option.eq_none_iff_forall_ne_some.mpr fun timer found => by
      simpa [closed] using h.rhythm.opened_of_timer found
  cases m with
  | beat => simp [episode, ticksAt, Heartbeat.due?, silent]
  | _ => rfl

/-- A moment in which the session meets no event. -/
theorem Steady.aside (h : Steady settings observers es r) {e : Episode} (idle : e.turn? = none)
    (before : e.before = r.stage) (after : e.after = r.stage)
    (machine : next.stage = r.stage ∧ next.task.machine.settings = r.task.machine.settings ∧
      (r.task.machine.Sound → next.task.machine.Sound))
    (same : next.observers = r.observers ∧ next.log = r.log)
    (accepts : next.task.queue.accepts = r.task.queue.accepts)
    (waiting : r.task.queue.accepts = true →
      next.ticksWaiting = r.ticksWaiting + if e.ticked then 1 else 0)
    (rhythm : Rhythm settings.heartbeat (es ++ [e]) r.stage next.heartbeat next.now)
    (quiet : r.stage = .closed → e.ticked = false) :
    Steady settings observers (es ++ [e]) next := by
  obtain ⟨stage, kept, sound⟩ := machine
  have turns : encounters (es ++ [e]) = encounters es := by simp [encounters_concat, idle]
  constructor
  case sound => exact sound h.sound
  case unchanged => exact kept.trans h.unchanged
  case observers => exact same.1.trans h.observers
  case listens => exact fun unclosed => accepts.trans (h.listens (stage ▸ unclosed))
  case rhythm => exact stage ▸ rhythm
  case counted =>
    intro unclosed
    rw [stage] at unclosed
    have counted := h.counted unclosed
    rw [ticksMet, turns, waiting (h.listens unclosed), ticks_concat, List.length_append, ← counted,
      ticksMet, ← Nat.add_assoc]
    split <;> rfl
  case each =>
    intro x hx
    rcases List.mem_append.mp hx with hx | hx
    · exact h.each x hx
    · obtain rfl := List.mem_singleton.mp hx
      exact ⟨fun t met => by simp [idle] at met,
        fun opened left => absurd (after.trans (before.symm.trans opened)) left⟩
  case log => rw [same.2, h.log, turns]
  case final =>
    rw [stage, ← after]
    exact Final.concat (before ▸ h.final)
      fun closed => ⟨after.trans (before.symm.trans closed), quiet (before.symm.trans closed)⟩

/-- Observers ask for many things, but do not tick. -/
theorem Steady.echo_quiet (h : Steady settings observers es r) (calls : List (Call MeteredLink)) :
    (calls.flatMap fun c => r.echo (.call c)).count .heartbeatTick = 0 := by
  refine List.count_eq_zero.mpr fun tick => ?_
  obtain ⟨c, -, tick⟩ := List.mem_flatMap.mp tick
  obtain ⟨wishes, echoed, -⟩ := echo_wishes h.observers (.call c)
  rw [echoed] at tick
  obtain ⟨w, -, same⟩ := List.mem_map.mp tick
  cases w <;> simp [Wish.event] at same

/-- A tick that is met has been waiting, and no other tick comes or goes. -/
theorem Handling.count_ticks {event : Event MeteredLink} (now : Handling r event next)
    (unclosed : next.stage ≠ .closed) (listens : r.task.queue.accepts = true)
    (echo : ((r.task.machine.handle r.answers event).2.flatMap fun c =>
      r.echo (.call c)).count .heartbeatTick = 0) :
    [event].count .heartbeatTick + next.ticksWaiting = r.ticksWaiting := by
  obtain ⟨rest, waited, queue⟩ := now.queue unclosed
  have waiting : next.ticksWaiting = rest.count .heartbeatTick := by
    have accepts : ({ r.task.queue with items := rest } : Mailbox (Event MeteredLink)).accepts =
        true := listens
    rw [ticksWaiting, queue, Mailbox.sendAll_eq, if_pos accepts, List.count_append, echo]
    rfl
  rw [waiting, ticksWaiting, ← List.count_append]
  rcases waited with items | ⟨items, other⟩
  · rw [items, List.singleton_append]
  -- an event that did not wait is no tick
  · rw [List.count_append, List.count_singleton, if_neg (by simpa using other), items,
      Nat.zero_add]

/-- A moment in which the session meets an event. -/
theorem Steady.meet (h : Steady settings observers es r) {m : Moment} {event : Event MeteredLink}
    (met : r.met? m = some event) (quiet : r.ticksAt m = false)
    (now : Handling r event (r.pass m)) :
    Steady settings observers (es ++ [r.episode m]) (r.pass m) := by
  have outcome := h.sound.handle_outcome r.answers event
  have sound := h.sound.handle r.answers event
  rw [← now.machine] at outcome sound
  have unchanged : (r.pass m).task.machine.settings = settings :=
    outcome.unchanged.2.1.trans h.unchanged
  have turn : (r.episode m).turn? = some (r.task.machine.turn event r.answers) := by
    simp [episode, met]
  have turns : encounters (es ++ [r.episode m]) =
      encounters es ++ [r.task.machine.turn event r.answers] := by
    rw [encounters_concat, turn]
    rfl
  have left : r.stage = .opened → (r.pass m).stage ≠ .opened → (r.pass m).stage = .closed :=
    outcome.stage_left
  constructor
  case sound => exact sound
  case unchanged => exact unchanged
  case observers => exact now.observers.trans h.observers
  case listens =>
    intro unclosed
    obtain ⟨rest, -, queue⟩ := now.queue unclosed
    rw [queue, Mailbox.accepts_sendAll]
    exact h.listens (mt outcome.stage_closed unclosed)
  case rhythm =>
    have beating := h.rhythm.turn (e := r.episode m) rfl rfl quiet left outcome.stage_closed
    rw [now.heartbeat, now.now, unchanged]
    simp only [sound.heartbeat]
    exact beating
  case counted =>
    intro unclosed
    have before : r.stage ≠ .closed := mt outcome.stage_closed unclosed
    have taken := now.count_ticks unclosed (h.listens before) (h.echo_quiet _)
    have posted : Livecast.ticks (es ++ [r.episode m]) = Livecast.ticks es := by
      have unticked : (r.episode m).ticked = false := quiet
      simp [ticks_concat, unticked]
    have metToo : ticksMet (es ++ [r.episode m]) = ticksMet es + [event].count .heartbeatTick := by
      rw [ticksMet, turns, List.map_append, List.count_append]
      rfl
    rw [metToo, posted, ← h.counted before, ← taken, Nat.add_assoc]
  case each =>
    intro x hx
    rcases List.mem_append.mp hx with hx | hx
    · exact h.each x hx
    · obtain rfl := List.mem_singleton.mp hx
      refine ⟨fun t ht => ?_, left⟩
      obtain rfl := Option.some.inj (turn.symm.trans ht)
      exact ⟨rfl, (Turn.outbound?_eq _) ▸ outcome.sent_frames⟩
  case log => rw [now.calls, h.log, turns, Turn.log_concat]; rfl
  case final =>
    exact Final.concat (e := r.episode m) h.final
      fun closed => ⟨outcome.stage_closed closed, quiet⟩

/-- **Every moment of a run keeps it steady.** -/
theorem Steady.step (h : Steady settings observers es r) (m : Moment) :
    Steady settings observers (es ++ [r.episode m]) (r.pass m) := by
  obtain ⟨next, lands⟩ : ∃ next, r.pass m = next := ⟨_, rfl⟩
  have after : (r.episode m).after = next.stage := congrArg stage lands
  have comes : Passage r m next := lands ▸ r.passage m
  rw [lands]
  cases comes with
  | waited nanos =>
      obtain ⟨passes, intime⟩ := timeAfter_bounds (fun _ => h.rhythm.now_le_due) nanos
      exact h.aside rfl rfl after ⟨rfl, rfl, id⟩ ⟨rfl, rfl⟩ rfl (fun _ => rfl)
        ((h.rhythm.still after.symm rfl).wait passes intime) (h.quiet _)
  | early notyet =>
      have quiet : (r.episode .beat).ticked = false := by
        cases found : r.heartbeat.timer with
        | none => simp [episode, ticksAt, Heartbeat.due?, found]
        | some timer =>
            simp [episode, ticksAt, Heartbeat.due?, found, Nat.not_le_of_lt (notyet timer found)]
      exact h.aside rfl rfl after ⟨rfl, rfl, id⟩ ⟨rfl, rfl⟩ rfl (fun _ => by simp [quiet])
        (h.rhythm.still after.symm quiet) (h.quiet _)
  | ticked found due =>
      -- only an open session has a timer, so that somebody listens
      have listens := h.listens (by simp [h.rhythm.opened_of_timer found])
      have ticked : (r.episode .beat).ticked = true := by
        simp [episode, ticksAt, Heartbeat.due?, found, due, listens]
      refine h.aside rfl rfl after ⟨rfl, rfl, id⟩ ⟨rfl, rfl⟩ ?_ (fun _ => ?_) ?_ (h.quiet _)
      · exact Mailbox.accepts_sendAll r.task.queue [.heartbeatTick]
      · rw [ticked, if_pos rfl, ticksWaiting, ticksWaiting]
        show ((r.task.queue.send .heartbeatTick).items).count _ = _
        rw [Mailbox.send_of_accepts listens, List.count_append]
        rfl
      · rw [listens]
        exact h.rhythm.tick found due after.symm rfl ticked
  | handled met quiet now => exact lands ▸ h.meet met quiet (lands ▸ now)
  | kept met quiet now =>
      have idle : (r.episode m).turn? = none := by simp [episode, met]
      have unticked : (r.episode m).ticked = false := quiet
      obtain ⟨posted, others, queue⟩ := now.queue
      refine h.aside idle rfl (after.trans now.machine.1) now.machine ⟨now.observers, now.log⟩ ?_
        (fun accepts => ?_) ?_ (h.quiet m)
      · rw [queue, Mailbox.accepts_sendAll]
      · rw [ticksWaiting, queue, Mailbox.sendAll_eq, if_pos accepts, List.count_append,
          List.count_eq_zero.mpr others, unticked]
        rfl
      · rw [now.heartbeat, now.now]
        exact h.rhythm.still (after.trans now.machine.1).symm quiet

/-- **Every run is steady.** -/
theorem Steady.live {start : Ensemble} (fresh : Steady settings observers [] start)
    (ms : List Moment) : Steady settings observers (start.story ms) (start.live ms) := by
  have past := past_live start ms
  generalize start.story ms = es, start.live ms = last at past
  induction past with
  | begin => exact fresh
  | moment _ m ih => exact ih.step m

end Ensemble

/-! ## The law of the heartbeat -/

/-- **The schedule of a heartbeat** that has ticked since `start`, up to the time `stop`. -/
structure OnBeat (period : Duration) (start stop : Nat) (posted : List Nat) : Prop where
  /-- It ticks only when some whole periods have passed, and not after `stop`. -/
  only : ∀ time ∈ posted, time ≤ stop ∧ ∃ k, 1 ≤ k ∧ time = start + k * pulse period
  /-- It has ticked at the end of each period that ends before `stop`. -/
  all : ∀ k, 1 ≤ k → start + k * pulse period < stop → start + k * pulse period ∈ posted
  /-- It ticks once at a time. -/
  once : posted.Pairwise (· < ·)

theorem pulse_pos (period : Duration) : 0 < pulse period :=
  Nat.lt_of_lt_of_le (show 0 < Timer.minPeriod.nanos by decide) (Nat.le_max_right _ _)

theorem onBeat_beats {period : Duration} {start stop n : Nat}
    (past : start + n * pulse period ≤ stop) (ahead : stop ≤ start + (n + 1) * pulse period) :
    OnBeat period start stop (beats start (pulse period) n) := by
  constructor
  case only =>
    intro time beat
    obtain ⟨k, below, rfl⟩ := List.mem_map.mp beat
    have few : (k + 1) * pulse period ≤ n * pulse period :=
      Nat.mul_le_mul_right _ (List.mem_range.mp below)
    exact ⟨by omega, k + 1, by omega, rfl⟩
  case all =>
    intro k positive before
    have few : k * pulse period < (n + 1) * pulse period := by omega
    have below := Nat.lt_of_mul_lt_mul_right few
    exact List.mem_map.mpr ⟨k - 1, List.mem_range.mpr (by omega), by
      rw [Nat.sub_add_cancel positive]⟩
  case once =>
    refine List.pairwise_map.mpr (List.pairwise_lt_range.imp fun {i j} less => ?_)
    exact Nat.add_lt_add_left (Nat.mul_lt_mul_of_pos_right (by omega) (pulse_pos period)) start

/-- **The law of the heartbeat**, for what is told of a run and what the run comes to. -/
structure Punctual (period : Duration) (es : List Episode) (last : Ensemble) : Prop where
  /-- A session that opens does so once.  From then on its heartbeat keeps to its schedule, until
  the session leaves the stage or up to now. -/
  schedule : openings es = [] ∧ leavings es = [] ∧ ticks es = [] ∨
    ∃ start stop, openings es = [start] ∧
      (leavings es = [stop] ∨ leavings es = [] ∧ last.stage = .opened ∧ last.now = stop) ∧
      OnBeat period start stop (ticks es)
  /-- No tick is lost: until the session has closed each of them has been met or waits. -/
  counted : last.stage ≠ .closed → ticksMet es + last.ticksWaiting = (ticks es).length
  /-- For each tick that it meets while it is open the session sends one frame. -/
  heard : ∀ t ∈ encounters es, t.event = .heartbeatTick → t.before = .opened →
    (transmissions t.calls).map Transmission.frame = [.text "h"]
  /-- Unless it is open it sends nothing, whatever it meets. -/
  unheard : ∀ t ∈ encounters es, t.before ≠ .opened → transmissions t.calls = []
  /-- Once the session has left the stage it has closed: no tick is posted any more, and those that
  were posted, like everything else, have nothing sent. -/
  final : ∀ earlier e later, es = earlier ++ e :: later → e.before = .opened → e.after ≠ .opened →
    ∀ x ∈ later, x.before = .closed ∧ x.ticked = false ∧
      ∀ t, x.turn? = some t → transmissions t.calls = []
  /-- Nothing else sends anything. -/
  log : transmissions (last.log.filterMap Activity.call?) =
    (encounters es).flatMap fun t => transmissions t.calls

/-- What is met in a moment is met in the stage of the session, and has the frame sent that it asks
for. -/
theorem Ensemble.Steady.encounter {settings : SessionPolicy} {observers : List (Option Wishes)}
    {es : List Episode} {r : Ensemble} (h : Steady settings observers es r) {t : Turn MeteredLink}
    (ht : t ∈ encounters es) :
    (transmissions t.calls).map Transmission.frame = t.outbound?.toList := by
  obtain ⟨e, he, met⟩ := List.mem_filterMap.mp ht
  exact ((h.each e he).turn t met).2

/-- A steady run obeys the law. -/
theorem Ensemble.Steady.punctual {settings : SessionPolicy} {observers : List (Option Wishes)}
    {es : List Episode} {r : Ensemble} (h : Steady settings observers es r) :
    Punctual settings.heartbeat es r := by
  have unheard : ∀ t ∈ encounters es, t.before ≠ .opened → transmissions t.calls = [] := by
    intro t ht shut
    have asked : t.outbound? = none := by
      unfold Turn.outbound?
      split <;> first | exact absurd (by assumption) shut | rfl
    simpa [asked] using h.encounter ht
  constructor
  case schedule =>
    have rhythm := h.rhythm
    generalize stage : r.stage = now at rhythm
    generalize r.heartbeat = beating at rhythm
    generalize time : r.now = moment at rhythm
    cases rhythm with
    | unopened _ opens leaves posted => exact .inl ⟨opens, leaves, posted⟩
    | opened opens leaves posted past ahead =>
        exact .inr ⟨_, _, opens, .inr ⟨leaves, rfl, rfl⟩, posted ▸ onBeat_beats past ahead⟩
    | left opens leaves posted past ahead =>
        exact .inr ⟨_, _, opens, .inl leaves, posted ▸ onBeat_beats past ahead⟩
  case counted => exact h.counted
  case heard =>
    intro t ht tick opened
    rw [h.encounter ht, Turn.outbound?, opened, tick]
    rfl
  case unheard => exact unheard
  case final =>
    intro earlier e later whole opened left x hx
    have told : e ∈ es := whole ▸ List.mem_append_right _ List.mem_cons_self
    obtain ⟨-, others⟩ := h.final earlier e later whole ((h.each e told).left opened left)
    obtain ⟨closed, quiet⟩ := others x hx
    have toldToo : x ∈ es :=
      whole ▸ List.mem_append_right _ (List.mem_cons_of_mem _ hx)
    refine ⟨closed, quiet, fun t met => unheard t (List.mem_filterMap.mpr ⟨x, toldToo, met⟩) ?_⟩
    rw [((h.each x toldToo).turn t met).1, closed]
    simp
  case log => rw [h.log, Turn.log, transmissions, List.filterMap_flatMap]; rfl

/-- **The heartbeat of every session keeps to its schedule**, in every run on a clock: whatever the
period, whenever the session opens and closes, and whatever else happens to it, by itself or by
hand. -/
theorem Ensemble.live_punctual (id : SessionIdentity) (settings : SessionPolicy)
    (url : Option String) (source : Source) (file : Option Recorder)
    (observers : List (Option Wishes)) (ms : List Moment) :
    let start := ofSession id settings url source file
      (observers.map (Option.map Wishes.reactions))
    Punctual settings.heartbeat (start.story ms) (start.live ms) :=
  ((steady_ofSession id settings url source file observers).live ms).punctual

/-- A session whose period is zero ticks every millisecond.  The second tick is due when the session
is closed, and comes too late. -/
example : ticks ((Ensemble.ofSession ⟨"c", "k", .watch⟩ ⟨.zero, .zero, false⟩ none
      (.manual (.fresh false)) none []).story
    [.feed (.opened ⟨"a", none, .transport "gone"⟩) (by simp), .wait 5000000, .beat,
      .wait 5000000, .feed .closeRequested (by simp), .beat]) = [1000000] := by
  decide

end Livecast
