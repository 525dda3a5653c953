import Livecast.Proofs.Capture.Delivery
import Livecast.Proofs.Session.Clock

/-!
# The clock of a session

The clock stops at each time at which the heartbeat or the producer is due, fires what is due, and
lets all tasks run until they wait.  How often it may stop is bounded in advance.  The bound is
enough: from one firing of a timer to the next at least a millisecond passes, even if the timer ends
and begins again in between.

## Main Definitions

* `Rearmed`, `Fired` - what can become of a timer
* `Ahead`, `Ensemble.Paced` - when timers fire next, at the earliest
* `Ensemble.InTime` - no timer is overdue
* `Stretch`, `Ensemble.spend` - what can be done to a session

## Main Statements

* `Fired.ahead` - a timer that fires can fire less often from then on
* `Ensemble.rewound_undergo` - what makes a timer fire, and what does not
* `Ensemble.Paced.advanceUpTo` - the clock reaches its end, from moment to moment
* `Ensemble.InTime.pass`, `Ensemble.InTime.advance` - timers stay in time
* `Ensemble.InTime.exists_live` - whatever is done to a session is a run on a clock
-/

namespace Livecast

/-! ## One timer -/

/-- What can become of a timer at the time `now`, apart from firing. -/
inductive Rearmed (now : Nat) (before : Option Timer) : Option Timer → Prop
  /-- It goes on. -/
  | kept : Rearmed now before before
  /-- It ends. -/
  | ended : Rearmed now before none
  /-- It begins anew. -/
  | begun (period : Duration) : Rearmed now before (some (.start period now))

/-- What becomes of a timer that is fired at the time `now`. -/
inductive Fired (now : Nat) : Option Timer → Option Timer → Prop
  /-- It is not due. -/
  | early {timer : Option Timer} (h : ∀ t, timer = some t → now < t.due) : Fired now timer timer
  /-- It goes on. -/
  | rung {t : Timer} (due : t.due ≤ now) : Fired now (some t) (some t.next)
  /-- It ends. -/
  | ended {t : Timer} (due : t.due ≤ now) : Fired now (some t) none

/-- A timer is not overdue at the time `now`, and does not fire before the time `least`, nor too
often. -/
structure Ahead (least now : Nat) (timer : Option Timer) : Prop where
  /-- It is not overdue. -/
  intime : ∀ t, timer = some t → now ≤ t.due
  /-- It does not fire before. -/
  later : ∀ t, timer = some t → least ≤ t.due
  /-- It fires at most once a period. -/
  slow : ∀ t, timer = some t → Timer.minPeriod.nanos ≤ t.period.nanos
  /-- Nor does a timer that begins now. -/
  near : least ≤ now + Timer.minPeriod.nanos

/-- How often a timer can fire from the time `least` on, up to the time `limit`. -/
def stops (limit least : Nat) : Nat :=
  (limit + Timer.minPeriod.nanos - least) / Timer.minPeriod.nanos

variable {now least limit : Nat} {before after : Option Timer}

theorem ahead_none (near : least ≤ now + Timer.minPeriod.nanos) : Ahead least now none :=
  ⟨by simp, by simp, by simp, near⟩

theorem ahead_some {t : Timer} (intime : now ≤ t.due) (later : least ≤ t.due)
    (slow : Timer.minPeriod.nanos ≤ t.period.nanos)
    (near : least ≤ now + Timer.minPeriod.nanos) : Ahead least now (some t) where
  intime := by simpa
  later := by simpa
  slow := by simpa
  near := near

theorem Rearmed.trans {last : Option Timer} (h : Rearmed now before after)
    (more : Rearmed now after last) : Rearmed now before last := by
  cases more with
  | kept => exact h
  | ended => exact .ended
  | begun period => exact .begun period

theorem Rearmed.ahead (h : Rearmed now before after) (ahead : Ahead least now before) :
    Ahead least now after := by
  cases h with
  | kept => exact ahead
  | ended => exact ahead_none ahead.near
  | begun period =>
      have due : now + Timer.minPeriod.nanos ≤ (Timer.start period now).due :=
        Nat.add_le_add_left (Nat.le_max_right _ _) now
      exact ahead_some (Nat.le_of_add_right_le due) (Nat.le_trans ahead.near due)
        (Timer.minPeriod_le_start period now) ahead.near

/-- Time passes, but not beyond the timer. -/
theorem Ahead.wait {time : Nat} (ahead : Ahead least now before) (passes : now ≤ time)
    (intime : ∀ t, before = some t → time ≤ t.due) : Ahead least time before :=
  { ahead with intime := intime, near := Nat.le_trans ahead.near (Nat.add_le_add_right passes _) }

/-- Once a timer has fired, it fires once less. -/
theorem stops_lt (later : least ≤ now) (reached : now ≤ limit) :
    stops limit (now + Timer.minPeriod.nanos) < stops limit least := by
  unfold stops
  have positive : 0 < Timer.minPeriod.nanos := by decide
  generalize Timer.minPeriod.nanos = period at positive
  calc (limit + period - (now + period)) / period
      < (limit - now + period) / period := by
        rw [Nat.add_div_right _ positive, Nat.add_sub_add_right]
        exact Nat.lt_succ_self _
    _ ≤ (limit + period - least) / period := Nat.div_le_div_right (by omega)

theorem lt_of_stops_eq_zero (h : stops limit least = 0) : limit < least := by
  have positive : 0 < Timer.minPeriod.nanos := by decide
  have few := (Nat.div_eq_zero_iff_lt positive).mp h
  omega

/-- A timer that fires can fire less often from then on. -/
theorem Fired.ahead (h : Fired now before after) (ahead : Ahead least now before)
    (reached : now ≤ limit) : ∃ least', Ahead least' now after ∧
      stops limit least' ≤ stops limit least ∧
      ((∃ t, before = some t ∧ t.due = now) → stops limit least' < stops limit least) := by
  cases h with
  | early later =>
      refine ⟨least, ahead, Nat.le_refl _, ?_⟩
      rintro ⟨t, found, rfl⟩
      exact absurd (later t found) (Nat.lt_irrefl _)
  | @rung t due =>
      have fewer := stops_lt (Nat.le_trans (ahead.later t rfl) due) reached
      have next : now + Timer.minPeriod.nanos ≤ t.next.due :=
        Nat.add_le_add (ahead.intime t rfl) (ahead.slow t rfl)
      exact ⟨now + Timer.minPeriod.nanos,
        ahead_some (Nat.le_of_add_right_le next) next (ahead.slow t rfl) (Nat.le_refl _),
        Nat.le_of_lt fewer, fun _ => fewer⟩
  | @ended t due =>
      have fewer := stops_lt (Nat.le_trans (ahead.later t rfl) due) reached
      exact ⟨now + Timer.minPeriod.nanos, ahead_none (Nat.le_refl _), Nat.le_of_lt fewer,
        fun _ => fewer⟩

/-! ## The timer of the producer -/

/-- The timer of the producer, while there is one. -/
def Source.timer? : Source → Option Timer
  | .reader s => s.producing.map Prod.snd
  | .manual _ => none

theorem Source.timer?_withOutput (s : Source) (output : Option (Mailbox SourceReport)) :
    (s.withOutput output).timer? = s.timer? := by
  cases s <;> rfl

namespace CaptureLine

theorem due?_eq (l : CaptureLine) : l.due? = l.source.timer?.map Timer.due := by
  obtain ⟨manual | reader, forwarding⟩ := l
  · rfl
  · exact (Option.map_map _ _ _).symm

/-- Starting a source begins its timer, and stopping it ends the timer. -/
theorem rearmed_perform (l : CaptureLine) (now : Nat) (call : SourceCall) :
    Rearmed now l.source.timer? (l.perform now call).source.timer? := by
  obtain ⟨source, forwarding⟩ := l
  cases call with
  | start cadence =>
      cases source with
      | manual s => exact .kept
      | reader s =>
          simp only [perform, Source.perform, ReaderSource.start]
          split
          · exact .begun cadence
          · exact .kept
  | stop =>
      cases source with
      | manual s => exact .kept
      | reader s => exact .ended

theorem rearmed_foldl_perform (l : CaptureLine) (now : Nat) (calls : List SourceCall) :
    Rearmed now l.source.timer?
      (calls.foldl (fun l call => l.perform now call) l).source.timer? := by
  induction calls generalizing l with
  | nil => exact .kept
  | cons call rest ih => exact (l.rearmed_perform now call).trans (ih _)

/-- With its input the timer of the producer ends. -/
theorem rearmed_readOnce? {l next : CaptureLine} (h : l.readOnce? = some next) (now : Nat) :
    Rearmed now l.source.timer? next.source.timer? := by
  obtain ⟨manual | s, forwarding⟩ := l
  · cases h
  · obtain ⟨t, read, rfl⟩ := Option.map_eq_some_iff.mp h
    obtain ⟨p, timer, producing, ⟨goes, -⟩ | ⟨-, rfl, -⟩⟩ := s.readOnce?_cases read
    · have same : t.producing.map Prod.snd = s.producing.map Prod.snd := by
        rw [goes, producing]
        rfl
      simp only [Source.timer?, same]
      exact .kept
    · exact .ended

theorem rearmed_forward? {L : Type} {l next : CaptureLine} {queue queue' : Mailbox (Event L)}
    (h : l.forward? queue = some (next, queue')) (now : Nat) :
    Rearmed now l.source.timer? next.source.timer? := by
  obtain ⟨output, same⟩ := source_forward? h
  rw [same, Source.timer?_withOutput]
  exact .kept

/-- A producer that cuts a segment goes on, or gives up. -/
theorem fired_fire (l : CaptureLine) (now : Nat) :
    Fired now l.source.timer? (l.fire now).source.timer? := by
  obtain ⟨manual | s, forwarding⟩ := l
  · exact .early (by simp [Source.timer?])
  cases producing : s.producing with
  | none =>
      have still : fire ⟨.reader s, forwarding⟩ now = ⟨.reader s, forwarding⟩ := by
        simp [fire, due?, ReaderSource.due?, producing]
      rw [still]
      exact .early (by simp [Source.timer?, producing])
  | some worker =>
      obtain ⟨p, timer⟩ := worker
      have running : Source.timer? (.reader s) = some timer := by simp [Source.timer?, producing]
      by_cases due : timer.due ≤ now
      · have cut : (fire ⟨.reader s, forwarding⟩ now).source = .reader s.cut := by
          simp [fire, due?, ReaderSource.due?, producing, due]
        rw [cut, running]
        simp only [ReaderSource.cut, producing, Source.timer?]
        split
        · exact .rung due
        · exact .ended due
      · have still : fire ⟨.reader s, forwarding⟩ now = ⟨.reader s, forwarding⟩ := by
          simp [fire, due?, ReaderSource.due?, producing, due]
        simp only [still, running]
        exact .early fun t same => Option.some.inj same ▸ Nat.lt_of_not_le due

theorem timer?_feed (l : CaptureLine) (act : Pipe → Pipe) (matters : Pipe → Bool) :
    (l.feed act matters).1.source.timer? = l.source.timer? := by
  obtain ⟨manual | s, forwarding⟩ := l <;> rfl

end CaptureLine

/-! ## The timers of an ensemble -/

namespace Ensemble

variable {r next : Ensemble} {i : Incident} {event : Event MeteredLink}

/-- What can become of the timers of an ensemble, apart from firing. -/
structure Rewound (r next : Ensemble) : Prop where
  /-- No time passes. -/
  now : next.now = r.now
  /-- The timer of the heartbeat. -/
  heartbeat : Rearmed r.now r.heartbeat.timer next.heartbeat.timer
  /-- The timer of the producer. -/
  producer : Rearmed r.now r.line.source.timer? next.line.source.timer?

/-- The heartbeat begins to tick when the session opens, and is silent unless it is open. -/
theorem rearmed_heartbeat (b : Heartbeat) (beats : Bool) (period : Duration) (now : Nat) :
    Rearmed now b.timer
      (if beats then if b.running then b else .start period now else .silent).timer := by
  cases beats with
  | false => exact .ended
  | true =>
      rw [if_pos rfl]
      split
      · exact .kept
      · exact .begun period

theorem rewound_follow (r : Ensemble)
    (done : SessionTask MeteredLink × List (Activity MeteredLink)) : Rewound r (r.follow done) where
  now := (follow_observers r done).2.1
  heartbeat := follow_heartbeat r done ▸ rearmed_heartbeat _ _ _ _
  producer := follow_line r done ▸ r.line.rearmed_foldl_perform _ _

/-- Nothing makes a timer fire but the clock and a cut of the producer. -/
theorem rewound_undergo (r : Ensemble) (unclocked : ∀ time, i ≠ .clock time) (uncut : i ≠ .cut) :
    Rewound r (r.undergo i) := by
  cases taken : r.taken? i with
  | some event =>
      obtain ⟨rest, shake, now⟩ := exists_taking taken
      exact ⟨now.now, now.heartbeat ▸ rearmed_heartbeat _ _ _ _,
        now.line ▸ r.line.rearmed_foldl_perform _ _⟩
  | none =>
      have apart := aside taken
      generalize r.undergo i = next at apart ⊢
      cases apart with
      | waits | wrote | concluded | posted | cutOff => exact ⟨rfl, .kept, .kept⟩
      | read line => exact ⟨rfl, .kept, CaptureLine.rearmed_readOnce? line _⟩
      | forwarded line => exact ⟨rfl, .kept, CaptureLine.rearmed_forward? line _⟩
      | arrived | exhausted => exact ⟨rfl, .kept, r.line.timer?_feed _ _ ▸ .kept⟩
      | clock time => exact absurd rfl (unclocked time)
      | cut => exact absurd rfl uncut

/-- The timers of the heartbeat and of the producer are not overdue, and do not fire before `least`
and `least'`. -/
structure Paced (least least' : Nat) (r : Ensemble) : Prop where
  /-- The heartbeat. -/
  heartbeat : Ahead least r.now r.heartbeat.timer
  /-- The producer. -/
  producer : Ahead least' r.now r.line.source.timer?

variable {least least' limit : Nat}

theorem Rewound.paced (change : Rewound r next) (h : Paced least least' r) :
    Paced least least' next where
  heartbeat := change.now ▸ change.heartbeat.ahead h.heartbeat
  producer := change.now ▸ change.producer.ahead h.producer

theorem Paced.settle (h : Paced least least' r) :
    r.settle.now = r.now ∧ Paced least least' r.settle := by
  refine settle_induction (P := fun next => next.now = r.now ∧ Paced least least' next) ⟨rfl, h⟩ ?_
  rintro before next move ⟨now, paced⟩ step
  have change := rewound_undergo (i := .move move) before (by simp) (by simp)
  rw [undergo, step, Option.getD_some] at change
  exact ⟨change.now.trans now, change.paced paced⟩

/-- Time passes, but not beyond a timer. -/
theorem Paced.wait {time : Nat} (h : Paced least least' r) (passes : r.now ≤ time)
    (intime : ∀ due, r.heartbeat.due? = some due ∨ r.line.due? = some due → time ≤ due) :
    Paced least least' { r with now := time } where
  heartbeat := h.heartbeat.wait passes fun t found =>
    intime t.due (.inl (by simp [Heartbeat.due?, found]))
  producer := h.producer.wait passes fun t found =>
    intime t.due (.inr (by simp [CaptureLine.due?_eq, found]))

/-- What is due is a timer. -/
theorem exists_timer {due : Nat} (isDue : r.heartbeat.due? = some due ∨ r.line.due? = some due) :
    (∃ t, r.heartbeat.timer = some t ∧ t.due = due) ∨
      ∃ t, r.line.source.timer? = some t ∧ t.due = due := by
  rw [CaptureLine.due?_eq] at isDue
  exact isDue.imp Option.map_eq_some_iff.mp Option.map_eq_some_iff.mp

/-- No timer is overdue. -/
theorem Paced.now_le (h : Paced least least' r) {due : Nat}
    (isDue : r.heartbeat.due? = some due ∨ r.line.due? = some due) : r.now ≤ due := by
  rcases exists_timer isDue with ⟨t, found, rfl⟩ | ⟨t, found, rfl⟩
  · exact h.heartbeat.intime t found
  · exact h.producer.intime t found

/-- A timer that cannot fire any more is not due in time. -/
theorem Paced.lt_due (h : Paced least least' r)
    (spent : stops limit least + stops limit least' = 0) {due : Nat}
    (isDue : r.heartbeat.due? = some due ∨ r.line.due? = some due) : limit < due := by
  rcases exists_timer isDue with ⟨t, found, rfl⟩ | ⟨t, found, rfl⟩
  · exact Nat.lt_of_lt_of_le (lt_of_stops_eq_zero (by omega)) (h.heartbeat.later t found)
  · exact Nat.lt_of_lt_of_le (lt_of_stops_eq_zero (by omega)) (h.producer.later t found)

/-- The heartbeat goes on after a tick, unless nobody listens. -/
theorem fired_beat (r : Ensemble) :
    Fired r.now r.heartbeat.timer r.beat.heartbeat.timer ∧ r.beat.now = r.now ∧
      r.beat.line = r.line := by
  rcases r.beat_cases with ⟨early, idle⟩ | ⟨timer, found, due, ticks⟩
  · rw [idle]
    exact ⟨.early early, rfl, rfl⟩
  · rw [ticks]
    refine ⟨?_, rfl, rfl⟩
    simp only [post, Heartbeat.tick, found, Option.map_some]
    split
    · exact .rung due
    · exact .ended due

/-- **When the timers fire, those that were due can fire less often from then on.** -/
theorem Paced.fire (h : Paced least least' r) (reached : r.now ≤ limit) :
    r.fire.now = r.now ∧ ∃ first first', Paced first first' r.fire ∧
      (r.heartbeat.due? = some r.now ∨ r.line.due? = some r.now →
        stops limit first + stops limit first' < stops limit least + stops limit least') := by
  obtain ⟨rung, now, line⟩ := r.fired_beat
  obtain ⟨first, heartbeat, atMost, fewer⟩ := rung.ahead h.heartbeat reached
  obtain ⟨first', producer, atMost', fewer'⟩ :=
    (CaptureLine.fired_fire r.line r.now).ahead h.producer reached
  have fired : r.fire = { r.beat with line := r.line.fire r.now } := by
    rw [← line, ← now]
    rfl
  rw [fired]
  refine ⟨now, first, first', ⟨now.symm ▸ heartbeat, now.symm ▸ producer⟩, ?_⟩
  intro isDue
  rcases exists_timer isDue with own | own
  · have := fewer own
    omega
  · have := fewer' own
    omega

/-- Where the clock ends no timer is overdue. -/
theorem Paced.rest (h : Paced least least' r) (later : r.now ≤ limit)
    (ended : r.nextDue? limit = none) : (∃ ms, r.live ms = { r with now := limit }) ∧
      Paced least least' { r with now := limit } :=
  ⟨exists_live_rest ended later,
    h.wait later fun due isDue => Nat.le_of_lt (nextDue?_eq_none ended due isDue)⟩

/-- **The clock does not run out of stops before its end**, and it moves as a run may move. -/
theorem Paced.advanceUpTo {fuel : Nat} (h : Paced least least' r) (later : r.now ≤ limit)
    (enough : stops limit least + stops limit least' ≤ fuel) :
    (advanceUpTo fuel limit r).now = limit ∧ (∃ ms, r.live ms = advanceUpTo fuel limit r) ∧
      ∃ first first', Paced first first' (advanceUpTo fuel limit r) := by
  -- each stop uses up one of the firings that are left to the timers
  induction fuel generalizing r least least' with
  | zero =>
      have ended : r.nextDue? limit = none := by
        refine Option.eq_none_iff_forall_ne_some.mpr fun due stop => ?_
        obtain ⟨reached, own, -⟩ := nextDue?_eq_some stop
        exact Nat.not_le_of_lt (h.lt_due (Nat.le_zero.mp enough) own) reached
      exact ⟨rfl, (h.rest later ended).1, _, _, (h.rest later ended).2⟩
  | succ fuel ih =>
      rw [Ensemble.advanceUpTo]
      cases stop : r.nextDue? limit with
      | none => exact ⟨rfl, (h.rest later stop).1, _, _, (h.rest later stop).2⟩
      | some due =>
          obtain ⟨reached, own, first⟩ := nextDue?_eq_some stop
          have soon := h.now_le own
          obtain ⟨ms, lived⟩ := exists_live_stop stop soon
          obtain ⟨still, l, l', fired, fewer⟩ := (h.wait soon first).fire reached
          obtain ⟨still', settled⟩ := fired.settle
          have now := still'.trans still
          have spent := fewer own
          obtain ⟨ended, ⟨more, rest⟩, paced⟩ := ih settled (now ▸ reached) (by omega)
          exact ⟨ended, ⟨ms ++ more, by rw [live_append, lived, rest]⟩, paced⟩

/-! ## Clocks in time -/

/-- No timer of an ensemble is overdue, and none fires too often. -/
def InTime (r : Ensemble) : Prop := Paced r.now r.now r

theorem Paced.inTime (h : Paced least least' r) : r.InTime where
  heartbeat := { h.heartbeat with later := h.heartbeat.intime, near := Nat.le_add_right _ _ }
  producer := { h.producer with later := h.producer.intime, near := Nat.le_add_right _ _ }

/-- A session that has not met anything is in time, if its source is at rest. -/
theorem inTime_ofSession (id : SessionIdentity) (settings : SessionPolicy) (url : Option String)
    (source : Source) (file : Option Recorder) (observers : List (Option Reactions))
    (resting : source.timer? = none) :
    (ofSession id settings url source file observers).InTime where
  heartbeat := ahead_none (Nat.zero_le _)
  producer := resting.symm ▸ ahead_none (Nat.zero_le _)

/-- Whatever happens without time passing, the timers stay in time. -/
theorem InTime.pass (h : r.InTime) (m : Moment) (still : ∀ nanos, m ≠ .wait nanos) :
    (r.pass m).InTime := by
  cases m with
  | wait nanos => exact absurd rfl (still nanos)
  | beat =>
      obtain ⟨rung, now, line⟩ := r.fired_beat
      obtain ⟨first, heartbeat, -⟩ := rung.ahead h.heartbeat (Nat.le_refl r.now)
      rw [← now] at heartbeat
      exact Paced.inTime ⟨heartbeat, now.symm ▸ line.symm ▸ h.producer⟩
  | incident i untimed =>
      by_cases cut : i = .cut
      · obtain ⟨first, producer, -⟩ :=
          (CaptureLine.fired_fire r.line r.now).ahead h.producer (Nat.le_refl r.now)
        subst cut
        exact Paced.inTime ⟨h.heartbeat, producer⟩
      · have unclocked (time : Nat) : i ≠ .clock time := by
          rintro rfl
          simp [Incident.isTimed] at untimed
        exact ((r.rewound_undergo unclocked cut).paced h).inTime
  | feed event => exact ((r.rewound_follow _).paced h).inTime
  | pump =>
      simp only [Ensemble.pass]
      split
      · exact h
      · have rest : r.withoutOldest.InTime := ⟨h.heartbeat, h.producer⟩
        exact ((r.withoutOldest.rewound_follow _).paced rest).inTime

/-- **The clock moves on to its end**, from moment to moment, and stays in time. -/
theorem InTime.advance (h : r.InTime) (millis : Nat) : (r.advance millis).InTime ∧
    (r.advance millis).now = r.now + millis * 1000000 ∧
      ∃ ms, r.live ms = r.advance millis := by
  have period : Timer.minPeriod.nanos = 1000000 := rfl
  have enough : stops (r.now + millis * 1000000) r.now = millis + 1 := by
    unfold stops
    rw [period]
    omega
  obtain ⟨ended, lived, _, _, paced⟩ := Paced.advanceUpTo h
    (Nat.le_add_right r.now (millis * 1000000))
    (show stops _ _ + stops _ _ ≤ 2 * millis + 2 by omega)
  exact ⟨paced.inTime, ended, lived⟩

end Ensemble

/-- What can be done to a session: something happens at once, or the clock moves on by some
milliseconds. -/
inductive Stretch where
  /-- Something happens at once. -/
  | moment (m : Moment) (still : ∀ nanos, m ≠ .wait nanos)
  /-- The clock moves on. -/
  | advance (millis : Nat)

namespace Ensemble

variable {r : Ensemble}

/-- What is done. -/
def spend (r : Ensemble) : Stretch → Ensemble
  | .moment m _ => r.pass m
  | .advance millis => r.advance millis

/-- **Whatever is done to a session**, it lives from moment to moment. -/
theorem InTime.exists_live (h : r.InTime) (stretches : List Stretch) :
    (stretches.foldl spend r).InTime ∧ ∃ ms, r.live ms = stretches.foldl spend r := by
  induction stretches generalizing r with
  | nil => exact ⟨h, [], rfl⟩
  | cons stretch rest ih =>
      have now : (r.spend stretch).InTime ∧ ∃ ms, r.live ms = r.spend stretch := by
        cases stretch with
        | moment m still => exact ⟨h.pass m still, [m], rfl⟩
        | advance millis => exact ⟨(h.advance millis).1, (h.advance millis).2.2⟩
      obtain ⟨inTime, ms, lived⟩ := now
      obtain ⟨last, more, lived'⟩ := ih inTime
      exact ⟨last, ms ++ more, by rw [live_append, lived, lived', List.foldl_cons]⟩

end Ensemble

end Livecast
