import Livecast.Proofs.Session.Ownership

/-!
# The history of a session

A run of a session is a list of turns: each says which event was handled, in which stage it was met,
what the collaborators answered and what was done to them.  Statements about whole runs are
statements about the turns of a run.

## Main Definitions

* `Turn` - one event and what the session did about it
* `Machine.turns` - the turns of a run
* `Machine.History` - the turns that lead from a new session to a machine, one event at a time

## Main Statements

* `Turn.split_log`, `Turn.split_filterMap` - every call in a log was made in a turn, and all that is
  read off some turns is read off one of them
* `Machine.history_run`, `Machine.History.replay` - the runs of a new session are its histories
* `Machine.History.invariant` - what holds at first and survives every outcome holds always
* `Machine.History.split` - every turn of a history was made by the machine that its past leads to
-/

namespace Livecast

variable {L : Type}

/-- One event in the life of a session, and what the session did about it. -/
structure Turn (L : Type) where
  /-- The stage in which the event was met. -/
  before : SessionStage
  /-- The event. -/
  event : Event L
  /-- What the collaborators answered. -/
  answers : Answers
  /-- What was done to the collaborators, in order. -/
  calls : List (Call L)
  /-- The stage afterwards. -/
  after : SessionStage

/-- What was done to the collaborators in the course of some turns. -/
def Turn.log (ts : List (Turn L)) : List (Call L) := ts.flatMap Turn.calls

@[simp] theorem Turn.log_nil : Turn.log ([] : List (Turn L)) = [] := rfl

@[simp] theorem Turn.log_cons (t : Turn L) (ts : List (Turn L)) :
    Turn.log (t :: ts) = t.calls ++ Turn.log ts := rfl

@[simp] theorem Turn.log_append (ts us : List (Turn L)) :
    Turn.log (ts ++ us) = Turn.log ts ++ Turn.log us := by
  simp [Turn.log]

theorem Turn.log_concat (ts : List (Turn L)) (t : Turn L) :
    Turn.log (ts ++ [t]) = Turn.log ts ++ t.calls := by
  simp

/-- What is read off a list begins with what is read off its first element. -/
theorem filterMap_cons_toList {α β : Type} (f : α → Option β) (x : α) (xs : List α) :
    (x :: xs).filterMap f = (f x).toList ++ xs.filterMap f := by
  cases h : f x <;> simp [h]

/-- Nothing follows what comes last and has not come before. -/
theorem eq_nil_of_concat_eq {α : Type} {front earlier later : List α} {x : α} (hx : x ∉ front)
    (h : front ++ [x] = earlier ++ x :: later) : later = [] := by
  rcases List.eq_nil_or_concat later with rfl | ⟨rest, last, rfl⟩
  · rfl
  · rw [List.concat_eq_append, ← List.cons_append, ← List.append_assoc] at h
    obtain ⟨rfl, -⟩ := List.append_singleton_inj.mp h
    simp at hx

/-- What is read off one more turn comes last. -/
theorem Turn.filterMap_concat {α : Type} (f : Turn L → Option α) (ts : List (Turn L)) (t : Turn L) :
    (ts ++ [t]).filterMap f = ts.filterMap f ++ (f t).toList := by
  rw [List.filterMap_append, filterMap_cons_toList, List.filterMap_nil, List.append_nil]

/-- What is read off some turns in the place `i` is read off a turn, after `i` others. -/
theorem Turn.split_filterMap {α : Type} {f : Turn L → Option α} {ts : List (Turn L)} {i : Nat}
    {x : α} (h : (ts.filterMap f)[i]? = some x) :
    ∃ before t after, ts = before ++ t :: after ∧ f t = some x ∧
      (before.filterMap f).length = i := by
  induction ts generalizing i with
  | nil => simp at h
  | cons t rest ih =>
      cases read : f t with
      | none =>
          rw [List.filterMap_cons_none read] at h
          obtain ⟨before, u, after, rfl, hu, hi⟩ := ih h
          exact ⟨t :: before, u, after, rfl, hu, by rw [List.filterMap_cons_none read, hi]⟩
      | some y =>
          rw [List.filterMap_cons_some read] at h
          cases i with
          | zero =>
              obtain rfl : y = x := by simpa using h
              exact ⟨[], t, rest, rfl, read, rfl⟩
          | succ i =>
              rw [List.getElem?_cons_succ] at h
              obtain ⟨before, u, after, rfl, hu, hi⟩ := ih h
              refine ⟨t :: before, u, after, rfl, hu, ?_⟩
              rw [List.filterMap_cons_some read, List.length_cons, hi]

/-- **Every call in a log was made in a turn**, after the calls of the turns before it. -/
theorem Turn.split_log {ts : List (Turn L)} {before after : List (Call L)} {c : Call L}
    (h : Turn.log ts = before ++ c :: after) :
    ∃ past t future earlier later, ts = past ++ t :: future ∧
      t.calls = earlier ++ c :: later ∧ before = Turn.log past ++ earlier := by
  induction ts generalizing before with
  | nil => simp at h
  | cons t rest ih =>
      rw [Turn.log_cons] at h
      rcases List.append_eq_append_iff.mp h with ⟨more, rfl, hrest⟩ | ⟨more, hcalls, hmore⟩
      · -- the first turn is over before the call is made
        obtain ⟨past, u, future, earlier, later, rfl, hu, rfl⟩ := ih hrest
        exact ⟨t :: past, u, future, earlier, later, rfl, hu, by simp⟩
      · cases more with
        | nil =>
            -- its calls end just before this one
            have hrest : Turn.log rest = [] ++ c :: after := hmore.symm
            obtain ⟨past, u, future, earlier, later, rfl, hu, hpast⟩ := ih hrest
            refine ⟨t :: past, u, future, earlier, later, rfl, hu, ?_⟩
            rw [Turn.log_cons, List.append_assoc, ← hpast, hcalls]
            simp
        | cons d more =>
            obtain ⟨rfl, rfl⟩ := List.cons_eq_cons.mp hmore
            exact ⟨[], t, rest, before, more, rfl, hcalls, rfl⟩

namespace Machine

/-- The turn in which a machine handles an event. -/
def turn (m : Machine L) (event : Event L) (a : Answers) : Turn L where
  before := m.state
  event := event
  answers := a
  calls := (m.handle a event).2
  after := (m.handle a event).1.state

/-- The turns of a run. -/
def turns (m : Machine L) : List (Event L × Answers) → List (Turn L)
  | [] => []
  | (event, a) :: rest => m.turn event a :: (m.handle a event).1.turns rest

/-- The calls of a run are those of its turns. -/
theorem log_turns (m : Machine L) (es : List (Event L × Answers)) :
    Turn.log (m.turns es) = (m.run es).2 := by
  induction es generalizing m with
  | nil => rfl
  | cons e rest ih =>
      rw [turns, Turn.log_cons, ih]
      rfl

theorem turns_append (m : Machine L) (es fs : List (Event L × Answers)) :
    m.turns (es ++ fs) = m.turns es ++ (m.run es).1.turns fs := by
  induction es generalizing m with
  | nil => rfl
  | cons e rest ih => rw [List.cons_append, turns, ih]; rfl

theorem run_append (m : Machine L) (es fs : List (Event L × Answers)) :
    m.run (es ++ fs) =
      (((m.run es).1.run fs).1, (m.run es).2 ++ ((m.run es).1.run fs).2) := by
  induction es generalizing m with
  | nil => rfl
  | cons e rest ih => simp only [List.cons_append, run, ih, List.append_assoc]

/-- The turns of a run are about its events, in order. -/
theorem filterMap_turns {α : Type} (f : Event L → Option α) (m : Machine L)
    (es : List (Event L × Answers)) :
    (m.turns es).filterMap (f ·.event) = es.filterMap (f ·.1) := by
  induction es generalizing m with
  | nil => rfl
  | cons e rest ih => rw [turns, List.filterMap_cons, List.filterMap_cons, ih]; rfl

/-- The turns that lead from a new session to a machine, one event at a time. -/
inductive History (id : SessionIdentity) (settings : SessionPolicy) (observers : Nat) :
    List (Turn L) → Machine L → Prop where
  /-- Nothing has happened yet. -/
  | fresh : History id settings observers [] (.fresh id settings observers)
  /-- One more event is handled. -/
  | turn {ts : List (Turn L)} {m : Machine L} (past : History id settings observers ts m)
      (event : Event L) (a : Answers) :
      History id settings observers (ts ++ [m.turn event a]) (m.handle a event).1

variable {id : SessionIdentity} {settings : SessionPolicy} {observers : Nat}

theorem History.run {ts : List (Turn L)} {m : Machine L} (past : History id settings observers ts m)
    (es : List (Event L × Answers)) :
    History id settings observers (ts ++ m.turns es) (m.run es).1 := by
  induction es generalizing ts m with
  | nil =>
      rw [turns, List.append_nil]
      exact past
  | cons e rest ih =>
      have more := ih (past.turn e.1 e.2)
      rw [List.append_assoc] at more
      exact more

/-- **A run of a new session is a history.** -/
theorem history_run (id : SessionIdentity) (settings : SessionPolicy) (observers : Nat)
    (es : List (Event L × Answers)) :
    History id settings observers ((fresh id settings observers).turns es)
      ((fresh id settings observers).run es).1 :=
  History.fresh.run es

namespace History

variable {ts : List (Turn L)} {m : Machine L}

/-- **A history is a run**: it can be had again from its events and the answers to them. -/
theorem replay (h : History id settings observers ts m) :
    (Machine.fresh id settings observers).turns (ts.map fun t => (t.event, t.answers)) = ts ∧
      ((Machine.fresh id settings observers).run (ts.map fun t => (t.event, t.answers))).1 = m := by
  induction h with
  | fresh => exact ⟨rfl, rfl⟩
  | turn _ event a ih =>
      obtain ⟨turns, reached⟩ := ih
      rw [List.map_append, turns_append, run_append, turns, reached]
      exact ⟨rfl, rfl⟩

/-- **Every machine that a history leads to is sound.** -/
theorem sound (h : History id settings observers ts m) : m.Sound := by
  induction h with
  | fresh => exact sound_fresh id settings observers
  | turn _ event a ih => exact ih.handle a event

/-- **The principle by which statements about all runs are proved**: what holds of a new session and
survives every outcome of every event holds of all histories. -/
@[elab_as_elim]
theorem invariant {motive : ∀ ts m, History id settings observers ts m → Prop}
    (fresh : motive [] (.fresh id settings observers) .fresh)
    (turn : ∀ {ts : List (Turn L)} {m : Machine L} {event : Event L} {a : Answers}
      {r : Response L} {next : Machine L} {calls : List (Call L)}
      (past : History id settings observers ts m)
      (now : History id settings observers
        (ts ++ [⟨m.state, event, a, calls, next.state⟩]) next), motive ts m past →
      response m.state event = r → Outcome m a r next calls →
      motive (ts ++ [⟨m.state, event, a, calls, next.state⟩]) next now)
    (h : History id settings observers ts m) : motive ts m h := by
  induction h with
  | fresh => exact fresh
  | turn past event a ih =>
      exact turn past (past.turn event a) ih rfl (past.sound.handle_outcome a event)

/-- Identity, settings and observers are those of the new session. -/
theorem unchanged (h : History id settings observers ts m) :
    m.id = id ∧ m.settings = settings ∧ m.observers = observers := by
  induction h using invariant with
  | fresh => exact ⟨rfl, rfl, rfl⟩
  | turn _ _ ih _ outcome =>
      obtain ⟨hid, hsettings, hobservers⟩ := outcome.unchanged
      rwa [hid, hsettings, hobservers]

/-- **Every turn of a history was made by the machine that its past leads to.** -/
theorem split {past future : List (Turn L)} {t : Turn L}
    (h : History id settings observers (past ++ t :: future) m) :
    ∃ now : Machine L, History id settings observers past now ∧
      t = now.turn t.event t.answers := by
  generalize whole : past ++ t :: future = ts at h
  induction h generalizing future with
  | fresh => simp at whole
  | @turn ts now before event a ih =>
      rcases List.eq_nil_or_concat future with rfl | ⟨rest, last, rfl⟩
      · -- the turn in question is the last one of the history
        obtain ⟨rfl, rfl⟩ := List.append_singleton_inj.mp whole
        exact ⟨now, before, rfl⟩
      · rw [List.concat_eq_append, ← List.cons_append, ← List.append_assoc] at whole
        exact ih (List.append_singleton_inj.mp whole).1

end History

end Machine

end Livecast
