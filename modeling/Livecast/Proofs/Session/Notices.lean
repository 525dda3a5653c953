import Livecast.Proofs.Session.Teardown

/-!
# What the observers are told

All observers of a session hear the same, and each notice reaches all of them before the next one is
given.  What they hear follows a grammar: the session is open, any number of errors that the server
reports, at most one failure, the session has closed; or the last two alone, if it never opens.

## Main Definitions

* `notices`, `broadcast`, `heard` - what a log tells, what telling everybody looks like, and what
  one observer hears of it
* `greeting`, `reports`, `ending` - the three parts of what a session says
* `Machine.said` - what a machine has said in the course of its history
* `Announced` - the observer protocol

## Main Statements

* `Machine.Outcome.notices` - what one event says
* `Machine.History.notices` - what has been said in a history is its `said`, broadcast
* `Machine.run_announced` - every run follows the protocol

## Design Notes

`said` is an equation and not a bound: the reports in it are all the reports that there were.  That
a session which never opened has passed on no reports is not part of its definition but a fact,
`Machine.History.opened_once`, and the grammar rests on it.
-/

namespace Livecast

variable {L : Type}

/-- Who is told what by a call. -/
def Call.notice? : Call L → Option (Nat × Notice)
  | .toldOpened i => some (i, .opened)
  | .toldError i e => some (i, .failure e)
  | .toldClosed i => some (i, .closed)
  | _ => none

/-- Who is told what by a log, in order. -/
def notices (log : List (Call L)) : List (Nat × Notice) := log.filterMap Call.notice?

@[simp] theorem notices_nil : notices ([] : List (Call L)) = [] := rfl

@[simp] theorem notices_cons (c : Call L) (log : List (Call L)) :
    notices (c :: log) = c.notice?.toList ++ notices log :=
  filterMap_cons_toList Call.notice? c log

@[simp] theorem notices_append (log more : List (Call L)) :
    notices (log ++ more) = notices log ++ notices more :=
  List.filterMap_append

/-! ## Telling everybody -/

/-- Everything that is said is told to all observers, in the order of their registration, before the
next thing is said. -/
def broadcast (observers : Nat) (said : List Notice) : List (Nat × Notice) :=
  said.flatMap fun n => (List.range observers).map (·, n)

@[simp] theorem broadcast_nil (observers : Nat) : broadcast observers [] = [] := rfl

@[simp] theorem broadcast_cons (observers : Nat) (n : Notice) (said : List Notice) :
    broadcast observers (n :: said) =
      (List.range observers).map (·, n) ++ broadcast observers said := rfl

@[simp] theorem broadcast_append (observers : Nat) (said more : List Notice) :
    broadcast observers (said ++ more) = broadcast observers said ++ broadcast observers more := by
  simp [broadcast]

/-- What the observer of a number hears. -/
def heard (i : Nat) (told : List (Nat × Notice)) : List Notice :=
  (told.filter (·.1 = i)).map Prod.snd

/-- **Every observer hears everything that is said**, once and in order. -/
theorem heard_broadcast {i observers : Nat} (hi : i < observers) (said : List Notice) :
    heard i (broadcast observers said) = said := by
  induction said with
  | nil => rfl
  | cons n rest ih =>
      have mine : (List.range observers).filter (· = i) = [i] := by
        rw [List.filter_eq, List.count_range, if_pos hi]
        rfl
      have first : heard i ((List.range observers).map (·, n)) = [n] := by
        rw [heard, List.filter_map, Function.comp_def, mine]
        rfl
      rw [heard] at first ih ⊢
      rw [broadcast_cons, List.filter_append, List.map_append, first, ih]
      rfl

namespace Machine

@[simp] theorem notices_announce (m : Machine L) (n : Notice) :
    notices (m.announce n) = (List.range m.observers).map (·, n) := by
  have each : Call.notice? ∘ (n.call : Nat → Call L) = fun i => some (i, n) := by
    funext i
    cases n <;> rfl
  rw [notices, announce, notify, List.filterMap_map, each, List.filterMap_eq_map']

/-- Of all that a teardown consists of, the observers only notice that the session has closed. -/
@[simp] theorem notices_teardown (m : Machine L) :
    notices m.teardown = (List.range m.observers).map (·, .closed) := by
  have announced := m.notices_announce .closed
  rw [notices] at announced
  rw [notices, filterMap_teardown, announced]
  simp [Call.notice?]

@[simp] theorem notices_startup (m : Machine L) : notices m.startup = [] :=
  m.filterMap_startup_eq_nil rfl

end Machine

/-! ## What a session says -/

/-- The error that a text frame reports. -/
def reported? (content : String) : Option String :=
  match Signal.decode? content with
  | some (.error message) => some message
  | _ => none

theorem reported?_eq_none {content : String}
    (h : ∀ message, Signal.decode? content ≠ some (.error message)) : reported? content = none := by
  unfold reported?
  split
  · next message signal => exact absurd signal (h message)
  · rfl

/-- The error that the server reports to an open session in a text frame. -/
def Turn.report? (t : Turn L) : Option String :=
  match t.before, t.event with
  | .opened, .message (.text content) => reported? content
  | _, _ => none

/-- The error that a response listens to. -/
def Response.report? : Response L → Option String
  | .hear content => reported? content
  | _ => none

/-- A turn is about the report that its response listens to. -/
theorem Turn.report?_eq (t : Turn L) : t.report? = (response t.before t.event).report? := by
  obtain ⟨before, event, answers, calls, after⟩ := t
  rcases event with link | e | (data | content) | reason | _ | _ | _ | _ | data | signal | position
  case segment =>
    cases data <;> cases before <;> rfl
  all_goals cases before <;> rfl

/-- Only an open session listens to reports. -/
theorem Response.report?_eq_none {r : Response L} {stage : SessionStage} (arises : r.Arises stage)
    (hstage : stage ≠ .opened) : r.report? = none := by
  cases r with
  | hear content => exact absurd arises hstage
  | _ => rfl

/-- A session that opens says so. -/
def greeting (ts : List (Turn L)) : List Notice :=
  (ts.filterMap Turn.opening?).map fun _ => .opened

/-- The errors that the server reports to an open session are passed on, in order. -/
def reports (ts : List (Turn L)) : List Notice :=
  (ts.filterMap Turn.report?).map fun message => .failure (.remote message)

/-- A session that closes says why, if it failed, and that it has closed. -/
def ending (summary : SessionSummary) : List Notice :=
  summary.failure.toList.map .failure ++ [.closed]

theorem greeting_concat (ts : List (Turn L)) (t : Turn L) :
    greeting (ts ++ [t]) = greeting ts ++ t.opening?.toList.map fun _ => .opened := by
  rw [greeting, Turn.filterMap_concat, List.map_append, greeting]

theorem reports_concat (ts : List (Turn L)) (t : Turn L) :
    reports (ts ++ [t]) =
      reports ts ++ t.report?.toList.map fun message => .failure (.remote message) := by
  rw [reports, Turn.filterMap_concat, List.map_append, reports]

namespace Machine

/-- The ending, once there is one. -/
def parting (m : Machine L) : List Notice :=
  if m.state = .closed then ending m.report else []

/-- What a machine has said in the turns that led to it. -/
def said (m : Machine L) (ts : List (Turn L)) : List Notice :=
  greeting ts ++ reports ts ++ m.parting

@[simp] theorem parting_ended (m : Machine L) (failure : Option SessionFailure) :
    (m.ended failure).parting = failure.toList.map .failure ++ [.closed] := rfl

@[simp] theorem parting_withSide (m : Machine L) (side : Side) :
    ({ m with side := side } : Machine L).parting = m.parting := rfl

theorem parting_of_ne {m : Machine L} (hstage : m.state ≠ .closed) : m.parting = [] :=
  if_neg hstage

/-! ## What one event says -/

variable {m : Machine L} {a : Answers} {r : Response L} {next : Machine L} {calls : List (Call L)}

/-- A machine that stays what it is has nothing to say of opening or closing. -/
theorem Sound.quiet (sound : m.Sound) :
    (if m.state = .connecting then m.link.toList else []) = [] ∧
      (if m.state = .closed then [] else m.parting) = [] := by
  constructor
  · split
    · next hstage =>
        rw [sound.link_eq_none (by simp [hstage])]
        rfl
    · rfl
  · split
    · rfl
    · next hstage => exact parting_of_ne hstage

/-- **What one event says**: that the session has opened, or the error that is reported to it, or
the ending, if the session closes. -/
theorem Outcome.notices (h : Outcome m a r next calls) (sound : m.Sound) :
    notices calls = broadcast m.observers
      ((if m.state = .connecting then next.link.toList else []).map (fun _ => .opened) ++
        r.report?.toList.map (fun message => .failure (.remote message)) ++
          if m.state = .closed then [] else next.parting) := by
  obtain ⟨unopened, unclosed⟩ := sound.quiet
  cases h with
  | established hstage =>
      rw [if_pos hstage, if_neg (by simp [hstage]), parting_of_ne (by simp)]
      simp [Response.report?]
  | startRefused hstage hrole hstart =>
      rw [if_pos hstage, if_neg (by simp [hstage])]
      simp [Response.report?, Call.notice?]
  | failed hstage | closed hstage =>
      rw [if_neg hstage]
      simp [Response.report?]
  | refused hstage =>
      rw [if_neg (by simp [hstage]), if_neg (by simp [hstage])]
      simp [Response.report?, Call.notice?]
  | warned hstage hsignal =>
      rw [unopened, unclosed, notices_announce]
      simp [Response.report?, reported?, hsignal]
  | heard hsignal =>
      have unreported : reported? _ = none := reported?_eq_none hsignal
      rw [unopened, unclosed, Response.report?, unreported]
      rfl
  | received | recorded =>
      rw [unopened, parting_withSide, unclosed]
      rfl
  | _ =>
      rw [unopened, unclosed]
      simp [Response.report?, Call.notice?]

/-- A source that is asked to start and refuses belongs to a session that does not open. -/
theorem Outcome.start_refused (h : Outcome m a r next calls) {cadence : Duration}
    (hcall : .start cadence ∈ sources calls) (hstart : a.start ≠ none) :
    m.state = .connecting ∧ next.state = .closed := by
  cases h with
  | established hstage willing =>
      by_cases hrole : m.id.role = .publish
      · exact absurd (willing hrole) hstart
      · simp [hrole] at hcall
  | startRefused hstage => exact ⟨hstage, rfl⟩
  | failed | closed =>
      simp only [sources_append, sources_announce, sources_teardown] at hcall
      split at hcall <;> simp at hcall
  | refused =>
      simp only [sources_cons, sources_append, sources_announce, sources_teardown] at hcall
      split at hcall <;> simp [Call.source?] at hcall
  | _ => simp [Call.source?] at hcall

/-! ## What has been said -/

namespace History

variable {id : SessionIdentity} {settings : SessionPolicy} {observers : Nat} {ts : List (Turn L)}

/-- **A session opens at most once**, and passes on reports only if it has opened. -/
theorem opened_once (h : History id settings observers ts m) :
    ts.filterMap Turn.opening? = [] ∧ ts.filterMap Turn.report? = [] ∨
      ∃ link, ts.filterMap Turn.opening? = [link] := by
  induction h using invariant with
  | fresh => exact .inl ⟨rfl, rfl⟩
  | @turn ts m event a r next calls past now ih hr outcome =>
      have arises : r.Arises m.state := hr ▸ response_arises m.state event
      obtain ⟨-, owned, connecting⟩ := past.sent_links
      rw [Turn.filterMap_concat, Turn.filterMap_concat, outcome.opening past.sound hr,
        Turn.report?_eq, hr]
      cases stage : m.state with
      | connecting =>
          have unopened := connecting stage
          have unreported := Response.report?_eq_none arises (by simp [stage])
          obtain ⟨-, quiet⟩ | ⟨link, opened⟩ := ih
          · rw [unopened, quiet, unreported]
            cases next.link with
            | none => exact .inl ⟨rfl, rfl⟩
            | some link => exact .inr ⟨link, rfl⟩
          · simp [unopened] at opened
      | opened =>
          -- an open session owns the connection over which it opened
          obtain ⟨link, hlink⟩ := past.sound.exists_link stage
          exact .inr ⟨link, by rw [owned link hlink]; rfl⟩
      | closed =>
          have unreported := Response.report?_eq_none arises (by simp [stage])
          rw [unreported]
          simpa using ih

/-- What has been said does not come out of order: nothing is reported before the session opens. -/
theorem reports_eq_nil (h : History id settings observers ts m) (hstage : m.state = .connecting) :
    reports ts = [] := by
  obtain ⟨-, -, connecting⟩ := h.sent_links
  obtain ⟨-, quiet⟩ | ⟨link, opened⟩ := h.opened_once
  · rw [reports, quiet, List.map_nil]
  · simp [connecting hstage] at opened

/-- **What has been said is broadcast**: in every history, all observers have been told what the
machine has said, and nothing else. -/
theorem notices (h : History id settings observers ts m) :
    notices (Turn.log ts) = broadcast observers (m.said ts) := by
  induction h using invariant with
  | fresh => rfl
  | @turn ts m event a r next calls past now ih hr outcome =>
      have arises : r.Arises m.state := hr ▸ response_arises m.state event
      have one := outcome.notices past.sound
      rw [past.unchanged.2.2] at one
      rw [Turn.log_concat, notices_append, ih, one, ← broadcast_append, said, said, greeting_concat,
        reports_concat, outcome.opening past.sound hr, Turn.report?_eq, hr]
      congr 1
      cases stage : m.state with
      | connecting =>
          -- there are no reports yet that the greeting would have to come before
          rw [past.reports_eq_nil stage, parting_of_ne (by simp [stage])]
          simp
      | opened =>
          rw [parting_of_ne (by simp [stage])]
          simp
      | closed =>
          -- the ending has been said, and nothing is added to it
          rw [outcome.eq_of_closed stage, Response.report?_eq_none arises (by simp [stage])]
          simp

/-- A session whose source has refused to start has not opened, and has closed. -/
theorem start_refused (h : History id settings observers ts m) {t : Turn L} (ht : t ∈ ts)
    {cadence : Duration} (hcall : .start cadence ∈ sources t.calls)
    (hstart : t.answers.start ≠ none) :
    ts.filterMap Turn.opening? = [] ∧ m.state = .closed := by
  induction h using invariant with
  | fresh => simp at ht
  | @turn ts m event a r next calls past now ih hr outcome =>
      rw [Turn.filterMap_concat, outcome.opening past.sound hr]
      rcases List.mem_append.mp ht with ht | ht
      · obtain ⟨unopened, closed⟩ := ih ht
        rw [unopened, if_neg (by simp [closed])]
        exact ⟨rfl, outcome.stage_closed closed⟩
      · obtain rfl := List.mem_singleton.mp ht
        obtain ⟨connecting, closed⟩ := outcome.start_refused hcall hstart
        have unlinked := now.sound.link_eq_none (by simp [closed])
        rw [past.sent_links.2.2 connecting, if_pos connecting, unlinked]
        exact ⟨rfl, closed⟩

/-- An open session has greeted its observers first of all. -/
theorem greeted (h : History id settings observers ts m) (hstage : m.state = .opened) :
    m.said ts = .opened :: reports ts := by
  obtain ⟨link, hlink⟩ := h.sound.exists_link hstage
  rw [said, greeting, h.sent_links.2.1 link hlink, parting_of_ne (by simp [hstage]),
    List.append_nil]
  rfl

/-- Everything that is sent is sent after all observers have been told that the session is open. -/
theorem sent_greeted (h : History id settings observers ts m) {before after : List (Call L)}
    {c : Call L} {s : Transmission L} (hlog : Turn.log ts = before ++ c :: after)
    (hc : c.transmission? = some s) :
    ∃ later, Livecast.notices before = broadcast observers (.opened :: later) := by
  obtain ⟨past, future, now, rfl, rfl, hpast, opened, -⟩ := h.split_sent hlog hc
  exact ⟨reports past, by rw [hpast.notices, hpast.greeted opened]⟩

end History

end Machine

/-! ## The protocol -/

namespace Machine

variable {ts : List (Turn L)} {m : Machine L}

/-- What a session has said is part of one of the two stories that it can tell. -/
theorem said_isPrefix
    (h : ts.filterMap Turn.opening? = [] ∧ ts.filterMap Turn.report? = [] ∨
      ∃ link, ts.filterMap Turn.opening? = [link]) :
    m.said ts <+: .opened :: (reports ts ++ ending m.report) ∨ m.said ts <+: ending m.report := by
  have parting : m.parting <+: ending m.report := by
    unfold parting
    split
    · exact List.prefix_rfl
    · exact List.nil_prefix
  rcases h with ⟨unopened, quiet⟩ | ⟨link, opened⟩
  · right
    rw [said, greeting, reports, unopened, quiet]
    exact parting
  · left
    have rest : reports ts ++ m.parting <+: reports ts ++ ending m.report :=
      (List.prefix_append_right_inj _).mpr parting
    rw [said, greeting, opened, List.append_assoc]
    exact List.cons_prefix_cons.mpr ⟨rfl, rest⟩

/-- That the session has closed is the last that it says. -/
theorem eq_nil_of_said_closed {earlier later : List Notice}
    (h : m.said ts = earlier ++ .closed :: later) : later = [] := by
  have front (failure : Option SessionFailure) :
      .closed ∉ greeting ts ++ reports ts ++ failure.toList.map .failure := by
    simp [greeting, reports]
  by_cases hstage : m.state = .closed
  · rw [said, parting, if_pos hstage, ending, ← List.append_assoc] at h
    exact eq_nil_of_concat_eq (front _) h
  · have silent := front none
    rw [said, parting_of_ne hstage] at h
    rw [Option.toList_none, List.map_nil, h] at silent
    simp at silent

/-- A session that has not opened does not say so. -/
theorem opened_not_mem_said (h : ts.filterMap Turn.opening? = []) : .opened ∉ m.said ts := by
  rw [said, greeting, h, parting]
  split <;> simp [reports, ending]

end Machine

/-- **The observer protocol**, for the turns `ts` of a session that stands at `m` after `log`. -/
structure Announced (observers : Nat) (ts : List (Turn L)) (m : Machine L) (log : List (Call L)) :
    Prop where
  /-- All observers are told what the session says, in the order of their registration, and each
  notice reaches all of them before the next one is given. -/
  told : notices log = broadcast observers (m.said ts)
  /-- So every observer hears the same. -/
  same : ∀ i < observers, heard i (notices log) = m.said ts
  /-- What is said is the beginning of one of two stories: the session is open, the server has
  reported errors, the session has failed, it has closed; or the last two alone. -/
  grammar : m.said ts <+: .opened :: (reports ts ++ ending m.report) ∨ m.said ts <+: ending m.report
  /-- Nothing is said after the session has closed. -/
  last : ∀ earlier later, m.said ts = earlier ++ .closed :: later → later = []
  /-- A session whose source refuses to start is never said to be open. -/
  refused : ∀ t ∈ ts, ∀ cadence, .start cadence ∈ sources t.calls → t.answers.start ≠ none →
    .opened ∉ m.said ts
  /-- Every frame is sent after all observers have been told that the session is open. -/
  sent : ∀ before c after s, log = before ++ c :: after → c.transmission? = some s →
    ∃ later, notices before = broadcast observers (.opened :: later)

/-- **Every run of every session follows the observer protocol**, whatever the events, their order
and the answers of connections and source. -/
theorem Machine.run_announced (id : SessionIdentity) (settings : SessionPolicy) (observers : Nat)
    (es : List (Event L × Answers)) :
    Announced observers ((fresh id settings observers).turns es)
      ((fresh id settings observers).run es).1 ((fresh id settings observers).run es).2 := by
  have history := history_run id settings observers es
  rw [← log_turns]
  constructor
  case told => exact history.notices
  case same =>
    intro i hi
    rw [history.notices, heard_broadcast hi]
  case grammar => exact said_isPrefix history.opened_once
  case last => exact fun _ _ => eq_nil_of_said_closed
  case refused =>
    intro t ht cadence hcall hstart
    exact opened_not_mem_said (history.start_refused ht hcall hstart).1
  case sent =>
    intro before c after s hlog hc
    exact history.sent_greeted hlog hc

/-- A report that the session survives, a refused frame that it does not survive, and a late wish to
close, as the second of two observers hears them. -/
example : heard 1 (notices ((Machine.fresh ⟨"c", "k", .publish⟩ .standard 2).run
    [(.opened 7, .willing), (.message (.text "ERROR: full"), .willing),
      (.segment [1], ⟨none, some (.transport "gone")⟩), (.closeRequested, .willing)]).2) =
    [.opened, .failure (.remote "full"), .failure (.transport "gone"), .closed] := by
  decide

end Livecast
