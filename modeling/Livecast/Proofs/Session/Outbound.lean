import Livecast.Proofs.Session.History

/-!
# What a session sends

A session sends at most one frame for an event that it handles while it is open: a heartbeat, a
signal, or a segment that is not empty.  It sends it at once or never, and a frame that is refused
is the last one.

## Main Definitions

* `Transmission`, `Call.transmission?` - a frame handed to a connection, and the calls that hand one
* `Turn.outbound?` - the frame that an event asks for
* `Turn.opening?` - the connection over which a session opens
* `Outbound` - the law of outbound traffic

## Main Statements

* `Machine.Outcome.sends` - what one event sends
* `Machine.run_outbound` - every run obeys the law
-/

namespace Livecast

variable {L : Type}

/-- A frame that is handed to a connection. -/
structure Transmission (L : Type) where
  /-- The connection. -/
  link : L
  /-- The frame. -/
  frame : Frame
  /-- The connection took it. -/
  accepted : Bool

/-- The frame that a call hands to a connection. -/
def Call.transmission? : Call L → Option (Transmission L)
  | .sent link frame => some ⟨link, frame, true⟩
  | .refused link frame => some ⟨link, frame, false⟩
  | _ => none

/-- The frames that a log hands to connections. -/
def transmissions (log : List (Call L)) : List (Transmission L) :=
  log.filterMap Call.transmission?

@[simp] theorem transmissions_nil : transmissions ([] : List (Call L)) = [] := rfl

@[simp] theorem transmissions_cons (c : Call L) (log : List (Call L)) :
    transmissions (c :: log) = c.transmission?.toList ++ transmissions log :=
  filterMap_cons_toList Call.transmission? c log

@[simp] theorem transmissions_append (log more : List (Call L)) :
    transmissions (log ++ more) = transmissions log ++ transmissions more :=
  List.filterMap_append

/-- The frame that an event asks for, if the session is open: a heartbeat, a signal in its written
form, or a segment that is not empty. -/
def Turn.outbound? (t : Turn L) : Option Frame :=
  match t.before, t.event with
  | .opened, .heartbeatTick => some (.text "h")
  | .opened, .sendSignal signal => some (.text signal.encode)
  | .opened, .segment data => if data = [] then none else some (.binary data)
  | _, _ => none

/-- The connection over which a session that was connecting has opened. -/
def Turn.opening? (t : Turn L) : Option L :=
  match t.before, t.event, t.after with
  | .connecting, .opened link, .opened => some link
  | _, _, _ => none

/-- The frame that a response sends. -/
def Response.frame? : Response L → Option Frame
  | .send frame => some frame
  | _ => none

/-- A turn asks for the frame that its response sends. -/
theorem Turn.outbound?_eq (t : Turn L) : t.outbound? = (response t.before t.event).frame? := by
  obtain ⟨before, event, answers, calls, after⟩ := t
  rcases event with link | e | (data | content) | reason | _ | _ | _ | _ | data | signal | position
  case segment =>
    cases data <;> cases before <;> rfl
  all_goals cases before <;> rfl

namespace Machine

variable {m : Machine L}

@[simp] theorem transmissions_announce (m : Machine L) (n : Notice) :
    transmissions (m.announce n) = [] :=
  m.filterMap_announce_eq_nil n fun _ => by cases n <;> rfl

@[simp] theorem transmissions_teardown (m : Machine L) : transmissions m.teardown = [] :=
  m.filterMap_teardown_eq_nil rfl (fun _ => rfl) rfl fun _ => rfl

@[simp] theorem transmissions_startup (m : Machine L) : transmissions m.startup = [] :=
  m.filterMap_startup_eq_nil rfl

/-- **What one event sends**: nothing, or first of all the frame that its response asks for, over
the connection that the session owns.  A refusal closes the session. -/
theorem Outcome.sends {a : Answers} {r : Response L} {next : Machine L} {calls : List (Call L)}
    (h : Outcome m a r next calls) :
    transmissions calls = [] ∧ r.frame? = none ∨
      ∃ s first quiet, calls = first :: quiet ∧ first.transmission? = some s ∧
        transmissions quiet = [] ∧ r.frame? = some s.frame ∧ m.state = .opened ∧
        m.link = some s.link ∧ (s.accepted = false → next.state = .closed) := by
  cases h with
  | sent hstage hlink hsend =>
      exact .inr ⟨_, _, [], rfl, rfl, rfl, rfl, hstage, hlink, by simp⟩
  | refused hstage hlink hsend =>
      exact .inr ⟨_, _, _, rfl, rfl, by simp, rfl, hstage, hlink, fun _ => rfl⟩
  | _ => exact .inl ⟨by simp [Call.transmission?], rfl⟩

/-- What one event sends is sent before anything else is done about it. -/
theorem Outcome.sends_first {a : Answers} {r : Response L} {next : Machine L}
    {calls earlier later : List (Call L)} {c : Call L} {s : Transmission L}
    (h : Outcome m a r next calls) (hcalls : calls = earlier ++ c :: later)
    (hc : c.transmission? = some s) :
    earlier = [] ∧ m.state = .opened ∧ m.link = some s.link := by
  rcases h.sends with ⟨silent, -⟩ | ⟨u, first, quiet, rfl, hfirst, hquiet, -, hstage, hlink, -⟩
  · simp [hcalls, hc] at silent
  · cases earlier with
    | nil =>
        obtain ⟨rfl, -⟩ := List.cons_eq_cons.mp hcalls
        obtain rfl : u = s := Option.some.inj (hfirst.symm.trans hc)
        exact ⟨rfl, hstage, hlink⟩
    | cons d rest =>
        obtain ⟨-, rfl⟩ := List.cons_eq_cons.mp hcalls
        simp [hc] at hquiet

/-- What one event sends, as frames. -/
theorem Outcome.sent_frames {a : Answers} {r : Response L} {next : Machine L}
    {calls : List (Call L)} (h : Outcome m a r next calls) :
    (transmissions calls).map Transmission.frame = r.frame?.toList := by
  rcases h.sends with ⟨silent, frame⟩ | ⟨s, first, quiet, rfl, hfirst, hquiet, frame, -⟩
  · rw [silent, frame]
    rfl
  · rw [transmissions_cons, hfirst, hquiet, frame]
    rfl

/-- A session that was connecting has opened over the connection that it now owns. -/
theorem Outcome.opening {event : Event L} {a : Answers} {r : Response L} {next : Machine L}
    {calls : List (Call L)} (h : Outcome m a r next calls) (sound : m.Sound)
    (hr : response m.state event = r) :
    Turn.opening? ⟨m.state, event, a, calls, next.state⟩ =
      if m.state = .connecting then next.link else none := by
  cases stage : m.state with
  | opened => rfl
  | closed => rfl
  | connecting =>
      have unlinked := sound.link_eq_none (by simp [stage])
      cases h with
      | @established link hstage hstart =>
          rw [event_of_establish hr]
          rfl
      | startRefused | failed | closed => simp [Turn.opening?]
      | discarded hstage => exact absurd stage hstage
      | received hstage | warned hstage | sent hstage | refused hstage =>
          simp [stage] at hstage
      | _ => simp [Turn.opening?, stage, unlinked]

namespace History

variable {id : SessionIdentity} {settings : SessionPolicy} {observers : Nat} {ts : List (Turn L)}

/-- Each turn sends the frame that its event asks for, and nothing else. -/
theorem sent_frames (h : History id settings observers ts m) :
    ∀ t ∈ ts, (transmissions t.calls).map Transmission.frame = t.outbound?.toList := by
  induction h using invariant with
  | fresh => simp
  | turn _ _ ih hr outcome =>
      intro t ht
      rcases List.mem_append.mp ht with ht | ht
      · exact ih t ht
      · obtain rfl := List.mem_singleton.mp ht
        rw [Turn.outbound?_eq, hr]
        exact outcome.sent_frames

/-- All frames go over the connection over which the session opened, the one that it owns. -/
theorem sent_links (h : History id settings observers ts m) :
    (∀ s ∈ transmissions (Turn.log ts), ts.filterMap Turn.opening? = [s.link]) ∧
      (∀ link, m.link = some link → ts.filterMap Turn.opening? = [link]) ∧
      (m.state = .connecting → ts.filterMap Turn.opening? = []) := by
  induction h using invariant with
  | fresh => exact ⟨by simp, fun link hlink => by simp [Machine.fresh] at hlink, by simp⟩
  | @turn ts m event a r next calls past now ih hr outcome =>
      obtain ⟨sent, owned, connecting⟩ := ih
      simp only [Turn.filterMap_concat, outcome.opening past.sound hr, Turn.log_concat,
        transmissions_append, List.mem_append]
      by_cases stage : m.state = .connecting
      · -- nothing has been sent, and nothing is sent now
        have unopened := connecting stage
        rw [if_pos stage, unopened, List.nil_append]
        refine ⟨fun s hs => ?_, fun link hlink => by rw [hlink]; rfl, fun hnext => ?_⟩
        · rcases hs with hs | hs
          · have opened := sent s hs
            simp [unopened] at opened
          · rcases outcome.sends with ⟨silent, -⟩ | ⟨_, _, _, -, -, -, -, opened, -⟩
            · simp [silent] at hs
            · simp [stage] at opened
        · rw [now.sound.link_eq_none (by simp [hnext])]
          rfl
      · -- no session opens now, and the connection in use is the one that was owned before
        rw [if_neg stage, Option.toList_none, List.append_nil]
        refine ⟨fun s hs => ?_, fun link hlink => owned link (outcome.link_eq_some stage hlink),
          fun hnext => absurd (outcome.stage_connecting hnext) stage⟩
        rcases hs with hs | hs
        · exact sent s hs
        · rcases outcome.sends with ⟨silent, -⟩ | ⟨u, _, _, rfl, hu, quiet, -, -, hlink, -⟩
          · simp [silent] at hs
          · obtain rfl : s = u := by simpa [hu, quiet] using hs
            exact owned s.link hlink

/-- Only a closed session has been refused a frame, and that frame was its last. -/
theorem sent_accepted (h : History id settings observers ts m) :
    (m.state ≠ .closed → ∀ s ∈ transmissions (Turn.log ts), s.accepted = true) ∧
      ∀ s ∈ (transmissions (Turn.log ts)).dropLast, s.accepted = true := by
  induction h using invariant with
  | fresh => simp
  | @turn ts m event a r next calls past now ih hr outcome =>
      obtain ⟨accepted, early⟩ := ih
      simp only [Turn.log_concat, transmissions_append]
      rcases outcome.sends with ⟨silent, -⟩ | ⟨u, _, _, rfl, hu, quiet, -, stage, -, hclosed⟩
      · rw [silent, List.append_nil]
        exact ⟨fun hnext => accepted (mt outcome.stage_closed hnext), early⟩
      · -- an open session has not been refused anything, so only the newest frame can be
        have before := accepted (by simp [stage])
        rw [transmissions_cons, hu, quiet, Option.toList_some, List.append_nil,
          List.dropLast_concat]
        refine ⟨fun hnext s hs => ?_, before⟩
        rcases List.mem_append.mp hs with hs | hs
        · exact before s hs
        · obtain rfl := List.mem_singleton.mp hs
          cases took : s.accepted with
          | true => rfl
          | false => exact absurd (hclosed took) hnext

/-- Every frame is sent by an open machine over the connection that it owns, before anything else is
done about its event. -/
theorem split_sent (h : History id settings observers ts m) {before after : List (Call L)}
    {c : Call L} {s : Transmission L} (hlog : Turn.log ts = before ++ c :: after)
    (hc : c.transmission? = some s) :
    ∃ past future now, ts = past ++ future ∧ before = Turn.log past ∧
      History id settings observers past now ∧ now.state = .opened ∧ now.link = some s.link := by
  obtain ⟨past, t, future, earlier, later, rfl, hcalls, rfl⟩ := Turn.split_log hlog
  obtain ⟨now, hpast, ht⟩ := h.split
  have outcome := hpast.sound.handle_outcome t.answers t.event
  have made : (now.handle t.answers t.event).2 = earlier ++ c :: later := by
    rw [← hcalls, ht]
    rfl
  obtain ⟨rfl, hstage, hlink⟩ := outcome.sends_first made hc
  exact ⟨past, t :: future, now, rfl, List.append_nil _, hpast, hstage, hlink⟩

end History

end Machine

/-! ## The traffic of a whole run -/

/-- Turns that send what their events ask for send it in the order of the events. -/
theorem Turn.frames_log {ts : List (Turn L)}
    (h : ∀ t ∈ ts, (transmissions t.calls).map Transmission.frame = t.outbound?.toList) :
    (transmissions (Turn.log ts)).map Transmission.frame = ts.filterMap Turn.outbound? := by
  induction ts with
  | nil => rfl
  | cons t rest ih =>
      obtain ⟨first, others⟩ := List.forall_mem_cons.mp h
      rw [Turn.log_cons, transmissions_append, List.map_append, first, ih others]
      cases frame : t.outbound? <;> simp [frame]

/-- No event asks for an empty binary frame. -/
theorem Turn.outbound?_ne_empty (t : Turn L) : t.outbound? ≠ some (.binary []) := by
  unfold Turn.outbound?
  split
  · simp
  · simp
  · next data _ _ =>
      by_cases empty : data = []
      · simp [empty]
      · simp [empty]
  · simp

/-- **The law of outbound traffic**, for the turns `ts` of a session and its log. -/
structure Outbound (ts : List (Turn L)) (log : List (Call L)) : Prop where
  /-- The frames are those that the events met in the open session ask for, in order and one for
  one. -/
  frames : (transmissions log).map Transmission.frame = ts.filterMap Turn.outbound?
  /-- Each frame is sent in the turn of its event; no other turn sends anything. -/
  at_once : ∀ t ∈ ts, (transmissions t.calls).map Transmission.frame = t.outbound?.toList
  /-- All frames go over one connection, the only one over which the session has opened. -/
  link : ∀ s ∈ transmissions log, ts.filterMap Turn.opening? = [s.link]
  /-- No binary frame is empty. -/
  not_empty : ∀ s ∈ transmissions log, s.frame ≠ .binary []
  /-- Every frame but the last was accepted: the first refusal ends the traffic. -/
  accepted : ∀ s ∈ (transmissions log).dropLast, s.accepted = true

/-- **Every run of every session obeys the law of outbound traffic**, whatever its connections and
its source answer. -/
theorem Machine.run_outbound (id : SessionIdentity) (settings : SessionPolicy) (observers : Nat)
    (es : List (Event L × Answers)) :
    Outbound ((fresh id settings observers).turns es) ((fresh id settings observers).run es).2 := by
  have history := history_run id settings observers es
  have frames := Turn.frames_log history.sent_frames
  rw [← log_turns]
  refine ⟨frames, history.sent_frames, history.sent_links.1, fun s hs => ?_,
    history.sent_accepted.2⟩
  have asked := List.mem_map_of_mem (f := Transmission.frame) hs
  rw [frames] at asked
  obtain ⟨t, -, ht⟩ := List.mem_filterMap.mp asked
  exact fun empty => t.outbound?_ne_empty (empty ▸ ht)

end Livecast
