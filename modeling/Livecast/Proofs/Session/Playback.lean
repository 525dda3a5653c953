import Livecast.Proofs.Session.History

/-!
# What a watching session plays

Frames carry no sequence numbers, so a watching session has nothing but the order of its events to
put the media together.  It presents every payload that it receives while it is open, once, together
with all that came before it.

## Main Definitions

* `presentations` - what a log presents to the player
* `payloads`, `resumePoint` - the payloads that an open session receives, and the last position that
  it is told
* `Playback` - the law of playback

## Main Statements

* `Machine.Outcome.plays` - what one event does to the playback
* `Machine.History.plays` - what a watching machine holds is what its payloads add up to
* `Machine.run_playback` - every run of a watching session obeys the law

## Design Notes

What a closed session holds is not determined unless it keeps its media, because it gives the buffer
up.  The invariant says nothing about that case, and the law does not need it: nothing is presented
after closing.
-/

namespace Livecast

variable {L : Type}

/-- What a call presents. -/
def Call.presentation? : Call L → Option Presentation
  | .presented update => some update
  | _ => none

/-- What a log presents to the player, in order. -/
def presentations (log : List (Call L)) : List Presentation := log.filterMap Call.presentation?

@[simp] theorem presentations_nil : presentations ([] : List (Call L)) = [] := rfl

@[simp] theorem presentations_cons (c : Call L) (log : List (Call L)) :
    presentations (c :: log) = c.presentation?.toList ++ presentations log :=
  filterMap_cons_toList Call.presentation? c log

@[simp] theorem presentations_append (log more : List (Call L)) :
    presentations (log ++ more) = presentations log ++ presentations more :=
  List.filterMap_append

/-- The payload of a binary frame that an open session receives; it may be empty. -/
def Turn.payload? (t : Turn L) : Option Bytes :=
  match t.before, t.event with
  | .opened, .message (.binary data) => some data
  | _, _ => none

/-- The position that a session is told before it has closed, unless it is the very start. -/
def Turn.position? (t : Turn L) : Option Duration :=
  match t.before, t.event with
  | .closed, _ => none
  | _, .progress position => if position = .zero then none else some position
  | _, _ => none

/-- The payloads that an open session receives, in order. -/
def payloads (ts : List (Turn L)) : List Bytes := ts.filterMap Turn.payload?

/-- The last position that a session is told, and the very start before it is told any. -/
def resumePoint (ts : List (Turn L)) : Duration :=
  (ts.filterMap Turn.position?).getLast?.getD .zero

theorem payloads_concat (ts : List (Turn L)) (t : Turn L) :
    payloads (ts ++ [t]) = payloads ts ++ t.payload?.toList :=
  Turn.filterMap_concat Turn.payload? ts t

theorem resumePoint_concat (ts : List (Turn L)) (t : Turn L) :
    resumePoint (ts ++ [t]) = t.position?.getD (resumePoint ts) := by
  rw [resumePoint, Turn.filterMap_concat]
  cases t.position? with
  | none => simp [resumePoint]
  | some position => simp

/-- The payload that a response takes in. -/
def Response.payload? : Response L → Option Bytes
  | .receive data => some data
  | _ => none

/-- The position that a response remembers. -/
def Response.position? : Response L → Option Duration
  | .record position => if position = .zero then none else some position
  | _ => none

/-- Only an open session receives payloads. -/
theorem Turn.before_of_payload {t : Turn L} {chunk : Bytes} (h : t.payload? = some chunk) :
    t.before = .opened := by
  unfold Turn.payload? at h
  split at h
  · next stage _ => exact stage
  · simp at h

theorem Turn.payload?_eq (t : Turn L) : t.payload? = (response t.before t.event).payload? := by
  obtain ⟨before, event, answers, calls, after⟩ := t
  rcases event with link | e | (data | content) | reason | _ | _ | _ | _ | data | signal | position
  case segment =>
    cases data <;> cases before <;> rfl
  all_goals cases before <;> rfl

theorem Turn.position?_eq (t : Turn L) : t.position? = (response t.before t.event).position? := by
  obtain ⟨before, event, answers, calls, after⟩ := t
  rcases event with link | e | (data | content) | reason | _ | _ | _ | _ | data | signal | position
  case segment =>
    cases data <;> cases before <;> rfl
  all_goals cases before <;> rfl

theorem Duration.isZero_iff (d : Duration) : d.isZero = true ↔ d = .zero := by
  obtain ⟨nanos⟩ := d
  simp [isZero, zero]

namespace Machine

variable {m : Machine L} {a : Answers} {r : Response L} {next : Machine L} {calls : List (Call L)}

@[simp] theorem presentations_announce (m : Machine L) (n : Notice) :
    presentations (m.announce n) = [] :=
  m.filterMap_announce_eq_nil n fun _ => by cases n <;> rfl

@[simp] theorem presentations_teardown (m : Machine L) : presentations m.teardown = [] :=
  m.filterMap_teardown_eq_nil rfl (fun _ => rfl) rfl fun _ => rfl

@[simp] theorem presentations_startup (m : Machine L) : presentations m.startup = [] :=
  m.filterMap_startup_eq_nil rfl

/-! ## What one event does -/

/-- **What one event does to the playback** of a session that holds `received` and resumes from
`resumeAt`: a payload is presented with all that came before it and added to it, a position replaces
the one before, and nothing else happens, except that a session which closes may give up its
buffer. -/
theorem Outcome.plays (h : Outcome m a r next calls) (sound : m.Sound) {received : Reassembly}
    {resumeAt : Duration} (hside : m.side = .watch received resumeAt) :
    presentations calls = r.payload?.toList.map (fun chunk =>
        ⟨received.buffer ++ chunk, chunk, received.count + 1, resumeAt⟩) ∧
      ∃ held, next.side = .watch held (r.position?.getD resumeAt) ∧
        (next.state ≠ .closed ∨ m.settings.retain = true →
          held = r.payload?.toList.foldl .append received) := by
  have watching := sound.role_of_side hside
  cases h with
  | established hstage =>
      exact ⟨by simp [Response.payload?], received, by rw [established_side, hside]; rfl,
        fun _ => rfl⟩
  | startRefused hstage hrole => simp [watching] at hrole
  | failed | closed | refused =>
      refine ⟨by simp [Call.presentation?, Response.payload?], _,
        by rw [ended_side, hside, Side.ended]; rfl, fun kept => ?_⟩
      -- the session has closed, so it can only have kept its media on purpose
      have retain : m.settings.retain = true := kept.resolve_left (· rfl)
      rw [retain]
      rfl
  | received hstage hheld =>
      obtain ⟨rfl, rfl⟩ := Side.watch.inj (hheld.symm.trans hside)
      exact ⟨rfl, _, rfl, fun _ => rfl⟩
  | @recorded position held remembered hstage hheld =>
      obtain ⟨rfl, rfl⟩ := Side.watch.inj (hheld.symm.trans hside)
      refine ⟨rfl, held, ?_, fun _ => rfl⟩
      by_cases start : position = .zero
      · rw [Response.position?, if_pos start, if_pos (position.isZero_iff.mpr start)]
        rfl
      · rw [Response.position?, if_neg start, if_neg (mt position.isZero_iff.mp start)]
        rfl
  | overlooked hrole | unrecorded hrole => simp [watching] at hrole
  | _ => exact ⟨by simp [Call.presentation?, Response.payload?], received, hside, fun _ => rfl⟩

/-! ## What a watching session holds -/

namespace History

variable {channel key : String} {settings : SessionPolicy} {observers : Nat} {ts : List (Turn L)}

/-- **What a watching machine holds is what its payloads add up to**, as long as it has not given
them up, and it resumes from the last position that it was told. -/
theorem plays (h : History ⟨channel, key, .watch⟩ settings observers ts m) :
    ∃ held, m.side = .watch held (resumePoint ts) ∧
      (m.state ≠ .closed ∨ settings.retain = true → held = (payloads ts).foldl .append .empty) := by
  induction h using invariant with
  | fresh => exact ⟨.empty, rfl, fun _ => rfl⟩
  | @turn ts m event a r next calls past now ih hr outcome =>
      obtain ⟨received, hside, hheld⟩ := ih
      obtain ⟨-, held, hnext, hkept⟩ := outcome.plays past.sound hside
      rw [resumePoint_concat, payloads_concat, Turn.position?_eq, Turn.payload?_eq, hr,
        List.foldl_append]
      refine ⟨held, hnext, fun kept => ?_⟩
      rw [past.unchanged.2.1] at hkept
      rw [hkept kept, hheld (kept.imp_left (mt outcome.stage_closed))]

/-- Every payload is presented, once. -/
theorem length_presentations (h : History ⟨channel, key, .watch⟩ settings observers ts m) :
    (presentations (Turn.log ts)).length = (payloads ts).length := by
  induction h using invariant with
  | fresh => rfl
  | @turn ts m event a r next calls past now ih hr outcome =>
      obtain ⟨received, hside, -⟩ := past.plays
      obtain ⟨shown, -⟩ := outcome.plays past.sound hside
      rw [Turn.log_concat, presentations_append, payloads_concat, List.length_append,
        List.length_append, ih, shown, List.length_map, Turn.payload?_eq, hr]

/-- **What each turn presents**: its payload, together with all that came before it. -/
theorem presentations_turn {before after : List (Turn L)} {t : Turn L}
    (h : History ⟨channel, key, .watch⟩ settings observers (before ++ t :: after) m) :
    presentations t.calls = t.payload?.toList.map fun chunk =>
      ⟨(payloads before).flatten ++ chunk, chunk, (payloads before).length + 1,
        resumePoint before⟩ := by
  obtain ⟨now, past, made⟩ := h.split
  have stage : t.before = now.state := congrArg Turn.before made
  have calls : t.calls = (now.handle t.answers t.event).2 := congrArg Turn.calls made
  obtain ⟨received, hside, hheld⟩ := past.plays
  obtain ⟨shown, -⟩ := (past.sound.handle_outcome t.answers t.event).plays past.sound hside
  rw [← stage, ← Turn.payload?_eq] at shown
  rw [calls, shown]
  cases payload : t.payload? with
  | none => rfl
  | some chunk =>
      -- a payload is received in the open session, which has given nothing up
      have held : received = (payloads before).foldl .append .empty :=
        hheld (.inl (by simp [← stage, Turn.before_of_payload payload]))
      have buffer := Reassembly.buffer_foldl_append .empty (payloads before)
      have count := Reassembly.count_foldl_append .empty (payloads before)
      rw [← held] at buffer count
      rw [buffer, count]
      simp [Reassembly.empty]

/-- The presentation of a number is that of the payload of this number. -/
theorem getElem?_presentations (h : History ⟨channel, key, .watch⟩ settings observers ts m)
    {i : Nat} {chunk : Bytes} (hchunk : (payloads ts)[i]? = some chunk) :
    ∃ before t after, ts = before ++ t :: after ∧ t.payload? = some chunk ∧
      (payloads before).length = i ∧
      (presentations (Turn.log ts))[i]? =
        some ⟨((payloads ts).take (i + 1)).flatten, chunk, i + 1, resumePoint before⟩ := by
  obtain ⟨before, t, after, rfl, ht, number⟩ := Turn.split_filterMap hchunk
  obtain rfl : (payloads before).length = i := number
  obtain ⟨now, past, -⟩ := h.split
  refine ⟨before, t, after, rfl, ht, rfl, ?_⟩
  have place : (presentations (Turn.log before)).length = (payloads before).length :=
    past.length_presentations
  have upto : (payloads (before ++ t :: after)).take ((payloads before).length + 1) =
      payloads before ++ [chunk] := by
    have whole : payloads (before ++ t :: after) = payloads before ++ chunk :: payloads after := by
      rw [payloads, List.filterMap_append, List.filterMap_cons_some ht]
      rfl
    rw [whole, List.take_length_add_append]
    rfl
  have now : presentations t.calls = [⟨(payloads before).flatten ++ chunk, chunk,
      (payloads before).length + 1, resumePoint before⟩] := by
    rw [h.presentations_turn, ht]
    rfl
  rw [Turn.log_append, Turn.log_cons, presentations_append, presentations_append, now, upto,
    ← place, List.getElem?_append_right (Nat.le_refl _), Nat.sub_self]
  simp

/-- The report of a watching session has all that it received, if it is to keep it. -/
theorem retained_report (h : History ⟨channel, key, .watch⟩ settings observers ts m) :
    m.report.retained = if settings.retain then some (payloads ts).flatten else none := by
  obtain ⟨received, hside, hheld⟩ := h.plays
  simp only [report, hside, h.unchanged.2.1]
  cases retain : settings.retain with
  | false => rfl
  | true =>
      rw [hheld (.inr retain), Reassembly.buffer_foldl_append]
      rfl

end History

end Machine

/-! ## The playback of a whole run -/

/-- **The law of playback**, for the turns `ts` of a watching session, its log and its report. -/
structure Playback (retain : Bool) (ts : List (Turn L)) (log : List (Call L))
    (summary : SessionSummary) : Prop where
  /-- There are as many presentations as payloads. -/
  once : (presentations log).length = (payloads ts).length
  /-- The presentation of a number has everything received up to the payload of this number, this
  payload, the number, and the last position that was told before. -/
  shown : ∀ i chunk, (payloads ts)[i]? = some chunk →
    ∃ before t after, ts = before ++ t :: after ∧ t.payload? = some chunk ∧
      (payloads before).length = i ∧
      (presentations log)[i]? =
        some ⟨((payloads ts).take (i + 1)).flatten, chunk, i + 1, resumePoint before⟩
  /-- Each payload is presented in its turn, and nothing else is presented in any turn. -/
  at_once : ∀ before t after, ts = before ++ t :: after →
    presentations t.calls = t.payload?.toList.map fun chunk =>
      ⟨(payloads before).flatten ++ chunk, chunk, (payloads before).length + 1, resumePoint before⟩
  /-- Everything received is retained if it is to be kept, however the session ended, and nothing
  otherwise. -/
  retained : summary.retained = if retain then some (payloads ts).flatten else none

/-- **Every run of every watching session obeys the law of playback**, whatever the events, their
order and the answers of its connections. -/
theorem Machine.run_playback (channel key : String) (settings : SessionPolicy) (observers : Nat)
    (es : List (Event L × Answers)) :
    Playback settings.retain ((fresh ⟨channel, key, .watch⟩ settings observers).turns es)
      ((fresh ⟨channel, key, .watch⟩ settings observers).run es).2
      ((fresh ⟨channel, key, .watch⟩ settings observers).run es).1.report := by
  have history := history_run ⟨channel, key, .watch⟩ settings observers es
  rw [← log_turns]
  constructor
  case once => exact history.length_presentations
  case shown => exact fun _ _ hchunk => history.getElem?_presentations hchunk
  case at_once =>
    intro before t after hts
    rw [hts] at history
    exact history.presentations_turn
  case retained => exact history.retained_report

/-- A payload that comes too early is lost, an empty one counts, and a restarted player that reports
the very start is not believed. -/
example : presentations ((Machine.fresh ⟨"c", "k", .watch⟩ .standard 0).run
    [(.message (.binary [9]), .willing), (.opened 7, .willing), (.message (.binary [1]), .willing),
      (.progress ⟨5⟩, .willing), (.message (.binary []), .willing), (.progress ⟨0⟩, .willing),
      (.message (.binary [2, 3]), .willing)]).2 =
    [⟨[1], [1], 1, ⟨0⟩⟩, ⟨[1], [], 2, ⟨5⟩⟩, ⟨[1, 2, 3], [2, 3], 3, ⟨5⟩⟩] := by
  decide

end Livecast
