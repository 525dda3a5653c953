import Livecast.Proofs.Session.Teardown

/-!
# The order of closing

Whatever closes a session, and in whichever stage, what the session does about it comes in one
order: what it still tries, the failure, the source, the connection, the player, the end.  So an
observer that is told of a failure finds everything still in its place, and one that is told of the
end finds everything given back.

## Main Definitions

* `Machine.attempt` - what a session tries about an event that then closes it
* `Machine.holding` - the connection that is to be given back
* `Machine.closingCalls` - the calls that close a session, in their order
* `ClosedInOrder` - the law of closing

## Main Statements

* `Machine.Outcome.closing_parts` - what is done about an event that closes a session, part by part
* `Machine.run_closesInOrder` - every event that closes a session does it in this order
-/

namespace Livecast

variable {L : Type}

/-! ## Lists in two parts -/

/-- What is not in the front of a list is found behind it. -/
theorem exists_split_back {α : Type} {front back before after : List α} {x : α}
    (h : front ++ back = before ++ x :: after) (hx : x ∉ front) :
    ∃ more, before = front ++ more ∧ back = more ++ x :: after := by
  rcases List.append_eq_append_iff.mp h with ⟨more, hbefore, hback⟩ | ⟨more, hfront, hafter⟩
  · exact ⟨more, hbefore, hback⟩
  · cases more with
    | nil => exact ⟨[], by simp [hfront], hafter.symm⟩
    | cons y rest =>
        obtain ⟨rfl, -⟩ := List.cons_eq_cons.mp hafter
        simp [hfront] at hx

/-- What is not in the back of a list is found before it. -/
theorem exists_split_front {α : Type} {front back before after : List α} {x : α}
    (h : front ++ back = before ++ x :: after) (hx : x ∉ back) :
    ∃ more, front = before ++ x :: more ∧ after = more ++ back := by
  rcases List.append_eq_append_iff.mp h with ⟨more, -, hback⟩ | ⟨more, hfront, hafter⟩
  · simp [hback] at hx
  · cases more with
    | nil =>
        rw [List.nil_append] at hafter
        simp [← hafter] at hx
    | cons y rest =>
        obtain ⟨rfl, rest_eq⟩ := List.cons_eq_cons.mp hafter
        exact ⟨rest, hfront, rest_eq⟩

/-! ## The parts of a closing -/

/-- The call gives back something that the session holds. -/
def Call.isRelease : Call L → Bool
  | .source .stop | .linkClosed _ | .playerReleased => true
  | _ => false

namespace Machine

/-- What a session tries about an event that then closes it: over a connection that is delivered, a
publishing session starts its source and stops it if it refuses; a frame that is asked for is
refused by the connection that the session owns. -/
def attempt (m : Machine L) (event : Event L) (a : Answers) : List (Call L) :=
  (if m.id.role = .publish ∧ event.link?.isSome then
      .source (.start m.settings.capture) :: a.start.toList.map fun _ => .source .stop
    else []) ++
  (m.turn event a).outbound?.toList.flatMap fun frame => m.link.toList.map (.refused · frame)

/-- The connection that is to be given back: the one that the session owns, or else the one that the
event delivers. -/
def holding (m : Machine L) (event : Event L) : Option L := m.link.or event.link?

/-- What is said of the failure that closes a session, if it is one. -/
def complaint (m : Machine L) (failure : Option SessionFailure) : List (Call L) :=
  failure.toList.flatMap fun e => m.announce (.failure e)

/-- The calls that close a session with the log `log`, in their order: what the session still tries;
the failure, told to all observers; the source, unless it has been stopped before; the connection;
the player, if it is not kept; the end, told to all observers. -/
def closingCalls (m : Machine L) (log : List (Call L)) (event : Event L) (a : Answers)
    (failure : Option SessionFailure) : List (Call L) :=
  m.attempt event a ++ m.complaint failure ++
    (if m.id.role = .publish ∧ .stop ∉ sources (log ++ m.attempt event a) then [.source .stop]
      else []) ++
    (m.holding event).toList.map .linkClosed ++
    (if m.releasesPlayer then [.playerReleased] else []) ++ m.announce .closed

variable {m next : Machine L} {a : Answers} {r : Response L} {calls log : List (Call L)}

@[simp] theorem complaint_none (m : Machine L) : m.complaint none = [] := rfl

@[simp] theorem complaint_some (m : Machine L) (e : SessionFailure) :
    m.complaint (some e) = m.announce (.failure e) := by
  simp [complaint]

theorem attempt_eq {event : Event L} (hr : response m.state event = r) (a : Answers) :
    m.attempt event a =
      (if m.id.role = .publish ∧ r.link?.isSome then
          .source (.start m.settings.capture) :: a.start.toList.map fun _ => .source .stop
        else []) ++
      r.frame?.toList.flatMap fun frame => m.link.toList.map (.refused · frame) := by
  have asked := (m.turn event a).outbound?_eq
  have met : response (m.turn event a).before (m.turn event a).event = r := hr
  rw [met] at asked
  rw [attempt, asked, ← hr, response_link]

theorem holding_eq {event : Event L} (hr : response m.state event = r) :
    m.holding event = m.link.or r.link? := by
  rw [holding, ← hr, response_link]

/-- A session that has not closed has not stopped its source. -/
theorem HasAsked.stop_not_mem {asked : List SourceCall} (h : m.HasAsked asked)
    (hopen : m.state ≠ .closed) : .stop ∉ asked := by
  cases role : m.id.role <;> cases stage : m.state <;> simp_all [HasAsked]

/-- **What is done about an event that closes a session**, part by part. -/
theorem Outcome.closing_parts {event : Event L} (h : Outcome m a r next calls)
    (sound : m.Sound) (hr : response m.state event = r) (hopen : m.state ≠ .closed)
    (hclosed : next.state = .closed) (unstopped : .stop ∉ sources log) :
    calls = m.closingCalls log event a next.failure := by
  rw [closingCalls, attempt_eq hr, holding_eq hr]
  cases h with
  | startRefused hstage hrole hstart =>
      have unlinked := sound.link_eq_none (by simp [hstage])
      simp [Response.link?, Response.frame?, releasesPlayer, Call.source?, hrole, hstart, unlinked]
  | failed | closed => simp [teardown, Response.link?, Response.frame?, unstopped]
  | refused hstage hlink hsend =>
      simp [teardown, Response.link?, Response.frame?, Call.source?, unstopped, hlink]
  | established => simp at hclosed
  | _ => exact absurd hclosed hopen

end Machine

/-- **The law of closing**, for a machine `m` with the log `log` whose session an event closes with
some calls, which leave the machine `next`. -/
structure ClosedInOrder (m : Machine L) (log : List (Call L)) (event : Event L) (a : Answers)
    (next : Machine L) (calls : List (Call L)) : Prop where
  /-- The calls come in the order of closing, and there are no others. -/
  parts : calls = m.closingCalls log event a next.failure
  /-- When an observer is told of the end everything has been given back, and the other observers
  are all that is left. -/
  told_last : ∀ before i after, calls = before ++ .toldClosed i :: after →
    (m.id.role = .publish → .stop ∈ sources (log ++ before)) ∧
      (∀ link, m.holding event = some link → .linkClosed link ∈ before) ∧
      (m.releasesPlayer = true → .playerReleased ∈ before) ∧
      ∀ c ∈ after, ∃ j, c = .toldClosed j
  /-- When an observer is told of a failure nothing has been given back but a source that has
  refused to start. -/
  complained_first : ∀ before i e after, calls = before ++ .toldError i e :: after →
    ∀ c ∈ before, c.isRelease = true →
      c = .source .stop ∧ m.id.role = .publish ∧ event.link?.isSome = true ∧ a.start.isSome = true

namespace Machine

variable {m next : Machine L} {a : Answers} {calls log : List (Call L)} {event : Event L}

theorem isRelease_attempt {c : Call L} (tried : c ∈ m.attempt event a)
    (release : c.isRelease = true) :
    c = .source .stop ∧ m.id.role = .publish ∧ event.link?.isSome = true ∧
      a.start.isSome = true := by
  rcases List.mem_append.mp tried with starting | sending
  · split at starting
    · next publishing =>
        rcases List.mem_cons.mp starting with rfl | stopping
        · simp [Call.isRelease] at release
        · obtain ⟨e, refusal, rfl⟩ := List.mem_map.mp stopping
          refine ⟨rfl, publishing.1, publishing.2, ?_⟩
          rw [Option.mem_toList.mp refusal]
          rfl
    · simp at starting
  · obtain ⟨frame, -, refused⟩ := List.mem_flatMap.mp sending
    obtain ⟨link, -, rfl⟩ := List.mem_map.mp refused
    simp [Call.isRelease] at release

/-- **Calls that come in the order of closing obey its law.** -/
theorem closedInOrder_of_parts
    (parts : calls = m.closingCalls log event a next.failure) :
    ClosedInOrder m log event a next calls := by
  constructor
  case parts => exact parts
  case told_last =>
    intro before i after split
    rw [parts, closingCalls] at split
    obtain ⟨more, rfl, told⟩ := exists_split_back split
      (by simp [attempt, complaint, announce, notify, Notice.call])
    refine ⟨fun publishes => ?_, fun link held => ?_, fun released => ?_, fun c hc => ?_⟩
    · by_cases stopped : .stop ∈ sources (log ++ m.attempt event a)
      · rw [sources_append] at stopped ⊢
        rcases List.mem_append.mp stopped with earlier | tried
        · exact List.mem_append_left _ earlier
        · simp [tried]
      · rw [if_pos ⟨publishes, stopped⟩]
        simp [Call.source?]
    · simp [held]
    · simp [released]
    · have among : c ∈ m.announce .closed := by simp [told, hc]
      obtain ⟨j, -, rfl⟩ := List.mem_map.mp among
      exact ⟨j, rfl⟩
  case complained_first =>
    intro before i e after split c hc release
    rw [parts, closingCalls] at split
    simp only [List.append_assoc] at split
    rw [← List.append_assoc] at split
    obtain ⟨more, front, -⟩ := exists_split_front split
      (by simp [announce, notify, Notice.call])
    have among : c ∈ m.attempt event a ++ m.complaint next.failure := by simp [front, hc]
    rcases List.mem_append.mp among with tried | complained
    · exact isRelease_attempt tried release
    · obtain ⟨f, -, said⟩ := List.mem_flatMap.mp complained
      obtain ⟨j, -, rfl⟩ := List.mem_map.mp said
      simp [Notice.call, Call.isRelease] at release

/-- **Every event that closes a session does it in the order of closing**, whatever the session has
met before and whatever its connection and its source answer. -/
theorem run_closesInOrder (id : SessionIdentity) (settings : SessionPolicy) (observers : Nat)
    (es : List (Event L × Answers)) (event : Event L) (a : Answers)
    (hopen : ((fresh id settings observers).run es).1.state ≠ .closed)
    (hclosed : (((fresh id settings observers).run es).1.handle a event).1.state = .closed) :
    ClosedInOrder ((fresh id settings observers).run es).1 ((fresh id settings observers).run es).2
      event a (((fresh id settings observers).run es).1.handle a event).1
      (((fresh id settings observers).run es).1.handle a event).2 := by
  have history := history_run id settings observers es
  have asked := history.hasAsked
  rw [log_turns] at asked
  have outcome := history.sound.handle_outcome a event
  exact closedInOrder_of_parts
    (outcome.closing_parts history.sound rfl hopen hclosed (asked.stop_not_mem hopen))

/-- A connection that has accepted a heartbeat refuses the next one, and two observers listen. -/
theorem run_closesInOrder_heartbeat :
    let m : Machine Nat := .fresh ⟨"c", "k", .publish⟩ .standard 2
    let es := [(.opened 7, .willing), (.opened 8, .willing), (.heartbeatTick, .willing)]
    let a : Answers := ⟨none, some (.transport "gone")⟩
    (m.run es).1.state ≠ .closed ∧ ((m.run es).1.handle a .heartbeatTick).1.state = .closed ∧
      ClosedInOrder (m.run es).1 (m.run es).2 .heartbeatTick a
        ((m.run es).1.handle a .heartbeatTick).1 ((m.run es).1.handle a .heartbeatTick).2 :=
  ⟨by decide, by decide,
    run_closesInOrder _ _ _ _ _ ⟨none, some (.transport "gone")⟩ (by decide) (by decide)⟩

end Machine

end Livecast
