import Livecast.Proofs.Session.Outbound
import Mathlib.Data.List.Count

/-!
# Every resource is released once

However a session comes to its end, it stops its source, closes its connections, releases its player
and tells its observers, each once.  The connections follow a law of conservation: of all that were
delivered, each has been closed or is the one that the session owns.

## Main Definitions

* `sources`, `delivered` - what is asked of the source, and the connections that events deliver
* `Parting`, `Machine.owes` - the calls that a session owes until it has closed
* `ReleasedOnce` - what has been released, and how often

## Main Statements

* `Machine.History.hasAsked` - what is asked of the source in each stage
* `Machine.History.count_parting` - what is owed is paid when the session closes
* `Machine.History.count_linkClosed` - the conservation of connections
* `Machine.run_releasedOnce` - every run releases every resource once
-/

namespace Livecast

variable {L : Type}

/-! ## The source -/

/-- What a call asks of the media source. -/
def Call.source? : Call L → Option SourceCall
  | .source call => some call
  | _ => none

/-- What a log asks of the media source. -/
def sources (log : List (Call L)) : List SourceCall := log.filterMap Call.source?

@[simp] theorem sources_nil : sources ([] : List (Call L)) = [] := rfl

@[simp] theorem sources_cons (c : Call L) (log : List (Call L)) :
    sources (c :: log) = c.source?.toList ++ sources log :=
  filterMap_cons_toList Call.source? c log

@[simp] theorem sources_append (log more : List (Call L)) :
    sources (log ++ more) = sources log ++ sources more :=
  List.filterMap_append

namespace Machine

variable {m : Machine L} {a : Answers} {r : Response L} {next : Machine L} {calls : List (Call L)}

@[simp] theorem sources_announce (m : Machine L) (n : Notice) : sources (m.announce n) = [] :=
  m.filterMap_announce_eq_nil n fun _ => by cases n <;> rfl

@[simp] theorem sources_startup (m : Machine L) :
    sources m.startup = if m.id.role = .publish then [.start m.settings.capture] else [] :=
  m.filterMap_startup _

@[simp] theorem sources_teardown (m : Machine L) :
    sources m.teardown = if m.id.role = .publish then [.stop] else [] := by
  have announced : (m.announce .closed).filterMap Call.source? = [] := m.sources_announce .closed
  rw [sources, filterMap_teardown, announced]
  simp [Call.source?]

/-- What a machine in its stage has asked of its source: a publishing session starts it when it
opens and stops it when it closes, also without having started it. -/
def HasAsked (m : Machine L) (asked : List SourceCall) : Prop :=
  match m.id.role, m.state with
  | .watch, _ | .publish, .connecting => asked = []
  | .publish, .opened => asked = [.start m.settings.capture]
  | .publish, .closed => asked = [.stop] ∨ asked = [.start m.settings.capture, .stop]

/-- A machine that closes stops its source after all that it has asked of it. -/
theorem HasAsked.ended {asked : List SourceCall} (h : m.HasAsked asked) (hstage : m.state ≠ .closed)
    (failure : Option SessionFailure) :
    (m.ended failure).HasAsked
      (asked ++ if m.id.role = .publish then [.stop] else []) := by
  cases role : m.id.role <;> cases stage : m.state <;> simp_all [HasAsked]

theorem Outcome.hasAsked (h : Outcome m a r next calls) {asked : List SourceCall}
    (hasked : m.HasAsked asked) : next.HasAsked (asked ++ sources calls) := by
  cases h with
  | established hstage hstart =>
      cases role : m.id.role <;> simp_all [HasAsked]
  | startRefused hstage hrole hstart =>
      simp_all [HasAsked, Call.source?]
  | failed hstage | closed hstage => simpa using hasked.ended hstage _
  | refused hstage hlink hsend =>
      simpa [Call.source?] using hasked.ended (by simp [hstage]) _
  | received | recorded =>
      change m.HasAsked (asked ++ [])
      rwa [List.append_nil]
  | _ => simpa [Call.source?] using hasked

/-- **What is asked of the source in each stage.** -/
theorem History.hasAsked {id : SessionIdentity} {settings : SessionPolicy} {observers : Nat}
    {ts : List (Turn L)} (h : History id settings observers ts m) :
    m.HasAsked (sources (Turn.log ts)) := by
  induction h using History.invariant with
  | fresh => cases role : id.role <;> simp [HasAsked, Machine.fresh, role]
  | turn _ _ ih _ outcome =>
      simpa only [Turn.log_concat, sources_append] using outcome.hasAsked ih

/-- The source is asked to start and to stop, each at most once and in this order. -/
theorem HasAsked.sublist {asked : List SourceCall} (h : m.HasAsked asked) :
    asked.Sublist [.start m.settings.capture, .stop] := by
  cases role : m.id.role <;> cases stage : m.state <;> simp only [HasAsked, role, stage] at h
  case publish.closed => rcases h with rfl | rfl <;> simp
  all_goals simp [h]

/-- A publishing session that has closed has stopped its source. -/
theorem HasAsked.count_stop {asked : List SourceCall} (h : m.HasAsked asked)
    (hrole : m.id.role = .publish) (hstage : m.state = .closed) : asked.count .stop = 1 := by
  simp only [HasAsked, hrole, hstage] at h
  rcases h with rfl | rfl <;> rfl

end Machine

/-! ## The player and the observers -/

/-- A call that a session owes from its beginning until it has closed. -/
inductive Parting where
  /-- The player is released. -/
  | player
  /-- The observer of this number is told that the session has closed. -/
  | observer (i : Nat)

/-- The call that is owed. -/
def Parting.call : Parting → Call L
  | .player => .playerReleased
  | .observer i => .toldClosed i

/-- A call is owed. -/
def Call.isParting : Call L → Bool
  | .playerReleased | .toldClosed _ => true
  | _ => false

theorem Parting.ne_call {c : Call L} (h : c.isParting = false) (p : Parting) : c ≠ p.call := by
  rintro rfl
  cases p <;> simp [Parting.call, Call.isParting] at h

/-- Calls that are not owed pay nothing. -/
theorem Parting.count_eq_zero [DecidableEq L] {calls : List (Call L)}
    (h : ∀ c ∈ calls, c.isParting = false) (p : Parting) : calls.count p.call = 0 :=
  List.count_eq_zero.mpr fun hc => Parting.ne_call (h _ hc) p rfl

namespace Machine

variable {m : Machine L} {a : Answers} {r : Response L} {next : Machine L} {calls : List (Call L)}

/-- How often a session has to make a call by the time it has closed. -/
def owes (m : Machine L) : Parting → Nat
  | .player => if m.releasesPlayer then 1 else 0
  | .observer i => if i < m.observers then 1 else 0

variable [DecidableEq L]

/-- A closing session tells every observer once. -/
theorem count_announce_closed (m : Machine L) (i : Nat) :
    (m.announce .closed).count (.toldClosed i) = if i < m.observers then 1 else 0 := by
  have injective : Function.Injective (Call.toldClosed : Nat → Call L) := fun _ _ => by simp
  rw [announce, Notice.call, notify, List.count_map_of_injective _ _ injective, List.count_range]

/-- Only the notice of closing is owed. -/
theorem count_announce (m : Machine L) (n : Notice) (p : Parting) :
    (m.announce n).count p.call =
      match n, p with
      | .closed, .observer i => if i < m.observers then 1 else 0
      | _, _ => 0 := by
  cases n with
  | closed =>
      cases p with
      | player =>
          refine List.count_eq_zero.mpr fun hc => ?_
          obtain ⟨i, -, told⟩ := List.mem_map.mp hc
          simp [Notice.call, Parting.call] at told
      | observer i => exact m.count_announce_closed i
  | _ =>
      refine Parting.count_eq_zero (fun c hc => ?_) p
      obtain ⟨i, -, rfl⟩ := List.mem_map.mp hc
      rfl

/-- How often a call is made in a teardown. -/
theorem count_teardown_eq (m : Machine L) (c : Call L) :
    m.teardown.count c =
      (if m.id.role = .publish ∧ c = .source .stop then 1 else 0) +
        (m.link.toList.map .linkClosed).count c +
          (if m.releasesPlayer = true ∧ c = .playerReleased then 1 else 0) +
            (m.announce .closed).count c := by
  have single (d : Call L) : [d].count c = if c = d then 1 else 0 := by
    by_cases same : c = d
    · simp [same]
    · rw [if_neg same]
      exact List.count_eq_zero.mpr (by simpa using same)
  rw [teardown, List.count_append, List.count_append, List.count_append]
  congr 3
  · by_cases role : m.id.role = .publish <;> simp [role, single]
  · by_cases player : m.releasesPlayer = true <;> simp [player, single]

/-- **A teardown pays what is owed.** -/
theorem count_teardown (m : Machine L) (p : Parting) : m.teardown.count p.call = m.owes p := by
  have links : (m.link.toList.map Call.linkClosed).count p.call = 0 :=
    Parting.count_eq_zero (by simp [Call.isParting]) p
  rw [count_teardown_eq, links, count_announce]
  cases p <;> simp [owes, Parting.call]

/-- Neither a call that is owed nor the closing of a connection is part of a beginning. -/
theorem count_startup (m : Machine L) {c : Call L} (hc : c.source? = none) :
    m.startup.count c = 0 := by
  refine List.count_eq_zero.mpr fun started => ?_
  unfold startup at started
  split at started
  · obtain rfl := List.mem_singleton.mp started
    simp [Call.source?] at hc
  · simp at started

/-- What is owed is paid by the event that closes the session, and by no other. -/
theorem Outcome.count_parting (h : Outcome m a r next calls) (p : Parting) :
    calls.count p.call = if m.state ≠ .closed ∧ next.state = .closed then m.owes p else 0 := by
  cases h with
  | established hstage hstart =>
      have startup : m.startup.count p.call = 0 := m.count_startup (by cases p <;> rfl)
      simp [startup, count_announce]
  | @startRefused link e hstage hrole hstart =>
      have source : ([.source (.start m.settings.capture), .source .stop] : List (Call L)).count
          p.call = 0 :=
        Parting.count_eq_zero (by simp [Call.isParting]) p
      have closing : [Call.linkClosed link].count p.call = 0 :=
        Parting.count_eq_zero (by simp [Call.isParting]) p
      rw [List.count_append, List.count_append, List.count_append, source, closing, count_announce,
        count_announce]
      cases p <;> simp [owes, releasesPlayer, hrole, hstage]
  | failed hstage | closed hstage => simp [count_announce, count_teardown, hstage]
  | @refused link frame e hstage =>
      have refused : (.refused link frame : Call L) ≠ p.call := Parting.ne_call rfl p
      simp [count_announce, count_teardown, hstage, refused]
  | warned => simp [count_announce]
  | _ =>
      rw [Parting.count_eq_zero (by simp [Call.isParting]) p]
      simp

/-- **What a session owes is paid when it closes, once.** -/
theorem History.count_parting {id : SessionIdentity} {settings : SessionPolicy} {observers : Nat}
    {ts : List (Turn L)} (h : History id settings observers ts m) (p : Parting) :
    (Turn.log ts).count p.call = if m.state = .closed then m.owes p else 0 := by
  induction h using History.invariant with
  | fresh => rfl
  | @turn ts m event a r next calls _ _ ih _ outcome =>
      have owed : next.owes p = m.owes p := by
        obtain ⟨hid, hsettings, hobservers⟩ := outcome.unchanged
        cases p <;> simp [owes, releasesPlayer, hid, hsettings, hobservers]
      rw [Turn.log_concat, List.count_append, ih, outcome.count_parting p, owed]
      by_cases closed : m.state = .closed
      · simp [closed, outcome.stage_closed closed]
      · simp [closed]

/-! ## The connections -/

theorem count_linkClosed_announce (m : Machine L) (n : Notice) (link : L) :
    (m.announce n).count (.linkClosed link) = 0 := by
  rw [List.count_eq_zero]
  intro hc
  obtain ⟨i, -, hi⟩ := List.mem_map.mp hc
  cases n <;> simp [Notice.call] at hi

/-- A teardown closes the connection that the session owns. -/
theorem count_linkClosed_teardown (m : Machine L) (link : L) :
    m.teardown.count (.linkClosed link) = m.link.toList.count link := by
  have injective : Function.Injective (Call.linkClosed : L → Call L) := fun _ _ => by simp
  rw [count_teardown_eq, count_linkClosed_announce, List.count_map_of_injective _ _ injective]
  simp

/-- **The conservation of connections**, for one event: what was owned or comes is closed or owned
afterwards. -/
theorem Outcome.count_linkClosed (h : Outcome m a r next calls) (sound : m.Sound) (link : L) :
    calls.count (.linkClosed link) + next.link.toList.count link =
      m.link.toList.count link + r.link?.toList.count link := by
  have unlinked (hstage : m.state = .connecting) : m.link = none :=
    sound.link_eq_none (by simp [hstage])
  cases h with
  | @established l hstage hstart =>
      have startup : m.startup.count (.linkClosed link) = 0 := m.count_startup rfl
      simp [startup, count_linkClosed_announce, unlinked hstage, Response.link?]
  | @startRefused l e hstage hrole hstart =>
      -- delivered and closed by the same event
      simp [count_linkClosed_announce, unlinked hstage, Response.link?, List.count_cons]
  | failed | closed | refused =>
      simp [count_linkClosed_announce, count_linkClosed_teardown, Response.link?]
  | warned => simp [count_linkClosed_announce, Response.link?]
  | discarded => simp [Response.link?, List.count_singleton, Nat.add_comm]
  | _ => simp [Response.link?]

/-- **The conservation of connections**: of all that were delivered, each has been closed or is the
one that the session owns. -/
theorem History.count_linkClosed {id : SessionIdentity} {settings : SessionPolicy} {observers : Nat}
    {ts : List (Turn L)} (h : History id settings observers ts m) (link : L) :
    (Turn.log ts).count (.linkClosed link) + m.link.toList.count link =
      (ts.filterMap (·.event.link?)).count link := by
  induction h using History.invariant with
  | fresh => rfl
  | @turn ts m event a r next calls past _ ih hr outcome =>
      have one := outcome.count_linkClosed past.sound link
      rw [← hr, response_link] at one
      simp only [Turn.filterMap_concat, Turn.log_concat, List.count_append, ← ih]
      omega

/-- A connection that is used has not been closed as often as it was delivered: the session still
owns it. -/
theorem History.count_linkClosed_lt {id : SessionIdentity} {settings : SessionPolicy}
    {observers : Nat} {ts : List (Turn L)} (h : History id settings observers ts m)
    {before after : List (Call L)} {c : Call L} {s : Transmission L}
    (hlog : Turn.log ts = before ++ c :: after) (hc : c.transmission? = some s) :
    before.count (.linkClosed s.link) < (ts.filterMap (·.event.link?)).count s.link := by
  obtain ⟨past, future, now, rfl, rfl, hpast, -, owned⟩ := h.split_sent hlog hc
  -- the connection that the frame goes over is the one that the law leaves unclosed
  have law := hpast.count_linkClosed s.link
  rw [owned, Option.toList_some, List.count_singleton_self] at law
  rw [List.filterMap_append, List.count_append]
  omega

end Machine

/-! ## Afterwards, and a whole run -/

/-- The connections that events deliver, in order. -/
def delivered (es : List (Event L × Answers)) : List L := es.filterMap (·.1.link?)

namespace Machine

theorem delivered_turns (m : Machine L) (es : List (Event L × Answers)) :
    (m.turns es).filterMap (·.event.link?) = delivered es :=
  filterMap_turns Event.link? m es

/-- A closed session closes a connection that comes late, and does nothing else. -/
theorem handle_closed {m : Machine L} (hstage : m.state = .closed) (a : Answers) (event : Event L) :
    m.handle a event = (m, event.link?.toList.map .linkClosed) := by
  rw [handle_eq_perform, hstage]
  cases event <;> rfl

theorem run_closed {m : Machine L} (hstage : m.state = .closed) (es : List (Event L × Answers)) :
    m.run es = (m, (delivered es).map .linkClosed) := by
  induction es with
  | nil => rfl
  | cons e rest ih =>
      have first := handle_closed hstage e.2 e.1
      cases link : e.1.link? <;> simp [run, first, ih, delivered, link]

end Machine

/-- **What has been released, and how often**: by a session with its identity, its settings and its
observers, to which the connections `links` were delivered, and which stands at `m` after `log`. -/
structure ReleasedOnce [DecidableEq L] (id : SessionIdentity) (settings : SessionPolicy)
    (observers : Nat) (links : List L) (m : Machine L) (log : List (Call L)) : Prop where
  /-- The source is asked to start and to stop, each at most once and in this order. -/
  source : (sources log).Sublist [.start settings.capture, .stop]
  /-- A publishing session that has closed has stopped its source. -/
  source_stopped : id.role = .publish → m.state = .closed → (sources log).count .stop = 1
  /-- The player is released at most once. -/
  player : log.count .playerReleased ≤ 1
  /-- A watching session that has closed and keeps nothing has released its player. -/
  player_released : id.role = .watch → settings.retain = false → m.state = .closed →
    log.count .playerReleased = 1
  /-- A session that keeps what it received does not release its player. -/
  player_retained : settings.retain = true → log.count .playerReleased = 0
  /-- No observer is told twice that the session has closed. -/
  told : ∀ i, log.count (.toldClosed i) ≤ 1
  /-- All observers of a closed session have been told. -/
  all_told : m.state = .closed → ∀ i < observers, log.count (.toldClosed i) = 1
  /-- A connection is closed at most as often as it was delivered. -/
  link_closed : ∀ link, log.count (.linkClosed link) ≤ links.count link
  /-- All connections of a closed session have been closed. -/
  links_closed : m.state = .closed → ∀ link, log.count (.linkClosed link) = links.count link
  /-- A connection is not used any more once it has been closed as often as it was delivered. -/
  link_used : ∀ before c after s, log = before ++ c :: after → c.transmission? = some s →
    before.count (.linkClosed s.link) < links.count s.link
  /-- Later events leave a closed session as it is; only connections that come late are closed. -/
  final : m.state = .closed → ∀ later, m.run later = (m, (delivered later).map .linkClosed)

/-- **Every run of every session releases every resource once**, whatever the events, their order
and the answers of connections and source. -/
theorem Machine.run_releasedOnce [DecidableEq L] (id : SessionIdentity) (settings : SessionPolicy)
    (observers : Nat) (es : List (Event L × Answers)) :
    ReleasedOnce id settings observers (delivered es) ((fresh id settings observers).run es).1
      ((fresh id settings observers).run es).2 := by
  have history := history_run id settings observers es
  have asked := history.hasAsked
  have paid := history.count_parting
  have conserved := history.count_linkClosed
  have sound := history.sound
  obtain ⟨hid, hsettings, hobservers⟩ := history.unchanged
  rw [log_turns] at asked paid
  rw [log_turns, delivered_turns] at conserved
  have player := paid .player
  have observer (i : Nat) := paid (.observer i)
  simp only [Parting.call, owes, releasesPlayer, hid, hsettings, hobservers] at player observer
  constructor
  case source => simpa only [hsettings] using asked.sublist
  case source_stopped => exact fun hrole => asked.count_stop (by rwa [hid])
  case player =>
    rw [player]
    grind
  case player_released =>
    intro hrole retain closed
    simp [player, hrole, retain, closed]
  case player_retained =>
    intro retain
    simp [player, retain]
  case told =>
    intro i
    rw [observer]
    grind
  case all_told =>
    intro closed i hi
    simp [observer, closed, hi]
  case link_closed =>
    intro link
    exact Nat.le.intro (conserved link)
  case links_closed =>
    intro closed link
    have unlinked := sound.link_eq_none (by simp [closed])
    simpa [unlinked] using conserved link
  case link_used =>
    intro before c after s hlog hc
    rw [← log_turns] at hlog
    rw [← delivered_turns (fresh id settings observers)]
    exact history.count_linkClosed_lt hlog hc
  case final => exact fun closed later => run_closed closed later

end Livecast
