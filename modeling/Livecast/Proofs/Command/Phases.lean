import Livecast.Proofs.Command.Happening
import Livecast.Proofs.WebSocket.Hearing

/-!
# The phases of an undisturbed session

As long as nobody disturbs it, a session waits for its handshake, opens, meets what its connection
reports, and closes with the end of the stream.

## Main Definitions

* `Connection.Intact` - the link has not been closed, and the writing task works
* `Passing` - what is on its way from the reading task to the session
* `Phase` - what is true in each phase

## Main Statements

* `Machine.Outcome.steady`, `Machine.Outcome.opens`, `Machine.Outcome.ends` - what the events of an
  undisturbed session come to
* `Phase.taking` - the session goes through its phases

## Design Notes

The reading task is at work before the session knows that it is open.  Nothing is lost, because what
it posts comes behind the result of the handshake, which the session takes first.
-/

namespace Livecast

/-! ## The connection of an open session -/

/-- The link has not been closed, and the writing task works. -/
structure Connection.Intact (c : Connection) : Prop where
  /-- What is handed over is accepted. -/
  accepts : c.outbound.accepts = true
  /-- The link has not been closed. -/
  held : c.held = true
  /-- Nobody has asked for the end of the stream. -/
  lasting : .close ∉ c.outbound.items

namespace Connection.Intact

variable {c : Connection}

theorem refusal_eq_none (h : c.Intact) : c.refusal = none := if_pos h.accepts

/-- What the session does to its link leaves it intact, unless it closes it. -/
theorem handOver (h : c.Intact) {call : Call MeteredLink}
    (kept : ∀ link, call ≠ .linkClosed link) :
    (LiveSession.handOver c (.call call)).Intact ∧
      (LiveSession.handOver c (.call call)).reading = c.reading := by
  cases call with
  | sent link frame =>
      refine ⟨⟨?_, h.held, ?_⟩, rfl⟩
      · exact (Mailbox.accepts_send ..).trans h.accepts
      · simpa [LiveSession.handOver, Connection.send, Mailbox.send, h.accepts] using h.lasting
  | linkClosed link => exact absurd rfl (kept link)
  | _ => exact ⟨h, rfl⟩

theorem heed (h : c.Intact) {calls : List (Call MeteredLink)}
    (kept : ∀ link, .linkClosed link ∉ calls) :
    (c.heed calls).Intact ∧ (c.heed calls).reading = c.reading := by
  induction calls generalizing c with
  | nil => exact ⟨h, rfl⟩
  | cons call rest ih =>
      obtain ⟨first, same⟩ := h.handOver fun link closing =>
        kept link (closing ▸ List.mem_cons_self)
      obtain ⟨all, still⟩ := ih first fun link later => kept link (List.mem_cons_of_mem _ later)
      exact ⟨all, still.trans same⟩

theorem agrees (h : c.Intact) {other : Connection} (same : other.Agrees c) : other.Intact :=
  ⟨same.outbound ▸ h.accepts, same.held ▸ h.held, same.outbound ▸ h.lasting⟩

/-- As long as the network takes what it is given, the writing task has nothing to report and goes
on. -/
theorem write {L : Type} {next : Connection} {events : List (Event L)} (h : c.Intact)
    (step : c.write? none = some (next, events)) : next.Intact := by
  obtain ⟨sends, -⟩ := Bool.and_eq_true_iff.mp h.accepts
  have lasting := h.lasting
  cases Connection.write?_eq_some_iff.mp step with
  | ends _ _ gone => simp [gone] at sends
  | closes _ front => simp [front] at lasting
  | writes _ front =>
      rw [front] at lasting
      exact ⟨h.accepts, h.held, fun later => lasting (List.mem_cons_of_mem _ later)⟩

end Connection.Intact

/-! ## What one event does to an undisturbed session -/

section

variable {m next : Machine MeteredLink} {a : Answers} {event : Event MeteredLink}
  {r : Response MeteredLink} {calls : List (Call MeteredLink)}

theorem Machine.linkClosed_not_mem_announce (m : Machine MeteredLink) (n : Notice)
    (link : MeteredLink) : .linkClosed link ∉ m.announce n := by
  intro closing
  obtain ⟨i, -, told⟩ := List.mem_map.mp closing
  cases n <;> simp [Notice.call] at told

/-- **What does not concern the stage of a session** leaves it in its stage and with its connection,
and so does a message to an open session. -/
theorem Machine.Outcome.steady (outcome : Machine.Outcome m a (response m.state event) next calls)
    (willing : a.send = none) (unclosed : m.state ≠ .closed)
    (h : event.isIdle = true ∨ m.state = .opened ∧ ∃ frame, event = .message frame) :
    next.state = m.state ∧ next.link = m.link ∧ ∀ link, .linkClosed link ∉ calls := by
  have steady : (response m.state event).frame?.isSome ∨ response m.state event = .ignore ∨
      (∃ position, response m.state event = .record position) ∨
      (∃ data, response m.state event = .receive data) ∨
      ∃ content, response m.state event = .hear content := by
    rcases h with idle | ⟨opened, frame, rfl⟩
    · cases stage : m.state <;> cases event <;>
        simp_all [Event.isIdle, response, Response.frame?]
    · cases frame <;> simp [opened, response]
  generalize response m.state event = r at outcome steady
  -- the response is one of five kinds, and only a refused frame could still close the link
  cases outcome with
  | refused _ _ hsend => simp [willing] at hsend
  | warned => exact ⟨rfl, rfl, m.linkClosed_not_mem_announce _⟩
  | ignored | received | overlooked | heard | recorded | unrecorded | sent =>
      exact ⟨rfl, rfl, by simp⟩
  | _ => simp [Response.frame?] at steady

theorem Machine.Outcome.opens {link : MeteredLink}
    (outcome : Machine.Outcome m a (response m.state (.opened link)) next calls)
    (watches : m.id.role = .watch) (stage : m.state = .connecting) :
    next.state = .opened ∧ next.link = some link ∧ ∀ link, .linkClosed link ∉ calls := by
  rw [stage] at outcome
  cases outcome with
  | established =>
      refine ⟨rfl, rfl, fun link closing => ?_⟩
      rcases List.mem_append.mp closing with closing | closing
      · simp [startup, watches] at closing
      · exact m.linkClosed_not_mem_announce _ link closing
  | startRefused _ hrole => simp [watches] at hrole

/-- The end of the stream closes an open session, for the reason that it has. -/
theorem Machine.Outcome.ends (outcome : Machine.Outcome m a (response m.state event) next calls)
    (stage : m.state = .opened) {failure : Option SessionFailure}
    (h : event = .closed ∧ failure = none ∨
      ∃ reason, event = .errored reason ∧ failure = some (.transport reason)) :
    next.state = .closed ∧ next.failure = failure := by
  rw [stage] at outcome
  rcases h with ⟨rfl, rfl⟩ | ⟨reason, rfl, rfl⟩ <;> cases outcome <;> exact ⟨rfl, rfl⟩

end

/-! ## Between the reading task and the session -/

/-- What is on its way to a session that has not closed. -/
structure Passing (ts : List (Turn MeteredLink)) (items : List Inbound)
    (queue : Mailbox (Event MeteredLink)) (c : Connection) : Prop where
  /-- The session takes events. -/
  listens : queue.accepts = true
  /-- What others than the connection have posted does not concern its stage. -/
  undemanding : ∀ event ∈ queue.items, event.isNews = true ∨ event.isIdle = true
  /-- What the connection has reported was met, or waits to be met, in order. -/
  passed : news (ts.map Turn.event) ++ news queue.items = newsOf items
  /-- The link works. -/
  intact : c.Intact

namespace Passing

variable {ts : List (Turn MeteredLink)} {items : List Inbound}
  {queue : Mailbox (Event MeteredLink)} {c after : Connection}

/-- Something is posted that does not concern the stage of the session. -/
theorem post (h : Passing ts items queue c) {event : Event MeteredLink}
    (idle : event.isIdle = true) : Passing ts items (queue.send event) c := by
  rw [Mailbox.send_of_accepts h.listens]
  refine ⟨h.listens, fun other among => ?_, ?_, h.intact⟩
  · rcases List.mem_append.mp among with among | among
    · exact h.undemanding other among
    · exact .inr (List.mem_singleton.mp among ▸ idle)
  · simpa [news, Event.isNews_of_isIdle idle] using h.passed

/-- **What the reading task hears it passes on.** -/
theorem hear (h : Passing ts items queue c) (item : Inbound) (intact : after.Intact) :
    Passing ts (items ++ [item]) (queue.sendAll item.event?.toList) after := by
  rw [Mailbox.sendAll_eq, if_pos h.listens]
  refine ⟨h.listens, fun event among => ?_, ?_, intact⟩
  · rcases List.mem_append.mp among with among | among
    · exact h.undemanding event among
    · exact .inl (Inbound.isNews_event (Option.mem_toList.mp among))
  · have told : news item.event?.toList = (newsOf [item] : List (Event MeteredLink)) := by
      cases what : item.event? (L := MeteredLink) with
      | none => simp [newsOf, news, what]
      | some event => simp [newsOf, news, what, Inbound.isNews_event what]
    rw [news_append, newsOf_append, told, ← List.append_assoc, h.passed]

/-- **What the session takes it has met.**  In `rest` is what waited behind the event, and in `more`
what the observers post. -/
theorem turn (h : Passing ts items queue c) {t : Turn MeteredLink}
    {rest more : List (Event MeteredLink)} (waiting : news queue.items = news (t.event :: rest))
    (fewer : rest ⊆ queue.items) (calm : ∀ event ∈ more, event.isIdle = true)
    (intact : after.Intact) :
    Passing (ts ++ [t]) items ({ queue with items := rest }.sendAll more) after := by
  have quiet : news more = [] :=
    List.filter_eq_nil_iff.mpr fun event among => by
      simp [Event.isNews_of_isIdle (calm event among)]
  have listens : ({ queue with items := rest } : Mailbox (Event MeteredLink)).accepts = true :=
    h.listens
  rw [Mailbox.sendAll_eq, if_pos listens]
  refine ⟨listens, fun event among => ?_, ?_, intact⟩
  · rcases List.mem_append.mp among with among | among
    · exact h.undemanding event (fewer among)
    · exact .inr (calm event among)
  · have first : news (t.event :: rest) = news [t.event] ++ news rest := news_append [t.event] rest
    rw [List.map_append, news_append, news_append, quiet, ← h.passed, waiting, first]
    simp

end Passing

/-! ## The phases of an undisturbed session -/

/-- What is true in each phase of an undisturbed session, of its machine `m`, of its handshake, of
its queue and of its connection. -/
inductive Phase (ts : List (Turn MeteredLink)) (items : List Inbound) (m : Machine MeteredLink)
    (shake : Handshake MeteredLink) (queue : Mailbox (Event MeteredLink)) (c : Connection) :
    Prop where
  /-- The handshake is under way. -/
  | waiting (stage : m.state = .connecting) (shaking : shake = .pending) (unheard : items = [])
      (passing : Passing ts items queue c)
  /-- The handshake has given a connection, which the session does not know yet. -/
  | connected (stage : m.state = .connecting) (given : shake = .ready (.ok LiveSession.link))
      (passing : Passing ts items queue c)
  /-- The session is open. -/
  | opened (stage : m.state = .opened) (taken : shake = .taken)
      (link : m.link = some LiveSession.link) (passing : Passing ts items queue c)
  /-- The session has met everything, and has closed. -/
  | closed {last : Inbound} (stage : m.state = .closed) (taken : shake = .taken)
      (deaf : c.reading = false) (met : news (ts.map Turn.event) = newsOf items)
      (final : items.getLast? = some last) (failure : m.failure = last.failure?)
      (opened : ts.filterMap Turn.opening? ≠ [])

/-- A reading task that has ended does not begin again, whatever the session calls. -/
theorem Connection.reading_heed {c : Connection} (deaf : c.reading = false)
    (calls : List (Call MeteredLink)) : (c.heed calls).reading = false := by
  induction calls generalizing c with
  | nil => exact deaf
  | cons call rest ih =>
      refine ih ?_
      cases call with
      | linkClosed link =>
          simp only [LiveSession.handOver, drop, close]
          split
          · rfl
          · exact deaf
      | _ => exact deaf

section

variable {ts : List (Turn MeteredLink)} {items : List Inbound} {r next : Ensemble}
  {c : Connection} {event : Event MeteredLink} {rest : List (Event MeteredLink)}
  {shake : Handshake MeteredLink} {channel key : String} {settings : SessionPolicy}
  {observers : Nat}

/-- **A session that stays open, or has yet to open, keeps everything going.** -/
theorem Passing.taking (h : Passing ts items r.task.queue c)
    (now : Ensemble.Taking r event rest shake next) (unclosed : next.task.machine.state ≠ .closed)
    (kept : ∀ link, .linkClosed link ∉ (r.task.machine.handle r.answers event).2)
    (waiting : news r.task.queue.items = news (event :: rest)) (fewer : rest ⊆ r.task.queue.items)
    (calm : ∀ activity, ∀ event ∈ r.echo activity, event.isIdle = true) :
    Passing (ts ++ [r.task.machine.turn event r.answers]) items next.task.queue
        (c.heed (r.task.machine.handle r.answers event).2) ∧
      (c.heed (r.task.machine.handle r.answers event).2).reading = c.reading := by
  obtain ⟨intact, same⟩ := h.intact.heed kept
  refine ⟨?_, same⟩
  rw [now.queue unclosed]
  refine h.turn waiting fewer (fun event among => ?_) intact
  obtain ⟨call, -, echoed⟩ := List.mem_flatMap.mp among
  exact calm _ event echoed

theorem Passing.isIdle_of_unheard (h : Passing ts [] r.task.queue c)
    (among : event ∈ r.task.queue.items) : event.isIdle = true := by
  refine (h.undemanding event among).resolve_left fun isNews => ?_
  have quiet : news r.task.queue.items = [] := (List.append_eq_nil_iff.mp h.passed).2
  exact absurd isNews (List.filter_eq_nil_iff.mp quiet event among)

theorem Ensemble.cutOff_eq_self (h : r.task.machine.link = none) (refusal : SessionFailure) :
    r.cutOff refusal = r := by
  obtain ⟨⟨⟨_, _, _, _, link, _, _, _⟩, queue, shake⟩, _, _, _, _, _, _, _, _⟩ := r
  obtain rfl : link = none := h
  rfl

/-! ### Lines that forward nothing -/

theorem CaptureLine.forwarding_readOnce? {l next : CaptureLine} (h : l.readOnce? = some next) :
    next.forwarding = l.forwarding := by
  unfold readOnce? at h
  split at h
  · obtain ⟨s, -, rfl⟩ := Option.map_eq_some_iff.mp h
    rfl
  · simp at h

theorem CaptureLine.forwarding_fire (l : CaptureLine) (now : Nat) :
    (l.fire now).forwarding = l.forwarding := by
  unfold fire
  split
  · split <;> rfl
  · rfl

theorem CaptureLine.forwarding_feed (l : CaptureLine) (act : Pipe → Pipe)
    (matters : Pipe → Bool) : (l.feed act matters).1.forwarding = l.forwarding := by
  unfold feed
  split <;> rfl

namespace Phase

/-- What is posted does not concern the stage of the session. -/
theorem post {m : Machine MeteredLink} {queue : Mailbox (Event MeteredLink)}
    (h : Phase ts items m shake queue c) (idle : event.isIdle = true) :
    Phase ts items m shake (queue.send event) c := by
  cases h with
  | waiting stage shaking unheard passing =>
      exact .waiting stage shaking unheard (passing.post idle)
  | connected stage given passing => exact .connected stage given (passing.post idle)
  | opened stage taken link passing => exact .opened stage taken link (passing.post idle)
  | closed stage taken deaf met final failure opened =>
      exact .closed stage taken deaf met final failure opened

theorem answers_send (h : Phase ts items r.task.machine r.task.handshake r.task.queue c)
    (sound : r.task.machine.Sound) : r.answers.send = none := by
  cases h with
  | opened _ _ link => simp [Ensemble.answers, link, LiveSession.link]
  | waiting stage | connected stage | closed stage =>
      simp [Ensemble.answers, sound.link_eq_none (by simp [stage])]

/-- An event that does not concern the stage of the session, or a message to an open session, leaves
it in its phase. -/
theorem taking_harmless (h : Phase ts items r.task.machine r.task.handshake r.task.queue c)
    (past : Machine.History ⟨channel, key, .watch⟩ settings observers ts r.task.machine)
    (oldest : r.task.oldest? = some event) (awaited : r.task.result? = none)
    (calm : ∀ activity, ∀ event ∈ r.echo activity, event.isIdle = true)
    (now : Ensemble.Taking r event r.task.queue.items.tail r.task.handshake next)
    (harmless : event.isIdle = true ∨
      r.task.machine.state = .opened ∧ ∃ frame, event = .message frame) :
    Phase (ts ++ [r.task.machine.turn event r.answers]) items next.task.machine
        next.task.handshake next.task.queue (c.heed (r.task.machine.handle r.answers event).2) ∧
      (c.heed (r.task.machine.handle r.answers event).2).reading = c.reading := by
  have outcome := past.sound.handle_outcome r.answers event
  obtain ⟨stage', link', kept⟩ :=
    outcome.steady (h.answers_send past.sound) now.unclosed harmless
  rw [← now.machine] at stage' link'
  have goesOn (passing : Passing ts items r.task.queue c) :=
    passing.taking now (stage' ▸ now.unclosed) kept (by rw [SessionTask.items_eq_cons oldest])
      (fun _ => List.mem_of_mem_tail) calm
  cases h with
  | waiting stage shaking unheard passing =>
      obtain ⟨passing', same⟩ := goesOn passing
      refine ⟨.waiting (stage'.trans stage) ?_ unheard passing', same⟩
      rw [now.handshake, stage', stage, if_neg (by simp), shaking]
  | connected stage given =>
      -- the result of the handshake would have been taken
      simp [SessionTask.result?, stage, given] at awaited
  | opened stage shaken link passing =>
      obtain ⟨passing', same⟩ := goesOn passing
      refine ⟨.opened (stage'.trans stage) ?_ (link'.trans link) passing', same⟩
      rw [now.handshake, shaken, if_neg (by simp [Handshake.isOpen])]
  | closed stage => exact absurd stage now.unclosed

/-- The last that the connection reports closes an open session. -/
theorem taking_last
    (past : Machine.History ⟨channel, key, .watch⟩ settings observers ts r.task.machine)
    (hearing : Hearing items c.reading) (stage : r.task.machine.state = .opened)
    (shaken : r.task.handshake = .taken) (link : r.task.machine.link = some LiveSession.link)
    (passing : Passing ts items r.task.queue c) (oldest : r.task.oldest? = some event)
    (now : Ensemble.Taking r event r.task.queue.items.tail r.task.handshake next)
    (isNews : event.isNews = true) (ending : ∀ frame, event ≠ .message frame) :
    Phase (ts ++ [r.task.machine.turn event r.answers]) items next.task.machine
        next.task.handshake next.task.queue (c.heed (r.task.machine.handle r.answers event).2) ∧
      (c.heed (r.task.machine.handle r.answers event).2).reading = c.reading := by
  have first : news r.task.queue.items = event :: news r.task.queue.items.tail := by
    conv_lhs => rw [← SessionTask.items_eq_cons oldest]
    exact List.filter_cons_of_pos isNews
  have passed := passing.passed
  rw [first] at passed
  obtain ⟨deaf, nothing, last, final, kind⟩ := hearing.final passed ending
  obtain ⟨stage', failure⟩ := (past.sound.handle_outcome r.answers event).ends stage kind
  rw [← now.machine] at stage' failure
  -- the link is closed now, so its law is gone and the connection is only known to be deaf
  have deaf' := Connection.reading_heed deaf (r.task.machine.handle r.answers event).2
  refine ⟨.closed stage' ?_ deaf' ?_ final failure ?_, deaf'.trans deaf.symm⟩
  · rw [now.handshake, shaken, if_neg (by simp [Handshake.isOpen])]
  · have met : news [event] = [event] := List.filter_cons_of_pos isNews
    rw [List.map_append, news_append, ← passed, nothing]
    exact congrArg _ met
  · rw [List.filterMap_append, past.sent_links.2.1 _ link]
    simp

theorem taking_result (h : Phase ts items r.task.machine r.task.handshake r.task.queue c)
    (past : Machine.History ⟨channel, key, .watch⟩ settings observers ts r.task.machine)
    (result : r.task.result? = some event)
    (calm : ∀ activity, ∀ event ∈ r.echo activity, event.isIdle = true)
    (now : Ensemble.Taking r event r.task.queue.items .taken next) :
    event.isNews = false ∧
      Phase (ts ++ [r.task.machine.turn event r.answers]) items next.task.machine
        next.task.handshake next.task.queue (c.heed (r.task.machine.handle r.answers event).2) ∧
      (c.heed (r.task.machine.handle r.answers event).2).reading = c.reading := by
  cases h with
  | connected stage given passing =>
      obtain rfl : Event.opened LiveSession.link = event := by
        simpa [SessionTask.result?, stage, given, SessionTask.outcome] using result
      have watches : r.task.machine.id.role = .watch := by rw [past.unchanged.1]
      obtain ⟨stage', link', kept⟩ :=
        (past.sound.handle_outcome r.answers (.opened LiveSession.link)).opens watches stage
      rw [← now.machine] at stage' link'
      obtain ⟨passing', same⟩ := passing.taking now (by simp [stage']) kept rfl (fun _ => id) calm
      refine ⟨rfl, .opened stage' ?_ link' passing', same⟩
      rw [now.handshake, if_neg (by simp [Handshake.isOpen])]
  | waiting stage shaken | opened stage shaken | closed stage shaken =>
      simp [SessionTask.result?, stage, shaken] at result

/-- **The session goes through its phases** when it takes an event; what its connection reports it
meets when it is open. -/
theorem taking (h : Phase ts items r.task.machine r.task.handshake r.task.queue c)
    (past : Machine.History ⟨channel, key, .watch⟩ settings observers ts r.task.machine)
    (hearing : Hearing items c.reading)
    (calm : ∀ activity, ∀ event ∈ r.echo activity, event.isIdle = true)
    (taken : r.taken? (.move .take) = some event) :
    (event.isNews = true → r.task.machine.state = .opened) ∧
      Phase (ts ++ [r.task.machine.turn event r.answers]) items
        (r.undergo (.move .take)).task.machine (r.undergo (.move .take)).task.handshake
        (r.undergo (.move .take)).task.queue
        (c.heed (r.task.machine.handle r.answers event).2) ∧
      (c.heed (r.task.machine.handle r.answers event).2).reading = c.reading := by
  rcases Ensemble.taking taken with ⟨⟨oldest, awaited⟩, now⟩ | ⟨result, now⟩
  · have among : event ∈ r.task.queue.items :=
      SessionTask.items_eq_cons oldest ▸ List.mem_cons_self
    have harmless := h.taking_harmless past oldest (awaited rfl) calm now
    cases h with
    | waiting _ _ unheard passing =>
        have idle := (unheard ▸ passing).isIdle_of_unheard among
        exact ⟨by simp [Event.isNews_of_isIdle idle], harmless (.inl idle)⟩
    | connected stage given => simp [SessionTask.result?, stage, given] at awaited
    | opened stage shaken link passing =>
        refine ⟨fun _ => stage, ?_⟩
        by_cases steady : event.isIdle = true ∨ ∃ frame, event = .message frame
        · exact harmless (steady.imp_right fun message => ⟨stage, message⟩)
        · obtain ⟨demanding, ending⟩ := not_or.mp steady
          exact taking_last past hearing stage shaken link passing oldest now
            ((passing.undemanding event among).resolve_right demanding) (not_exists.mp ending)
    | closed stage => exact absurd stage now.unclosed
  · obtain ⟨unreported, goesOn⟩ := h.taking_result past result calm now
    exact ⟨by simp [unreported], goesOn⟩

end Phase

end

end Livecast
