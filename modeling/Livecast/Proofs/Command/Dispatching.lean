import Livecast.Proofs.Command.Happening
import Livecast.Proofs.WebSocket.Writing

/-!
# What becomes of frames that are handed over

A frame that a link accepts is handed to the writing task, and nobody waits for this task: neither
the session, which ends when it has handed over the wish to close, nor the command, which ends when
its session has.  Nothing is lost as long as the writing task goes on, but a command can end before
anything has been written.

## Main Definitions

* `dispatches` - what a log hands to the writing task
* `Machine.Handing` - what one event can hand over
* `Flowing` - what has been written, and what is on its way
* `Linked` - what is true of a session and its link once something has been handed over
* `Dispatching` - what is true of a whole session at every moment
* `Dispatched` - the law of the link

## Main Statements

* `Machine.Outcome.handing` - what one event hands over
* `Flowing.write` - the writing task writes what was handed over, in order
* `Dispatching.undergo` - every happening keeps the law
* `LiveSession.run_dispatched` - every run obeys the law
* `LiveSession.lost_at_exit` - a command can end before anything has been written
-/

namespace Livecast

variable {L : Type}

/-- The network refuses a frame. -/
def Happening.isRefusal : Happening → Bool
  | .transmit (some _) => true
  | _ => false

/-! ## What a log hands over -/

/-- What a call hands to the writing task. -/
def Call.dispatch? : Call L → Option Dispatch
  | .sent _ frame => some (.frame frame)
  | .linkClosed _ => some .close
  | _ => none

/-- What a log hands to the writing task, in order. -/
def dispatches (log : List (Call L)) : List Dispatch := log.filterMap Call.dispatch?

@[simp] theorem dispatches_nil : dispatches ([] : List (Call L)) = [] := rfl

@[simp] theorem dispatches_cons (c : Call L) (log : List (Call L)) :
    dispatches (c :: log) = c.dispatch?.toList ++ dispatches log :=
  filterMap_cons_toList Call.dispatch? c log

@[simp] theorem dispatches_append (log more : List (Call L)) :
    dispatches (log ++ more) = dispatches log ++ dispatches more :=
  List.filterMap_append

/-- The frame that a call sends, if it is accepted. -/
def Call.accepted? : Call L → Option Frame
  | .sent _ frame => some frame
  | _ => none

/-- The frames that were accepted, in order. -/
def acceptedFrames (log : List (Call L)) : List Frame := log.filterMap Call.accepted?

/-- The frame that is handed over, if it is not the wish to close the stream. -/
def Dispatch.frame? : Dispatch → Option Frame
  | .frame f => some f
  | .close => none

theorem acceptedFrames_eq (log : List (Call L)) :
    acceptedFrames log = (dispatches log).filterMap Dispatch.frame? := by
  rw [dispatches, List.filterMap_filterMap]
  exact congrArg (log.filterMap ·) (funext fun c => by cases c <;> rfl)

/-- What is handed over reaches the connection. -/
def Connection.dispatch (c : Connection) : Dispatch → Connection
  | .frame f => c.send f
  | .close => c.drop

theorem Connection.send_of_accepts {c : Connection} (h : c.outbound.accepts = true) (f : Frame) :
    c.send f =
      { c with outbound := { c.outbound with items := c.outbound.items ++ [.frame f] } } := by
  rw [send, Mailbox.send_of_accepts h]

theorem Connection.drop_of_held {c : Connection} (h : c.held = true) :
    c.drop = { c with outbound := (c.outbound.send .close).dropSender,
                      held := false, reading := false } := by
  rw [drop, close, if_pos h]

theorem Connection.heed_eq (c : Connection) (calls : List (Call MeteredLink)) :
    c.heed calls = (dispatches calls).foldl dispatch c := by
  induction calls generalizing c with
  | nil => rfl
  | cons call rest ih =>
      rw [heed_cons, ih, dispatches_cons]
      cases call <;> rfl

namespace Machine

variable {m next : Machine L} {a : Answers} {r : Response L} {calls : List (Call L)}

@[simp] theorem dispatches_announce (m : Machine L) (n : Notice) : dispatches (m.announce n) = [] :=
  m.filterMap_announce_eq_nil n fun _ => by cases n <;> rfl

@[simp] theorem dispatches_startup (m : Machine L) : dispatches m.startup = [] :=
  m.filterMap_startup_eq_nil rfl

@[simp] theorem dispatches_teardown (m : Machine L) :
    dispatches m.teardown = m.link.toList.map fun _ => .close := by
  have announced := m.dispatches_announce .closed
  rw [dispatches] at announced
  rw [dispatches, filterMap_teardown, announced]
  cases m.link <;> simp [Call.dispatch?]

/-- **What one event hands over.** -/
inductive Handing (m : Machine L) (a : Answers) (next : Machine L) : List Dispatch → Prop where
  /-- Nothing. -/
  | nothing (stays : m.state = .opened → next.state ≠ .closed)
      (link : m.state ≠ .connecting → next.link = m.link) : Handing m a next []
  /-- A frame. -/
  | frame {link : L} {f : Frame} (stage : m.state = .opened) (link : m.link = some link)
      (willing : a.send = none) (stays : next = m) : Handing m a next [.frame f]
  /-- The wish to close the stream. -/
  | close (closed : next.state = .closed) : Handing m a next [.close]

theorem Outcome.handing (h : Outcome m a r next calls) (sound : m.Sound)
    (unclosed : m.state ≠ .closed) (undelivered : m.state = .connecting ∨ r.link? = none) :
    Handing m a next (dispatches calls) := by
  -- what closes an open session closes its link
  have closing (closed : next.state = .closed) :
      Handing m a next (m.link.toList.map fun _ => .close) := by
    by_cases stage : m.state = .opened
    · obtain ⟨link, hlink⟩ := sound.exists_link stage
      rw [hlink]
      exact .close closed
    · have connecting : m.state = .connecting := by cases s : m.state <;> simp_all
      rw [sound.link_eq_none stage]
      exact .nothing (fun opened => absurd opened stage) fun other => absurd connecting other
  have steady (state : next.state = m.state) (link : next.link = m.link) :
      Handing m a next [] :=
    .nothing (fun opened closed => by simp [← state, closed] at opened) fun _ => link
  cases h with
  | established stage =>
      simpa using .nothing (fun opened => by simp [stage] at opened) fun other => absurd stage other
  | startRefused => simpa [Call.dispatch?] using .close rfl
  | failed | closed | refused => simpa [Call.dispatch?] using closing rfl
  | sent stage link willing => simpa [Call.dispatch?] using .frame stage link willing rfl
  | discarded other => simp [other, Response.link?] at undelivered
  | received | recorded => simpa [Call.dispatch?] using steady rfl rfl
  | warned => simpa using steady rfl rfl
  | _ => exact steady rfl rfl

/-- A session has no connection but the one that it had and the one that an event delivers. -/
theorem Outcome.link_eq (h : Outcome m a r next calls) {link : L} (owned : next.link = some link) :
    m.link = some link ∨ r.link? = some link := by
  cases h with
  | established => exact .inr owned
  | startRefused | failed | closed | refused => simp at owned
  | _ => exact .inl owned

/-- The end of the input closes an open session and its link, and nothing has failed. -/
theorem Outcome.handing_deviceEnded
    (h : Outcome m a (response m.state (.deviceEnded : Event L)) next calls) (sound : m.Sound)
    (stage : m.state = .opened) :
    next.state = .closed ∧ next.failure = none ∧ .close ∈ dispatches calls := by
  obtain ⟨link, hlink⟩ := sound.exists_link stage
  rw [stage] at h
  cases h
  exact ⟨rfl, rfl, by simp [hlink]⟩

end Machine

/-! ## Between the link and the writing task -/

/-- **What has been written, and what is on its way**, of all that was handed over. -/
inductive Flowing (refused : Prop) (dispatched : List Dispatch) (c : Connection) : Prop where
  /-- The writing task works. -/
  | working (listens : c.outbound.receiving = true)
      (conserved : c.written ++ c.outbound.items = dispatched)
  /-- It has written everything, and has ended. -/
  | finished (parted : c.held = false) (ended : c.outbound.receiving = false)
      (empty : c.outbound.items = []) (conserved : c.written = dispatched)
  /-- It has ended because something was refused. -/
  | broken (because : refused) (ended : c.outbound.receiving = false)
      (order : c.written <+: dispatched)

theorem Connection.write?_keeps {c next : Connection} {reason? : Option String}
    {events : List (Event L)} (step : c.write? reason? = some (next, events)) :
    next.held = c.held ∧ next.outbound.sending = c.outbound.sending ∧
      ∀ event ∈ events, event.link? = none := by
  cases write?_eq_some_iff.mp step <;> exact ⟨rfl, rfl, by simp [Event.link?]⟩

namespace Flowing

variable {refused refused' : Prop} {dispatched : List Dispatch} {c next : Connection}

theorem mono (h : Flowing refused dispatched c) (more : refused → refused') :
    Flowing refused' dispatched c := by
  cases h with
  | working listens conserved => exact .working listens conserved
  | finished parted ended empty conserved => exact .finished parted ended empty conserved
  | broken because ended order => exact .broken (more because) ended order

theorem agrees (h : Flowing refused dispatched c) (same : next.Agrees c) :
    Flowing refused dispatched next := by
  obtain ⟨outbound, held, written⟩ := same
  cases h with
  | working listens conserved =>
      exact .working (outbound ▸ listens) (by rw [outbound, written, conserved])
  | finished parted ended empty conserved =>
      exact .finished (held.trans parted) (outbound ▸ ended) (outbound ▸ empty)
        (written.trans conserved)
  | broken because ended order => exact .broken because (outbound ▸ ended) (written ▸ order)

theorem in_order (h : Flowing refused dispatched c) : c.written <+: dispatched := by
  cases h with
  | working _ conserved => exact ⟨_, conserved⟩
  | finished _ _ _ conserved => exact conserved ▸ List.prefix_rfl
  | broken _ _ order => exact order

theorem conserved (h : Flowing refused dispatched c) (smooth : ¬refused) :
    c.written ++ c.outbound.items = dispatched := by
  cases h with
  | working _ conserved => exact conserved
  | finished _ _ empty conserved => rw [empty, List.append_nil, conserved]
  | broken because => exact absurd because smooth

theorem written_eq_of_ended (h : Flowing refused dispatched c) (smooth : ¬refused)
    (ended : c.isWriting = false) : c.written = dispatched := by
  cases h with
  | working listens => simp [Connection.isWriting, listens] at ended
  | finished _ _ _ conserved => exact conserved
  | broken because => exact absurd because smooth

/-- A frame is handed over to a writing task that works. -/
theorem send (h : Flowing refused dispatched c) (accepts : c.outbound.accepts = true) (f : Frame) :
    Flowing refused (dispatched ++ [.frame f]) (c.send f) := by
  obtain ⟨-, listens⟩ := Bool.and_eq_true_iff.mp accepts
  rw [Connection.send_of_accepts accepts]
  cases h with
  | working _ conserved => exact .working listens (by simp [← conserved])
  | finished _ ended | broken _ ended => simp [ended] at listens

/-- The wish to close the stream comes behind everything that was handed over before. -/
theorem drop (h : Flowing refused dispatched c) (held : c.held = true)
    (sending : c.outbound.sending = true) : Flowing refused (dispatched ++ [.close]) c.drop := by
  rw [Connection.drop_of_held held]
  cases h with
  | working listens conserved =>
      rw [Mailbox.send_of_accepts (Bool.and_eq_true_iff.mpr ⟨sending, listens⟩)]
      exact .working listens (by simp [Mailbox.dropSender, ← conserved])
  | finished parted => simp [held] at parted
  | broken because ended order =>
      have refuses : c.outbound.send .close = c.outbound :=
        if_neg (by simp [Mailbox.accepts, ended])
      rw [refuses]
      exact .broken because ended (order.trans (List.prefix_append _ _))

/-- **The writing task writes what was handed over, in order.** -/
theorem write {events : List (Event L)} {reason? : Option String}
    (h : Flowing refused dispatched c) (step : c.write? reason? = some (next, events))
    (sending : c.outbound.sending = c.held)
    (last : ∀ rest, c.written ++ .close :: rest = dispatched → c.held = false ∧ rest = []) :
    Flowing (refused ∨ reason?.isSome) dispatched next := by
  cases h with
  | finished _ ended | broken _ ended => simp [Connection.write?_of_ended ended] at step
  | working listens conserved =>
      cases Connection.write?_eq_some_iff.mp step with
      | ends _ empty gone =>
          rw [empty, List.append_nil] at conserved
          exact .finished (sending.symm.trans gone) rfl rfl conserved
      | closes _ front =>
          rw [front] at conserved
          -- the task leaves behind what comes after this, which is why it has to be the last
          obtain ⟨parted, rfl⟩ := last _ conserved
          exact .finished parted rfl rfl conserved
      | writes _ front =>
          rw [front] at conserved
          exact .working listens (by simpa using conserved)
      | fails _ front => exact .broken (.inr rfl) rfl ⟨_, conserved⟩

end Flowing

/-! ## The session and its link -/

/-- **What is true of a session and its link** once the session has handed over `dispatched`. -/
structure Linked (refused : Prop) (m : Machine MeteredLink) (dispatched : List Dispatch)
    (c : Connection) : Prop where
  /-- Nothing is handed over before the session is open. -/
  early : m.state = .connecting → dispatched = []
  /-- The link is closed with the session. -/
  held : m.state ≠ .closed → c.held = true
  /-- A link that has been closed is given up. -/
  sending : c.outbound.sending = c.held
  /-- The session accepts every frame on its link, or none. -/
  limit : ∀ link, m.link = some link → link.limit = none ∨ link.limit = some 0
  /-- As long as it accepts frames the writing task works. -/
  willing : m.state ≠ .closed → (∀ link, m.link = some link → link.limit = none) →
    c.outbound.receiving = true
  /-- The wish to close the stream is handed over with the link, behind all frames. -/
  parts : ∃ frames : List Frame,
    dispatched = frames.map .frame ++ if c.held then [] else [.close]
  /-- What was handed over has been written or is on its way. -/
  flow : Flowing refused dispatched c

namespace Linked

variable {refused : Prop} {m next : Machine MeteredLink} {a : Answers}
  {dispatched more : List Dispatch} {c : Connection}

theorem agrees (h : Linked refused m dispatched c) {other : Connection} (same : other.Agrees c) :
    Linked refused m dispatched other where
  early := h.early
  held unclosed := same.held.trans (h.held unclosed)
  sending := by rw [same.outbound, same.held, h.sending]
  limit := h.limit
  willing unclosed open' := by rw [same.outbound, h.willing unclosed open']
  parts := by rw [same.held]; exact h.parts
  flow := h.flow.agrees same

/-- **What the session hands over in one event.** -/
theorem handing (h : Linked refused m dispatched c) (sound : m.Sound) (unclosed : m.state ≠ .closed)
    (handing : Machine.Handing m a next more)
    (answered : a.send = none → ∀ link, m.link = some link → link.limit = none)
    (young : next.state = .connecting → m.state = .connecting)
    (limit : ∀ link, next.link = some link → link.limit = none ∨ link.limit = some 0) :
    Linked refused next (dispatched ++ more) (more.foldl Connection.dispatch c) := by
  have held := h.held unclosed
  have sending := h.sending.trans held
  obtain ⟨frames, parts⟩ := h.parts
  rw [held, if_pos rfl, List.append_nil] at parts
  cases handing with
  | nothing stays link =>
      -- a connecting session may receive a link here, which is as willing as the fresh connection
      rw [List.append_nil]
      refine { h with
        early := fun connecting => h.early (young connecting)
        held := fun _ => held
        limit := limit
        willing := fun _ open' => h.willing unclosed fun l owned => ?_ }
      by_cases connecting : m.state = .connecting
      · simp [sound.link_eq_none (by simp [connecting])] at owned
      · exact open' l ((link connecting).trans owned)
  | @frame link f stage owned willing stays =>
      subst stays
      have listens := h.willing unclosed (answered willing)
      have accepts : c.outbound.accepts = true := Bool.and_eq_true_iff.mpr ⟨sending, listens⟩
      have flow := h.flow.send accepts f
      simp only [List.foldl_cons, List.foldl_nil, Connection.dispatch]
      rw [Connection.send_of_accepts accepts] at flow ⊢
      exact { h with
        early := fun connecting => by simp [stage] at connecting
        parts := ⟨frames ++ [f], by simp [parts, held]⟩
        flow := flow }
  | close closed =>
      have flow := h.flow.drop held sending
      simp only [List.foldl_cons, List.foldl_nil, Connection.dispatch]
      refine ⟨?_, ?_, ?_, limit, ?_, ⟨frames, ?_⟩, flow⟩
      · simp [closed]
      · simp [closed]
      · rw [Connection.drop_of_held held]
        rfl
      · simp [closed]
      · rw [Connection.drop_of_held held, parts]
        rfl

/-- A link that has been closed was closed behind all frames. -/
theorem eq_of_close (h : Linked refused m dispatched c) (closed : .close ∈ dispatched) :
    dispatched = (dispatched.filterMap Dispatch.frame?).map .frame ++ [.close] := by
  obtain ⟨frames, parts⟩ := h.parts
  cases held : c.held with
  | true =>
      rw [parts, held] at closed
      simp at closed
  | false =>
      rw [held] at parts
      have same : dispatched.filterMap Dispatch.frame? = frames := by
        rw [parts, List.filterMap_append, List.filterMap_map]
        exact (List.append_nil _).trans List.filterMap_some
      rw [same]
      exact parts

/-- **What the writing task does.**  It has nothing to do before the session is open. -/
theorem write {events : List (Event L)} {reason? : Option String} {after : Connection}
    (h : Linked refused m dispatched c) (step : c.write? reason? = some (after, events)) :
    m.state ≠ .connecting ∧ Flowing (refused ∨ reason?.isSome) dispatched after := by
  constructor
  · intro connecting
    have held := h.held (by simp [connecting])
    have nothing := h.early connecting
    -- with nothing handed over and the link still held, the writing task could only wait
    cases h.flow with
    | working _ conserved =>
        have items := (List.append_eq_nil_iff.mp (conserved.trans nothing)).2
        simp [Connection.write?, items, h.sending, held] at step
    | finished _ ended | broken _ ended =>
        simp [Connection.write?, Connection.isWriting, ended] at step
  · refine h.flow.write step h.sending fun rest closing => ?_
    obtain ⟨frames, parts⟩ := h.parts
    have unframed : Dispatch.close ∉ frames.map .frame := by simp
    cases held : c.held with
    | true =>
        rw [parts, held, if_pos rfl, List.append_nil] at closing
        exact absurd (closing ▸ by simp) unframed
    | false =>
        rw [parts, held] at closing
        exact ⟨rfl, eq_nil_of_concat_eq unframed closing.symm⟩

/-- **The session hears at once that its link refuses frames.** -/
theorem report {e : Ensemble} {refused' : Prop} {after : Connection}
    (h : Linked refused e.task.machine dispatched c) (sound : e.task.machine.Sound)
    (held : after.held = c.held) (sending : after.outbound.sending = c.outbound.sending)
    (young : e.task.machine.state = .connecting →
      after.outbound.receiving = c.outbound.receiving)
    (flow : Flowing refused' dispatched after) :
    Linked refused' ((after.refusal.map e.cutOff).getD e).task.machine dispatched after := by
  have parts : ∃ frames : List Frame,
      dispatched = frames.map .frame ++ if after.held then [] else [.close] := held ▸ h.parts
  cases refusal : after.refusal with
  | none =>
      have accepts : after.outbound.accepts = true := by
        unfold Connection.refusal at refusal
        split at refusal
        · assumption
        · simp at refusal
      exact { h with
        held := fun unclosed => held.trans (h.held unclosed)
        sending := by rw [sending, held, h.sending]
        willing := fun _ _ => (Bool.and_eq_true_iff.mp accepts).2
        parts := parts
        flow := flow }
  | some reason =>
      refine ⟨h.early, fun unclosed => held.trans (h.held unclosed),
        by rw [sending, held, h.sending], ?_, fun unclosed open' => ?_, parts, flow⟩
      · intro link owned
        obtain ⟨before, -, rfl⟩ := Option.map_eq_some_iff.mp owned
        exact .inr rfl
      · -- a session without a link is connecting, and one with a link has been cut off from it
        cases owned : e.task.machine.link with
        | none =>
            have connecting : e.task.machine.state = .connecting := by
              have unopened : e.task.machine.state ≠ .opened := fun stage => by
                simpa [owned] using sound.link.mpr stage
              cases stage : e.task.machine.state <;> simp_all [Ensemble.cutOff]
            rw [young connecting]
            exact h.willing unclosed (by simp [owned])
        | some link =>
            have cut := open' { link with limit := some 0, refusal := reason }
              (by simp [Ensemble.cutOff, owned])
            simp at cut

end Linked

/-! ## The law of a session and its link -/

/-- What a session has handed to its writing task. -/
def LiveSession.dispatched (l : LiveSession) : List Dispatch :=
  dispatches (l.ensemble.log.filterMap Activity.call?)

/-- **What is true of a session at every moment**, after the turns `ts`. -/
structure Dispatching (refused : Prop) (ts : List (Turn MeteredLink)) (l : LiveSession) : Prop where
  /-- The session owns what belongs to its stage. -/
  sound : l.ensemble.task.machine.Sound
  /-- Its observers have wishes. -/
  observed : ∃ observers : List (Option Wishes),
    l.ensemble.observers = observers.map (Option.map Wishes.reactions)
  /-- Nobody posts connections. -/
  undelivered : l.ensemble.task.machine.state ≠ .closed →
    ∀ event ∈ l.ensemble.task.queue.items, event.link? = none
  /-- The handshake gives the link. -/
  given : ∀ link, l.ensemble.task.handshake = .ready (.ok link) → link = LiveSession.link
  /-- The link is treated as it should be. -/
  linked : Linked refused l.ensemble.task.machine l.dispatched l.connection
  /-- A session whose input has ended has closed its link, and nothing has failed. -/
  complete : (∃ t ∈ ts, t.before = .opened ∧ t.event = .deviceEnded) →
    l.ensemble.task.machine.state = .closed ∧ l.ensemble.task.machine.failure = none ∧
      .close ∈ l.dispatched

namespace Dispatching

variable {refused : Prop} {ts : List (Turn MeteredLink)} {l next : LiveSession}
  {event : Event MeteredLink}

/-- The event that the session takes delivers the link while it is connecting, and nothing
afterwards. -/
theorem exists_taking (h : Dispatching refused ts l)
    (taken : l.ensemble.taken? (.move .take) = some event) :
    ∃ rest shake, Ensemble.Taking l.ensemble event rest shake
        (l.ensemble.undergo (.move .take)) ∧
      rest ⊆ l.ensemble.task.queue.items ∧
      (∀ link, shake = .ready (.ok link) → link = LiveSession.link) ∧
      (l.ensemble.task.machine.state = .connecting ∨ event.link? = none) ∧
      ∀ link, event.link? = some link → link = LiveSession.link := by
  rcases Ensemble.taking taken with ⟨⟨oldest, -⟩, now⟩ | ⟨result, now⟩
  · have posted : event.link? = none :=
      h.undelivered now.unclosed event (SessionTask.items_eq_cons oldest ▸ List.mem_cons_self)
    exact ⟨_, _, now, fun _ => List.mem_of_mem_tail, h.given, .inr posted, by simp [posted]⟩
  · refine ⟨_, _, now, fun _ => id, by simp, ?_⟩
    unfold SessionTask.result? at result
    split at result
    · next result' connecting ready =>
        obtain rfl := Option.some.inj result
        refine ⟨.inl connecting, fun link delivers => ?_⟩
        cases result' with
        | ok given =>
            obtain rfl := Option.some.inj delivers
            exact h.given _ ready
        | error => simp [SessionTask.outcome, Event.link?] at delivers
    · simp at result

theorem undelivered_sendAll {queue : Mailbox (Event MeteredLink)}
    {more : List (Event MeteredLink)} (h : ∀ event ∈ queue.items, event.link? = none)
    (harmless : ∀ event ∈ more, event.link? = none) :
    ∀ event ∈ (queue.sendAll more).items, event.link? = none := by
  rw [Mailbox.sendAll_eq]
  split
  · intro event among
    rcases List.mem_append.mp among with among | among
    · exact h event among
    · exact harmless event among
  · exact h

theorem link?_wish (w : Wish) : (w.event : Event MeteredLink).link? = none := by
  cases w <;> rfl

theorem link?_echo (h : Dispatching refused ts l) (activity : Activity MeteredLink) :
    ∀ event ∈ l.ensemble.echo activity, event.link? = none := by
  obtain ⟨observers, wishes⟩ := h.observed
  obtain ⟨asked, said, -⟩ := Ensemble.echo_wishes wishes activity
  rw [said]
  intro event among
  obtain ⟨w, -, rfl⟩ := List.mem_map.mp among
  exact link?_wish w

/-- A session that is sure of its link is on one that accepts every frame. -/
theorem limit_eq_none (h : Dispatching refused ts l) (willing : l.ensemble.answers.send = none)
    {link : MeteredLink} (owned : l.ensemble.task.machine.link = some link) :
    link.limit = none := by
  refine (h.linked.limit link owned).resolve_right fun cut => ?_
  simp [Ensemble.answers, owned, cut] at willing

/-- **The session takes an event**, and hands over what it sends. -/
theorem take (h : Dispatching refused ts l)
    (taken : l.ensemble.taken? (.move .take) = some event)
    (ensemble : next.ensemble = l.ensemble.undergo (.move .take))
    (connection : next.connection =
      l.connection.heed (l.ensemble.task.machine.handle l.ensemble.answers event).2) :
    Dispatching refused (ts ++ [l.ensemble.task.machine.turn event l.ensemble.answers]) next := by
  obtain ⟨rest, shake, now, fewer, given, undelivered, delivered⟩ := h.exists_taking taken
  have outcome := h.sound.handle_outcome l.ensemble.answers event
  have delivers := response_link l.ensemble.task.machine.state event
  rw [← ensemble] at now
  have dispatched : next.dispatched = l.dispatched ++
      dispatches (l.ensemble.task.machine.handle l.ensemble.answers event).2 := by
    rw [LiveSession.dispatched, now.calls, dispatches_append]
    rfl
  refine ⟨?_, ?_, fun unclosed => ?_, fun link ready => ?_, ?_, ?_⟩
  · rw [now.machine]
    exact outcome.sound h.sound
  · rw [now.observers.1]
    exact h.observed
  · rw [now.queue unclosed]
    refine undelivered_sendAll (fun event among => h.undelivered now.unclosed _ (fewer among))
      fun event among => ?_
    obtain ⟨call, -, echoed⟩ := List.mem_flatMap.mp among
    exact h.link?_echo _ event echoed
  · rw [now.handshake] at ready
    split at ready
    · simp at ready
    · exact given link ready
  · rw [now.machine, dispatched, connection, Connection.heed_eq]
    refine h.linked.handing h.sound now.unclosed
      (outcome.handing h.sound now.unclosed (delivers ▸ undelivered))
      (fun willing _ owned => h.limit_eq_none willing owned) outcome.stage_connecting
      fun link owned => ?_
    rcases outcome.link_eq owned with before | delivery
    · exact h.linked.limit link before
    · exact .inl (delivered link (delivers ▸ delivery) ▸ rfl)
  · rintro ⟨t, ht, before, ended⟩
    rcases List.mem_append.mp ht with ht | ht
    · exact absurd (h.complete ⟨t, ht, before, ended⟩).1 now.unclosed
    · obtain rfl := List.mem_singleton.mp ht
      obtain rfl : event = .deviceEnded := ended
      obtain ⟨closed, faultless, parted⟩ := outcome.handing_deviceEnded h.sound before
      rw [now.machine, dispatched]
      exact ⟨closed, faultless, List.mem_append_right _ parted⟩

/-- What has been shown or logged for the user does not matter. -/
theorem congr (h : Dispatching refused ts l) {other : LiveSession}
    (ensemble : other.ensemble = l.ensemble) (connection : other.connection = l.connection) :
    Dispatching refused ts other := by
  obtain ⟨setup, _, _, log⟩ := other
  subst ensemble connection
  exact { h with }

theorem mono (h : Dispatching refused ts l) {refused' : Prop} (more : refused → refused') :
    Dispatching refused' ts l :=
  { h with linked := { h.linked with flow := h.linked.flow.mono more } }

/-- What is posted delivers no connection. -/
theorem post (h : Dispatching refused ts l) {more : List (Event MeteredLink)}
    (harmless : ∀ event ∈ more, event.link? = none) :
    Dispatching refused ts { l with ensemble := more.foldl Ensemble.post l.ensemble } := by
  rw [Ensemble.foldl_post]
  exact { h with
    undelivered := fun unclosed => undelivered_sendAll (h.undelivered unclosed) harmless }

/-- **What happens around the session** hands nothing over. -/
theorem aside (h : Dispatching refused ts l) {happening : Happening} {i : Incident}
    {next : Ensemble} (incident : happening.incident? = some i)
    (now : Ensemble.Aside l.ensemble i next) :
    Dispatching refused ts { l with ensemble := next } := by
  cases now with
  | waits => exact h
  | read | wrote | clock | cut | arrived | exhausted => exact { h with }
  | forwarded step =>
      obtain ⟨report, rfl⟩ := CaptureLine.queue_forward? step
      refine { h with
        undelivered := fun unclosed => undelivered_sendAll (h.undelivered unclosed) ?_ }
      rcases report with _ | (_ | _) | _ <;> simp [forward, Event.link?]
  | posted o =>
      have harmless : ∀ event ∈ [(o.event : Event MeteredLink)], event.link? = none := by
        rcases o with (_ | _ | _) | _ | _ | _ | _ <;>
          simp [Outside.event, Wish.event, Event.link?]
      exact h.post harmless
  | concluded pending =>
      obtain ⟨m, -, ⟨⟩⟩ | ⟨-, outer⟩ | ⟨result, rfl, ⟨⟩⟩ := Happening.incident?_cases incident
      · simp [Incident.isOuter] at outer
      · refine { h with given := fun link ready => ?_ }
        cases result with
        | ok => exact (Except.ok.inj (Handshake.ready.inj ready)).symm
        | error => simp [Except.map] at ready
  | cutOff =>
      obtain ⟨m, -, ⟨⟩⟩ | ⟨-, outer⟩ | ⟨result, -, ⟨⟩⟩ := Happening.incident?_cases incident
      simp [Incident.isOuter] at outer

/-- **What the tasks of the connection report** comes to the session. -/
theorem report (h : Dispatching refused ts l) {refused' : Prop} {c : Connection}
    {events : List (Event MeteredLink)} (harmless : ∀ event ∈ events, event.link? = none)
    (held : c.held = l.connection.held)
    (sending : c.outbound.sending = l.connection.outbound.sending)
    (young : l.ensemble.task.machine.state = .connecting →
      c.outbound.receiving = l.connection.outbound.receiving)
    (flow : Flowing refused' l.dispatched c) :
    Dispatching refused' ts (l.report (c, events)) := by
  obtain ⟨connection, ensemble⟩ := l.report_eq (c, events)
  have posted := h.post harmless
  have same : (events.foldl Ensemble.post l.ensemble).task.machine = l.ensemble.task.machine := by
    rw [Ensemble.foldl_post]
  have logged : (events.foldl Ensemble.post l.ensemble).log = l.ensemble.log := by
    rw [Ensemble.foldl_post]
  generalize events.foldl Ensemble.post l.ensemble = e at ensemble posted same logged
  have flow : Flowing refused' (dispatches (e.log.filterMap Activity.call?)) c := logged ▸ flow
  have linked := posted.linked.report posted.sound held sending (same ▸ young) flow
  cases refusal : c.refusal with
  | none =>
      have ensemble : (l.report (c, events)).ensemble = e := by rw [ensemble, refusal]; rfl
      rw [refusal] at linked
      have done : Dispatching refused' ts { l with ensemble := e, connection := c } :=
        { posted with linked := linked }
      exact done.congr ensemble connection
  | some reason =>
      have ensemble : (l.report (c, events)).ensemble = e.cutOff reason := by
        rw [ensemble, refusal]
        rfl
      rw [refusal] at linked
      have done : Dispatching refused' ts
          { l with ensemble := e.cutOff reason, connection := c } :=
        { posted with sound := Ensemble.sound_cutOff posted.sound reason, linked := linked }
      exact done.congr ensemble connection

theorem report_agrees (h : Dispatching refused ts l) {c : Connection}
    (same : c.Agrees l.connection) {events : List (Event MeteredLink)}
    (harmless : ∀ event ∈ events, event.link? = none) :
    Dispatching refused ts (l.report (c, events)) :=
  h.report harmless same.held (congrArg Mailbox.sending same.outbound)
    (fun _ => congrArg Mailbox.receiving same.outbound) (h.linked.flow.agrees same)

theorem link?_inbound (item : Inbound) :
    ∀ event ∈ (item.event? : Option (Event MeteredLink)).toList, event.link? = none := by
  rcases item with (_ | _ | _ | _ | _) | reason | _ <;> simp [Inbound.event?, Event.link?]

/-- **Every happening keeps the law.** -/
theorem undergo {past : List Happening}
    (h : Dispatching (∃ p ∈ past, p.isRefusal = true) ts l) (happening : Happening) :
    Dispatching (∃ p ∈ past ++ [happening], p.isRefusal = true)
      (ts ++ (l.turn? happening).toList) (l.undergo happening) := by
  have later : (∃ p ∈ past, p.isRefusal = true) →
      ∃ p ∈ past ++ [happening], p.isRefusal = true :=
    fun ⟨p, hp, refusal⟩ => ⟨p, List.mem_append_left _ hp, refusal⟩
  replace h := h.mono later
  generalize after : l.undergo happening = next
  cases after ▸ l.effect happening with
  | nothing quiet => simpa [quiet] using h
  | took taken ensemble connection =>
      simpa [LiveSession.turn?, Ensemble.turn?, taken] using h.take taken ensemble connection
  | aside quiet _ incident now connection =>
      have done : Dispatching _ ts next := (h.aside incident now).congr rfl connection
      simpa [quiet] using done
  | @arrived _ c quiet _ same =>
      have done : Dispatching _ ts { l with connection := c } :=
        { h with linked := h.linked.agrees same }
      simpa [quiet] using done
  | looked _ same =>
      simpa [LiveSession.turn?] using h.report_agrees same (by simp)
  | @received _ c item quiet _ same =>
      have done : Dispatching _ ts (l.report (c.take item)) :=
        h.report_agrees (Connection.agrees_take (L := MeteredLink) same item) (link?_inbound item)
      simpa [quiet] using done
  | @wrote refused c events step =>
      obtain ⟨open', flow⟩ := h.linked.write step
      obtain ⟨held, sending, harmless⟩ := Connection.write?_keeps step
      have same : (∃ p ∈ past ++ [.transmit refused], p.isRefusal = true) ∨ refused.isSome = true →
          ∃ p ∈ past ++ [.transmit refused], p.isRefusal = true := by
        rintro (before | now)
        · exact before
        · obtain ⟨reason, rfl⟩ := Option.isSome_iff_exists.mp now
          exact ⟨.transmit (some reason), by simp, rfl⟩
      have done := h.report harmless held sending (fun connecting => absurd connecting open')
        (flow.mono same)
      simpa [LiveSession.turn?] using done

theorem run {past : List Happening} (h : Dispatching (∃ p ∈ past, p.isRefusal = true) ts l)
    (hs : List Happening) :
    Dispatching (∃ p ∈ past ++ hs, p.isRefusal = true) (ts ++ l.turns hs) (l.run hs) := by
  induction hs generalizing past ts l with
  | nil => simpa [LiveSession.turns] using h
  | cons happening rest ih =>
      have more := ih (h.undergo happening)
      rw [LiveSession.turns, LiveSession.run_cons, ← List.append_assoc]
      simpa using more

/-- **A command whose input has ended succeeds.** -/
theorem succeeds (h : Dispatching refused ts l)
    (ended : ∃ t ∈ ts, t.before = .opened ∧ t.event = .deviceEnded) :
    ∃ ending, l.ending? = some ending ∧ ending.exit = 0 := by
  obtain ⟨closed, faultless, -⟩ := h.complete ended
  have report := (SessionTask.report?_eq_some l.ensemble.task _).mpr ⟨closed, rfl⟩
  rw [LiveSession.ending?, report, Option.map_some]
  simp [SessionSummary.fatality?, Machine.report, faultless, Ending.success]

/-- **A session whose input has ended has handed everything over**, and the wish to close the stream
behind it. -/
theorem handed (h : Dispatching refused ts l)
    (ended : ∃ t ∈ ts, t.before = .opened ∧ t.event = .deviceEnded) :
    l.dispatched =
      (acceptedFrames (l.ensemble.log.filterMap Activity.call?)).map .frame ++ [.close] := by
  rw [acceptedFrames_eq]
  exact h.linked.eq_of_close (h.complete ended).2.2

end Dispatching

theorem dispatching_startWith (setup : Setup) (observers : List (Option Wishes)) :
    Dispatching (∃ p ∈ ([] : List Happening), p.isRefusal = true) []
      (LiveSession.startWith setup observers) where
  sound := Machine.sound_fresh _ _ _
  observed := ⟨observers, rfl⟩
  undelivered := fun _ => nofun
  given := nofun
  linked := ⟨fun _ => rfl, fun _ => rfl, rfl, nofun, fun _ _ => rfl, ⟨[], rfl⟩, .working rfl rfl⟩
  complete := by simp

/-! ## The law of the link -/

/-- **The law of the link** of a session that did the turns `ts`, for its log, its connection and
the end of its command; `refused` if the network has refused a frame. -/
structure Dispatched (refused : Prop) (ts : List (Turn MeteredLink)) (log : List (Call MeteredLink))
    (c : Connection) (ending? : Option Ending) : Prop where
  /-- What has been written is the beginning of what was handed over. -/
  in_order : c.written <+: dispatches log
  /-- What was handed over has been written or waits to be written, unless something was
  refused. -/
  conserved : ¬refused → c.written ++ c.outbound.items = dispatches log
  /-- A command whose input has ended succeeds; all frames that were accepted have been handed over,
  and the wish to close the stream behind them. -/
  handed : (∃ t ∈ ts, t.before = .opened ∧ t.event = .deviceEnded) →
    (∃ ending, ending? = some ending ∧ ending.exit = 0) ∧
      dispatches log = (acceptedFrames log).map .frame ++ [.close]
  /-- They have been written once the writing task has ended, unless something was refused. -/
  drained : (∃ t ∈ ts, t.before = .opened ∧ t.event = .deviceEnded) → ¬refused →
    c.isWriting = false → c.written = (acceptedFrames log).map .frame ++ [.close]

/-- **Every run of every session obeys the law of the link**, whatever its observers and callers ask
for, whatever the network does, and in whichever order the tasks do their steps. -/
theorem LiveSession.run_dispatched (setup : Setup) (observers : List (Option Wishes))
    (hs : List Happening) :
    Dispatched (∃ p ∈ hs, p.isRefusal = true) ((startWith setup observers).turns hs)
      (((startWith setup observers).run hs).ensemble.log.filterMap Activity.call?)
      ((startWith setup observers).run hs).connection
      ((startWith setup observers).run hs).ending? := by
  have after := (dispatching_startWith setup observers).run hs
  rw [List.nil_append, List.nil_append] at after
  have flow := after.linked.flow
  refine ⟨flow.in_order, flow.conserved, fun ended => ⟨after.succeeds ended, after.handed ended⟩,
    fun ended smooth done => ?_⟩
  rw [← after.handed ended]
  exact flow.written_eq_of_ended smooth done

/-- **A command can end before anything has been written.**  Its input ends, nothing is refused, and
it succeeds while the frame that was accepted waits for a task for which nobody waits. -/
theorem LiveSession.lost_at_exit :
    let setup : Setup := ⟨⟨"c", "k", .publish⟩, .standard, "u",
      .input (.ofPipe "input" 4096 (.ofBytes [1, 2])), [], []⟩
    let hs : List Happening := [.conclude (.ok ()), .session .take, .session .read, .session .read,
      .session .forward, .session .forward, .session .take, .session .take]
    let l := (startWith setup [none]).run hs
    (∃ t ∈ (startWith setup [none]).turns hs, t.before = .opened ∧ t.event = .deviceEnded) ∧
      (∀ p ∈ hs, p.isRefusal = false) ∧ l.ending?.map Ending.exit = some 0 ∧
        acceptedFrames (l.ensemble.log.filterMap Activity.call?) = [.binary [1, 2]] ∧
          l.connection.written = [] := by
  decide

end Livecast
