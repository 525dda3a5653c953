import Livecast.Proofs.Command.Phases
import Livecast.Proofs.Playback.Recording

/-!
# What a watching session makes of a stream

The server's messages pass the reading task, the queue of the session, the session and the recorder.
If nobody disturbs the session, it hears the stream to its end, and its output holds what the stream
brought.

## Main Definitions

* `Happening.isCalm` - nobody closes the session, and the network takes what it is given
* `Watching` - what is true at every moment of an undisturbed session
* `WatchedThrough` - the law of watching

## Main Statements

* `Watching.take`, `Watching.aside`, `Watching.hear` - the session, the tasks around it and the
  reading task keep the law
* `LiveSession.run_watched` - every undisturbed run obeys the law of watching
-/

namespace Livecast

/-! ## Undisturbed runs -/

/-- The wish is not that the session be closed. -/
def Wish.isCalm : Wish → Bool
  | .close => false
  | _ => true

/-- An observer that never wants the session closed. -/
def Wishes.isCalm (w : Wishes) : Bool := w.all.all Wish.isCalm

/-- Nobody wants the session closed, the handshake does not fail, and the stream takes what it is
given. -/
def Happening.isCalm : Happening → Bool
  | .outer (.post (.wish w)) => w.isCalm
  | .conclude (.error _) => false
  | .transmit (some _) => false
  | _ => true

/-! ## The law of an undisturbed session -/

/-- **What is true at every moment of an undisturbed session** that watches, after the turns `ts`
and when the stream has given `items`. -/
structure Watching (channel key : String) (settings : SessionPolicy)
    (observers : List (Option Wishes)) (ts : List (Turn MeteredLink)) (items : List Inbound)
    (l : LiveSession) : Prop where
  /-- What it has done is a history. -/
  history : Machine.History ⟨channel, key, .watch⟩ settings observers.length ts
    l.ensemble.task.machine
  /-- It has these observers. -/
  observed : l.ensemble.observers = observers.map (Option.map Wishes.reactions)
  /-- Its task runs. -/
  driven : l.ensemble.driven = true
  /-- Nothing is captured. -/
  apart : l.ensemble.line.forwarding = false
  /-- Its calls are logged. -/
  logged : l.ensemble.log.filterMap Activity.call? = Turn.log ts
  /-- Whatever it has received is in the file or on its way there. -/
  recording : ∃ s, l.ensemble.file = some s ∧
    Recording (payloads ts).flatten (l.ensemble.task.machine.state ≠ .closed) s
  /-- The reading task reads until the stream ends. -/
  hearing : Hearing items l.connection.reading
  /-- What the connection reports the session meets when it is open. -/
  met : ∀ t ∈ ts, t.event.isNews = true → t.before = .opened
  /-- It is in one of its phases. -/
  phase : Phase ts items l.ensemble.task.machine l.ensemble.task.handshake l.ensemble.task.queue
    l.connection

namespace Watching

variable {channel key : String} {settings : SessionPolicy} {observers : List (Option Wishes)}
  {ts : List (Turn MeteredLink)} {items : List Inbound} {l : LiveSession}

/-- What observers without demands post does not concern the stage of the session. -/
theorem isIdle_echo (h : Watching channel key settings observers ts items l)
    (calm : ∀ o, some o ∈ observers → o.isCalm = true) (activity : Activity MeteredLink) :
    ∀ event ∈ l.ensemble.echo activity, event.isIdle = true := by
  obtain ⟨wishes, echoed, wished⟩ := Ensemble.echo_wishes h.observed activity
  rw [echoed]
  intro event among
  obtain ⟨w, hw, rfl⟩ := List.mem_map.mp among
  obtain ⟨o, ho, part⟩ := wished w hw
  have harmless : w.isCalm = true := List.all_eq_true.mp (calm o ho) w part
  cases w with
  | close => simp [Wish.isCalm] at harmless
  | _ => rfl

/-- What has been shown or logged for the user does not matter. -/
theorem congr (h : Watching channel key settings observers ts items l) {other : LiveSession}
    (ensemble : other.ensemble = l.ensemble) (connection : other.connection = l.connection) :
    Watching channel key settings observers ts items other := by
  obtain ⟨setup, _, _, log⟩ := other
  subst ensemble connection
  exact { h with }

/-- **The session takes an event.** -/
theorem take (h : Watching channel key settings observers ts items l)
    (calm : ∀ o, some o ∈ observers → o.isCalm = true) {event : Event MeteredLink}
    {next : LiveSession} (taken : l.ensemble.taken? (.move .take) = some event)
    (ensemble : next.ensemble = l.ensemble.undergo (.move .take))
    (connection : next.connection =
      l.connection.heed (l.ensemble.task.machine.handle l.ensemble.answers event).2) :
    Watching channel key settings observers
      (ts ++ [l.ensemble.task.machine.turn event l.ensemble.answers]) items next := by
  obtain ⟨rest, shake, now⟩ := Ensemble.exists_taking taken
  obtain ⟨met, phase, same⟩ := h.phase.taking h.history h.hearing (h.isIdle_echo calm) taken
  have history := h.history.turn event l.ensemble.answers
  have outcome := h.history.sound.handle_outcome l.ensemble.answers event
  have watches : l.ensemble.task.machine.id.role = .watch := by rw [h.history.unchanged.1]
  refine ⟨?_, ?_, ?_, ?_, ?_, ?_, ?_, ?_, ?_⟩
  · rwa [ensemble, now.machine]
  · rw [ensemble, now.observers.1, h.observed]
  · rw [ensemble, now.observers.2, h.driven]
  · -- a watching session asks nothing of its source
    have asked := history.hasAsked
    simp only [Machine.HasAsked, history.unchanged.1, Turn.log_append, Turn.log_cons,
      Turn.log_nil, List.append_nil, sources_append, List.append_eq_nil_iff] at asked
    have nothing : sources (l.ensemble.task.machine.handle l.ensemble.answers event).2 = [] :=
      asked.2
    rw [ensemble, now.line, nothing]
    exact h.apart
  · rw [ensemble, now.calls, h.logged, Turn.log_concat]
    rfl
  · -- the recorder is held until the session closes, and it has not closed before this event
    obtain ⟨s, file, recording⟩ := h.recording
    rw [decide_eq_true now.unclosed] at recording
    have more := recording.outcome outcome watches now.unclosed
    refine ⟨_, by rw [ensemble, now.file h.driven, file]; rfl, ?_⟩
    rw [payloads_concat, List.flatten_append, Turn.payload?_eq, ensemble, now.machine]
    exact more
  · rw [connection]
    exact same ▸ h.hearing
  · intro t ht isNews
    rcases List.mem_append.mp ht with ht | ht
    · exact h.met t ht isNews
    · obtain rfl := List.mem_singleton.mp ht
      exact met isNews
  · rw [ensemble, connection]
    exact phase

/-- What is posted does not concern the stage of the session. -/
theorem post (h : Watching channel key settings observers ts items l)
    {event : Event MeteredLink} (idle : event.isIdle = true) :
    Watching channel key settings observers ts items
      { l with ensemble := l.ensemble.post event } :=
  { h with phase := h.phase.post idle }

theorem conclude (h : Watching channel key settings observers ts items l)
    (pending : l.ensemble.task.handshake = .pending) :
    Watching channel key settings observers ts items
      { l with ensemble := { l.ensemble with task := { l.ensemble.task with
        handshake := .ready (.ok LiveSession.link) } } } := by
  refine { h with phase := ?_ }
  cases h.phase with
  | waiting stage _ _ passing => exact .connected stage rfl passing
  | connected _ shaken | opened _ shaken | closed _ shaken => simp [pending] at shaken

/-- **What comes from outside, and what the other tasks do, is harmless.** -/
theorem aside (h : Watching channel key settings observers ts items l) {happening : Happening}
    {i : Incident} {next : Ensemble} (calm : happening.isCalm = true)
    (incident : happening.incident? = some i) (now : Ensemble.Aside l.ensemble i next) :
    Watching channel key settings observers ts items { l with ensemble := next } := by
  cases now with
  | waits => exact h
  | read step => exact { h with apart := (CaptureLine.forwarding_readOnce? step).trans h.apart }
  | forwarded step => simp [CaptureLine.forward?, h.apart] at step
  | wrote present step =>
      obtain ⟨s, file, recording⟩ := h.recording
      obtain rfl := Option.some.inj (file.symm.trans present)
      exact { h with recording := ⟨_, rfl, recording.step step⟩ }
  | posted o =>
      obtain ⟨m, -, ⟨⟩⟩ | ⟨rfl, outer⟩ | ⟨result, -, ⟨⟩⟩ := Happening.incident?_cases incident
      refine h.post ?_
      rcases o with (_ | _ | _) | _ | _ | _ | _ <;>
        simp_all [Incident.isOuter, Happening.isCalm, Wish.isCalm, Outside.event, Wish.event,
          Event.isIdle]
  | concluded pending =>
      obtain ⟨m, -, ⟨⟩⟩ | ⟨-, outer⟩ | ⟨result, rfl, ⟨⟩⟩ := Happening.incident?_cases incident
      · simp [Incident.isOuter] at outer
      · cases result with
        | error => simp [Happening.isCalm] at calm
        | ok => exact h.conclude pending
  | cutOff =>
      obtain ⟨m, -, ⟨⟩⟩ | ⟨-, outer⟩ | ⟨result, -, ⟨⟩⟩ := Happening.incident?_cases incident
      simp [Incident.isOuter] at outer
  | clock => exact { h with }
  | cut => exact { h with apart := (CaptureLine.forwarding_fire ..).trans h.apart }
  | arrived | exhausted =>
      exact { h with apart := (CaptureLine.forwarding_feed ..).trans h.apart }

/-- What the tasks of the connection do with the stream does not matter, as long as the link
works. -/
theorem withConnection (h : Watching channel key settings observers ts items l) {c : Connection}
    (intact : l.connection.Intact → c.Intact) (reading : c.reading = l.connection.reading) :
    Watching channel key settings observers ts items { l with connection := c } := by
  have again (passing : Passing ts items l.ensemble.task.queue l.connection) :
      Passing ts items l.ensemble.task.queue c :=
    { passing with intact := intact passing.intact }
  refine { h with hearing := reading ▸ h.hearing, phase := ?_ }
  cases h.phase with
  | waiting stage shaking unheard passing =>
      exact .waiting stage shaking unheard (again passing)
  | connected stage given passing => exact .connected stage given (again passing)
  | opened stage taken link passing => exact .opened stage taken link (again passing)
  | closed stage taken deaf met final failure opened =>
      exact .closed stage taken (reading.trans deaf) met final failure opened

theorem report_nil (h : Watching channel key settings observers ts items l) :
    Watching channel key settings observers ts items (l.report (l.connection, [])) := by
  obtain ⟨connection, ensemble⟩ := l.report_eq (l.connection, [])
  refine h.congr (ensemble.trans ?_) connection
  cases h.phase with
  | waiting _ _ _ passing | connected _ _ passing | opened _ _ _ passing =>
      simp [passing.intact.refusal_eq_none]
  | closed stage =>
      have unlinked := h.history.sound.link_eq_none (by simp [stage])
      cases l.connection.refusal with
      | none => rfl
      | some refusal => exact Ensemble.cutOff_eq_self unlinked refusal

/-- **The reading task hears an item.** -/
theorem hear (h : Watching channel key settings observers ts items l)
    (connected : l.isConnected = true) (reading : l.connection.reading = true) (item : Inbound) :
    Watching channel key settings observers ts (items ++ [item])
      (l.report (l.connection.take item)) := by
  have hearing := h.hearing
  rw [reading] at hearing
  have heard := hearing.hear item
  have took (intact : l.connection.Intact) : (l.connection.take (L := MeteredLink) item).1.Intact :=
    intact.agrees (Connection.agrees_take ⟨rfl, rfl, rfl⟩ item)
  have passes (passing : Passing ts items l.ensemble.task.queue l.connection) :
      l.report (l.connection.take item) =
        { l with connection := (l.connection.take (L := MeteredLink) item).1,
                 ensemble := { l.ensemble with task := { l.ensemble.task with
                   queue := l.ensemble.task.queue.sendAll item.event?.toList } } } := by
    have intact := took passing.intact
    rw [LiveSession.report, intact.refusal_eq_none, Ensemble.foldl_post]
    rfl
  have same := l.connection.reading_take (L := MeteredLink) item
  rw [reading, Bool.true_and] at same
  -- nothing is heard before there is a connection, nor after the session has closed
  cases h.phase with
  | waiting _ shaking => simp [LiveSession.isConnected, shaking] at connected
  | connected stage given passing =>
      rw [passes passing]
      exact { h with
        hearing := same ▸ heard
        phase := .connected stage given (passing.hear item (took passing.intact)) }
  | opened stage taken link passing =>
      rw [passes passing]
      exact { h with
        hearing := same ▸ heard
        phase := .opened stage taken link (passing.hear item (took passing.intact)) }
  | closed _ _ deaf => simp [deaf] at reading

/-- **Whatever happens to an undisturbed session**, the law stays true. -/
theorem undergo (h : Watching channel key settings observers ts items l)
    (undemanding : ∀ o, some o ∈ observers → o.isCalm = true) {happening : Happening}
    (calm : happening.isCalm = true) :
    Watching channel key settings observers (ts ++ (l.turn? happening).toList)
      (items ++ (l.heard? happening).toList) (l.undergo happening) := by
  have agreeing {c : Connection} (same : c.Agrees l.connection)
      (still : c.reading = l.connection.reading) :
      Watching channel key settings observers ts items { l with connection := c } :=
    h.withConnection (fun intact => intact.agrees same) still
  generalize after : l.undergo happening = next
  cases after ▸ l.effect happening with
  | nothing quiet unheard => simpa [quiet, unheard] using h
  | took taken ensemble connection =>
      simpa [LiveSession.turn?, Ensemble.turn?, taken, LiveSession.heard?] using
        h.take undemanding taken ensemble connection
  | aside quiet unheard incident now connection =>
      have done : Watching channel key settings observers ts items next :=
        (h.aside calm incident now).congr rfl connection
      simpa [quiet, unheard] using done
  | arrived quiet unheard same still => simpa [quiet, unheard] using agreeing same still
  | looked unheard same still =>
      simpa [LiveSession.turn?, unheard, LiveSession.report] using
        (agreeing same still).report_nil
  | received quiet connected same reading still heard =>
      simpa [quiet, heard, LiveSession.report] using
        (agreeing same (still.trans reading.symm)).hear connected still _
  | @wrote refused c events step =>
      cases refused with
      | some reason => simp [Happening.isCalm] at calm
      | none =>
          obtain ⟨reading, rfl⟩ := Connection.write?_none step
          simpa [LiveSession.turn?, LiveSession.heard?, LiveSession.report] using
            (h.withConnection (fun intact => intact.write step) reading).report_nil

/-- **Every undisturbed run obeys the law.** -/
theorem run (h : Watching channel key settings observers ts items l)
    (undemanding : ∀ o, some o ∈ observers → o.isCalm = true) (hs : List Happening)
    (calm : ∀ happening ∈ hs, happening.isCalm = true) :
    Watching channel key settings observers (ts ++ l.turns hs) (items ++ l.heard hs)
      (l.run hs) := by
  induction hs generalizing ts items l with
  | nil => simpa [LiveSession.turns, LiveSession.heard] using h
  | cons happening rest ih =>
      obtain ⟨now, later⟩ := List.forall_mem_cons.mp calm
      rw [LiveSession.turns, LiveSession.heard, LiveSession.run_cons, ← List.append_assoc,
        ← List.append_assoc]
      exact ih (h.undergo undemanding now) later

end Watching

/-! ## The law of watching -/

/-- **The law of watching** for the items that the stream gave, what the observers were told, what
the output holds, and the report of the session. -/
structure WatchedThrough (retain : Bool) (observers : Nat) (items : List Inbound)
    (told : List (Nat × Notice)) (written : Bytes) (summary : SessionSummary) : Prop where
  /-- The stream was heard to its end, and the session ended as the stream did. -/
  ended : ∃ front last, items = front ++ [last] ∧ (∀ item ∈ front, item.ends = false) ∧
    last.ends = true ∧ summary.failure = last.failure?
  /-- The output holds what the stream brought, in order. -/
  output : written = (items.filterMap Inbound.payload?).flatten
  /-- What is retained is what the output holds. -/
  retained : summary.retained = if retain then some written else none
  /-- All observers were told that the session is open, every error that the server reported, in
  order, and how the session ended. -/
  told : told = broadcast observers (.opened ::
    ((items.filterMap Inbound.error?).map fun message => .failure (.remote message)) ++
      ending summary)

namespace Watching

variable {channel key : String} {settings : SessionPolicy} {observers : List (Option Wishes)}
  {ts : List (Turn MeteredLink)} {items : List Inbound} {l : LiveSession}

/-- An undisturbed session that has met everything has received what the stream brought, and has
passed on what the server reported. -/
theorem meaning (h : Watching channel key settings observers ts items l)
    (all : news (ts.map Turn.event) = newsOf items) :
    payloads ts = items.filterMap Inbound.payload? ∧
      ts.filterMap Turn.report? = items.filterMap Inbound.error? := by
  constructor
  · refine filterMap_eq_of_met (g := Event.payload?) all h.met (fun t opened => ?_)
      (fun t stale => ?_) fun item => ?_
    · obtain ⟨before, event, answers, calls, after⟩ := t
      obtain rfl : before = .opened := opened
      rcases event with _ | _ | (_ | _) | _ | _ | _ | _ | _ | _ | _ | _ <;> rfl
    · obtain ⟨before, event, answers, calls, after⟩ := t
      cases event <;> simp_all [Event.isNews, Turn.payload?]
    · rcases item with (_ | _ | _ | _ | _) | reason | _ <;> rfl
  · refine filterMap_eq_of_met (g := Event.error?) all h.met (fun t opened => ?_)
      (fun t stale => ?_) fun item => ?_
    · obtain ⟨before, event, answers, calls, after⟩ := t
      obtain rfl : before = .opened := opened
      rcases event with _ | _ | (_ | _) | _ | _ | _ | _ | _ | _ | _ | _ <;> rfl
    · obtain ⟨before, event, answers, calls, after⟩ := t
      cases event <;> simp_all [Event.isNews, Turn.report?]
    · rcases item with (_ | _ | _ | _ | _) | reason | _ <;> rfl

/-- **An undisturbed session whose output is complete has heard its stream to the end.** -/
theorem watchedThrough (h : Watching channel key settings observers ts items l)
    (complete : l.ensemble.file.map Recorder.task = some (.ended true)) :
    ∃ summary, l.ensemble.task.report? = some summary ∧
      WatchedThrough settings.retain observers.length items
        (notices (l.ensemble.log.filterMap Activity.call?)) l.written summary := by
  obtain ⟨s, file, recording⟩ := h.recording
  rw [file, Option.map_some, Option.some.injEq] at complete
  obtain ⟨whole, released⟩ := recording.eq_of_ended complete
  have stage : l.ensemble.task.machine.state = .closed := by simpa using released
  cases h.phase with
  | waiting open' | connected open' | opened open' => simp [open'] at stage
  | @closed last _ _ deaf met final failure opened =>
      obtain ⟨received, reported⟩ := h.meaning met
      have written : l.written = (items.filterMap Inbound.payload?).flatten := by
        rw [← received, ← whole, LiveSession.written, file]
        rfl
      refine ⟨_, (SessionTask.report?_eq_some _ _).mpr ⟨stage, rfl⟩, ?_, written, ?_, ?_⟩
      · have hearing := h.hearing
        rw [deaf] at hearing
        cases hearing with
        | ended front last' whole before ends =>
            obtain rfl : last' = last := by simpa [whole] using final
            exact ⟨front, last', whole, before, ends, failure⟩
      · rw [h.history.retained_report, written, received]
      · -- a session that has opened has said so once
        obtain ⟨unopened, -⟩ | ⟨link, once⟩ := h.history.opened_once
        · exact absurd unopened opened
        · rw [h.logged, h.history.notices, Machine.said, greeting, once, reports, reported,
            Machine.parting, if_pos stage]
          rfl

end Watching

/-- A session that has not met any event is undisturbed. -/
theorem watching_startWith {setup : Setup} {channel key : String} {path : Path} {disk : Disk}
    (watches : setup.id = ⟨channel, key, .watch⟩)
    (media : setup.media = .output path (.ofDisk disk)) (blank : disk.data = [])
    (observers : List (Option Wishes)) :
    Watching channel key setup.settings observers [] []
      (LiveSession.startWith setup observers) where
  history := by
    have count : (observers.map (Option.map Wishes.reactions)).length = observers.length :=
      List.length_map _
    rw [← watches, ← count]
    exact .fresh
  observed := rfl
  driven := rfl
  apart := rfl
  logged := rfl
  recording := by
    have empty : Recording [] true (.ofDisk disk) := blank ▸ .ofDisk disk
    refine ⟨.ofDisk disk, ?_, empty⟩
    simp [LiveSession.startWith, LiveSession.recorderOf, Ensemble.ofSession, media]
  hearing := .listening (by simp)
  met := by simp
  phase := .waiting rfl rfl rfl ⟨rfl, by simp [LiveSession.startWith, Ensemble.ofSession,
    SessionTask.start, Mailbox.fresh], rfl, ⟨rfl, rfl, by simp [LiveSession.startWith,
    LiveSession.start, Connection.fresh, Mailbox.fresh]⟩⟩

/-- **Every undisturbed session passes everything on.**  Whatever the server sends, whatever the
observers ask for short of closing the session, and in whichever order the tasks do their steps:
once the output is complete, the session has heard its stream to the end and obeys the law of
watching. -/
theorem LiveSession.run_watched {setup : Setup} {channel key : String} {path : Path} {disk : Disk}
    (watches : setup.id = ⟨channel, key, .watch⟩)
    (media : setup.media = .output path (.ofDisk disk)) (blank : disk.data = [])
    (observers : List (Option Wishes)) (undemanding : ∀ o, some o ∈ observers → o.isCalm = true)
    (hs : List Happening) (calm : ∀ happening ∈ hs, happening.isCalm = true)
    (complete : ((startWith setup observers).run hs).ensemble.file.map Recorder.task =
      some (.ended true)) :
    ∃ summary, ((startWith setup observers).run hs).ensemble.task.report? = some summary ∧
      WatchedThrough setup.settings.retain observers.length ((startWith setup observers).heard hs)
        (notices (((startWith setup observers).run hs).ensemble.log.filterMap Activity.call?))
        ((startWith setup observers).run hs).written summary := by
  have fresh := watching_startWith watches media blank observers
  have after := fresh.run undemanding hs calm
  rw [List.nil_append, List.nil_append] at after
  exact after.watchedThrough complete

/-- Media that arrive before the session knows that it is open, a report of the server and a
heartbeat, until the server says goodbye. -/
theorem LiveSession.run_watched_farewell :
    let setup : Setup := ⟨⟨"c", "k", .watch⟩, ⟨.zero, .zero, true⟩, "u",
      .output ⟨"out"⟩ (.ofDisk .blank), [], []⟩
    let hs : List Happening := [.conclude (.ok ()), .hear (.message (.binary [1, 2])),
      .hear (.message (.text "ERROR: full")), .session .take, .session .take, .outer (.post .beat),
      .hear (.message (.ping [])), .hear (.message (.binary [3])),
      .hear (.message (.close (some 1000))), .session .write, .session .take, .session .take,
      .transmit none, .session .take, .session .take, .session .write, .session .write,
      .session .write, .session .write, .transmit none]
    let l := (startWith setup [none]).run hs
    (∀ happening ∈ hs, happening.isCalm = true) ∧
      l.ensemble.file.map Recorder.task = some (.ended true) ∧ l.written = [1, 2, 3] ∧
      ∃ summary, l.ensemble.task.report? = some summary ∧
        WatchedThrough true 1 ((startWith setup [none]).heard hs)
          (notices (l.ensemble.log.filterMap Activity.call?)) l.written summary := by
  refine ⟨by decide, by decide, by decide, ?_⟩
  exact run_watched rfl rfl rfl [none] (by simp) _ (by decide) (by decide)

end Livecast
