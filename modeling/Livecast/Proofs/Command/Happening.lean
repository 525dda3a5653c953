import Livecast.Command.LiveSession
import Livecast.Proofs.Session.Interleaving

/-!
# Interleavings of a session and its connection

The tasks of a session, those of its connection and whatever comes from outside take turns in any
order.  The connection exists from the moment in which the handshake could give its result, so its
reading task can be ahead of the session.

## Main Definitions

* `Happening`, `LiveSession.undergo` - what can happen next, and what it does
* `LiveSession.run`, `LiveSession.turns`, `LiveSession.heard` - a run, what the session does in its
  course, and what the stream gives to the reading task

## Main Statements

* `LiveSession.exists_happening` - the moves of a session and its connection are happenings
* `LiveSession.connection_session` - a step of the session reaches the connection
* `LiveSession.report_eq` - a step of the connection reaches the session
* `LiveSession.effect` - what a happening comes to

## Design Notes

Whether the network takes a message is part of the happening, and so is what the stream gives.  A
run over them all is a run over every behaviour of the server.
-/

namespace Livecast

/-! ## Happenings -/

/-- The incident comes from outside: a caller wants something, a timer fires, the clock moves, or
something happens to the input. -/
def Incident.isOuter : Incident → Bool
  | .post (.wish _) | .post .beat | .clock _ | .cut | .arrive _ | .exhaust => true
  | _ => false

/-- What can happen to a session and its connection. -/
inductive Happening where
  /-- A task of the session does a step. -/
  | session (m : Ensemble.Move)
  /-- Something comes from outside. -/
  | outer (i : Incident)
  /-- The handshake gets its result. -/
  | conclude (result : Except SessionFailure Unit)
  /-- Bytes arrive on the stream. -/
  | deliver (bytes : Bytes)
  /-- The stream is cut. -/
  | hangUp
  /-- The reading task reads the bytes that have arrived. -/
  | receive
  /-- The stream gives something to the reading task. -/
  | hear (item : Inbound)
  /-- The writing task does a step; the stream refuses what it is given if there is a reason. -/
  | transmit (refused : Option String)

/-- The link that a handshake gives; the connection behind it decides what it accepts. -/
def LiveSession.link : MeteredLink := ⟨"link", none, .transport ""⟩

/-- The incident of the session that a happening is, unless it is one of the connection. -/
def Happening.incident? : Happening → Option Incident
  | .session m => some (.move m)
  | .outer i => if i.isOuter then some i else none
  | .conclude result => some (.conclude (result.map fun _ => LiveSession.link))
  | _ => none

theorem Happening.incident?_cases {h : Happening} {i : Incident} (given : h.incident? = some i) :
    (∃ m, h = .session m ∧ i = .move m) ∨ (h = .outer i ∧ i.isOuter = true) ∨
      ∃ result, h = .conclude result ∧ i = .conclude (result.map fun _ => LiveSession.link) := by
  cases h with
  | session m => exact .inl ⟨m, rfl, (Option.some.inj given).symm⟩
  | outer j =>
      obtain ⟨outer, same⟩ := Option.ite_none_right_eq_some.mp given
      obtain rfl := Option.some.inj same
      exact .inr (.inl ⟨rfl, outer⟩)
  | conclude result => exact .inr (.inr ⟨result, rfl, (Option.some.inj given).symm⟩)
  | _ => simp [incident?] at given

/-! ## What reaches the connection -/

/-- What is done about the calls of a session. -/
def Connection.heed (c : Connection) (calls : List (Call MeteredLink)) : Connection :=
  calls.foldl (fun c call => LiveSession.handOver c (.call call)) c

@[simp] theorem Connection.heed_nil (c : Connection) : c.heed [] = c := rfl

@[simp] theorem Connection.heed_cons (c : Connection) (call : Call MeteredLink)
    (calls : List (Call MeteredLink)) :
    c.heed (call :: calls) = (LiveSession.handOver c (.call call)).heed calls := rfl

/-- The link and the writing task of two connections do not differ. -/
structure Connection.Agrees (c d : Connection) : Prop where
  /-- The same has been handed over. -/
  outbound : c.outbound = d.outbound
  /-- Both links have been closed, or none. -/
  held : c.held = d.held
  /-- The same has been put on the stream. -/
  written : c.written = d.written

theorem Connection.agrees_next? {c next : Connection} {item? : Option Inbound}
    (h : c.next? = some (item?, next)) : next.Agrees c ∧ next.reading = c.reading := by
  unfold next? at h
  split at h
  · cases h; exact ⟨⟨rfl, rfl, rfl⟩, rfl⟩
  · cases h; exact ⟨⟨rfl, rfl, rfl⟩, rfl⟩
  · split at h
    · cases h; exact ⟨⟨rfl, rfl, rfl⟩, rfl⟩
    · split at h
      · cases h; exact ⟨⟨rfl, rfl, rfl⟩, rfl⟩
      · simp at h

theorem Connection.agrees_take {L : Type} {c d : Connection} (same : c.Agrees d)
    (item : Inbound) : (c.take (L := L) item).1.Agrees d := by
  rcases item with (_ | _ | _ | _ | _) | reason | _ <;>
    exact ⟨same.outbound, same.held, same.written⟩

/-! ## Runs -/

namespace LiveSession

/-- A session that has been set up with some observers and begins its handshake. -/
def startWith (setup : Setup) (observers : List (Option Wishes)) : LiveSession :=
  { start setup with
    ensemble := .ofSession setup.id setup.settings (some setup.url) (sourceOf setup.media)
      (recorderOf setup.media) (observers.map (Option.map Wishes.reactions)) }

/-- The observer of a command has no wishes. -/
theorem start_eq (setup : Setup) : start setup = startWith setup [none] := rfl

/-- The tasks of the connection exist. -/
def isConnected (l : LiveSession) : Bool :=
  match l.ensemble.task.handshake with
  | .ready (.ok _) | .taken => true
  | _ => false

/-- What happens; a task that does not exist or has to wait does nothing. -/
def undergo (l : LiveSession) : Happening → LiveSession
  | .session m => (l.step? (.session m)).getD l
  | .outer i => if i.isOuter then { l with ensemble := l.ensemble.undergo i } else l
  | .conclude result =>
    { l with ensemble := (l.ensemble.conclude (result.map fun _ => link)).1 }
  | .deliver bytes => { l with connection := l.connection.arrive bytes }
  | .hangUp => { l with connection := l.connection.finish }
  | .receive => if l.isConnected then (l.step? .receive).getD l else l
  | .hear item =>
    if l.isConnected && l.connection.reading then l.report (l.connection.take item) else l
  | .transmit refused =>
    if l.isConnected then ((l.connection.write? refused).map l.report).getD l else l

/-- What a list of happenings does. -/
def run (l : LiveSession) (hs : List Happening) : LiveSession := hs.foldl undergo l

@[simp] theorem run_nil (l : LiveSession) : l.run [] = l := rfl

@[simp] theorem run_cons (l : LiveSession) (h : Happening) (hs : List Happening) :
    l.run (h :: hs) = (l.undergo h).run hs := rfl

/-- What the session does about a happening. -/
def turn? (l : LiveSession) : Happening → Option (Turn MeteredLink)
  | .session m => l.ensemble.turn? (.move m)
  | _ => none

/-- What the session does in the course of a run. -/
def turns (l : LiveSession) : List Happening → List (Turn MeteredLink)
  | [] => []
  | h :: rest => (l.turn? h).toList ++ (l.undergo h).turns rest

/-- What the stream gives to the reading task with a happening. -/
def heard? (l : LiveSession) : Happening → Option Inbound
  | .receive =>
    if l.isConnected && l.connection.reading then l.connection.next?.bind Prod.fst else none
  | .hear item => if l.isConnected && l.connection.reading then some item else none
  | _ => none

/-- What the stream gives to the reading task in the course of a run. -/
def heard (l : LiveSession) : List Happening → List Inbound
  | [] => []
  | h :: rest => (l.heard? h).toList ++ (l.undergo h).heard rest

/-- **The moves of a session and its connection are happenings.** -/
theorem exists_happening {l next : LiveSession} {m : Move} (h : l.step? m = some next)
    (there : l.isConnected = true) : ∃ happening, l.undergo happening = next := by
  cases m with
  | session m => exact ⟨.session m, by rw [undergo, h]; rfl⟩
  | receive => exact ⟨.receive, by rw [undergo, if_pos there, h]; rfl⟩
  | transmit =>
      refine ⟨.transmit l.connection.streamRefusal, ?_⟩
      rw [undergo, if_pos there]
      exact congrArg (Option.getD · l) h

theorem undergo_session (l : LiveSession) (m : Ensemble.Move) :
    (l.undergo (.session m)).ensemble = l.ensemble.undergo (.move m) ∧
      (l.undergo (.session m)).connection =
        ((l.ensemble.undergo (.move m)).log.drop l.ensemble.log.length).foldl handOver
          l.connection := by
  simp only [undergo, step?, Ensemble.undergo]
  cases l.ensemble.step? m <;> simp

/-- **A step of the session reaches the connection**: the calls that it makes are handed over. -/
theorem connection_session (l : LiveSession) (m : Ensemble.Move) :
    (l.undergo (.session m)).connection =
      l.connection.heed (Turn.log (l.turn? (.session m)).toList) := by
  rw [(l.undergo_session m).2, turn?, Ensemble.turn?]
  cases taken : l.ensemble.taken? (.move m) with
  | none =>
      rw [(Ensemble.aside taken).log, List.drop_length]
      rfl
  | some event =>
      obtain ⟨rest, shake, now⟩ := Ensemble.exists_taking taken
      obtain ⟨drops, dropped, log⟩ := now.log
      -- a handshake that is dropped means nothing to the connection
      have silent (c : Connection) : drops.foldl handOver c = c := by
        clear log
        induction drops with
        | nil => rfl
        | cons d others ih =>
            obtain ⟨rfl, later⟩ := List.forall_mem_cons.mp dropped
            exact ih later
      rw [log, List.drop_left, List.foldl_append, silent, List.foldl_map]
      simp [Connection.heed, Machine.turn]

/-- **A step of the connection reaches the session**: what it reports is posted. -/
theorem report_eq (l : LiveSession) (done : Connection × List (Event MeteredLink)) :
    (l.report done).connection = done.1 ∧
      (l.report done).ensemble =
        (done.1.refusal.map (done.2.foldl Ensemble.post l.ensemble).cutOff).getD
          (done.2.foldl Ensemble.post l.ensemble) := by
  refine ⟨rfl, ?_⟩
  rw [report]
  cases done.1.refusal <;> rfl

/-- **What a happening comes to.** -/
inductive Effect (l : LiveSession) : Happening → LiveSession → Prop where
  /-- Nothing: a task does not exist or has to wait. -/
  | nothing {h : Happening} (quiet : l.turn? h = none) (unheard : l.heard? h = none) :
      Effect l h l
  /-- The session takes an event. -/
  | took {event : Event MeteredLink} {next : LiveSession}
      (taken : l.ensemble.taken? (.move .take) = some event)
      (ensemble : next.ensemble = l.ensemble.undergo (.move .take))
      (connection : next.connection =
        l.connection.heed (l.ensemble.task.machine.handle l.ensemble.answers event).2) :
      Effect l (.session .take) next
  /-- Something happens around the session. -/
  | aside {h : Happening} {i : Incident} {next : LiveSession} (quiet : l.turn? h = none)
      (unheard : l.heard? h = none) (incident : h.incident? = some i)
      (now : Ensemble.Aside l.ensemble i next.ensemble)
      (connection : next.connection = l.connection) : Effect l h next
  /-- Something arrives, or the stream ends. -/
  | arrived {h : Happening} {c : Connection} (quiet : l.turn? h = none)
      (unheard : l.heard? h = none) (same : c.Agrees l.connection)
      (still : c.reading = l.connection.reading) : Effect l h { l with connection := c }
  /-- The reading task looks at what has arrived. -/
  | looked {c : Connection} (unheard : l.heard? .receive = none) (same : c.Agrees l.connection)
      (still : c.reading = l.connection.reading) : Effect l .receive (l.report (c, []))
  /-- The stream gives something to the reading task. -/
  | received {h : Happening} {c : Connection} {item : Inbound} (quiet : l.turn? h = none)
      (connected : l.isConnected = true) (same : c.Agrees l.connection)
      (reading : l.connection.reading = true) (still : c.reading = true)
      (heard : l.heard? h = some item) : Effect l h (l.report (c.take item))
  /-- The writing task does a step. -/
  | wrote {refused : Option String} {c : Connection} {events : List (Event MeteredLink)}
      (step : l.connection.write? refused = some (c, events)) :
      Effect l (.transmit refused) (l.report (c, events))

theorem effect_session (l : LiveSession) (m : Ensemble.Move) :
    Effect l (.session m) (l.undergo (.session m)) := by
  have ensemble := (l.undergo_session m).1
  have connection := l.connection_session m
  rw [turn?, Ensemble.turn?] at connection
  cases taken : l.ensemble.taken? (.move m) with
  | none =>
      rw [taken] at connection
      refine .aside ?_ rfl rfl (i := .move m) (ensemble ▸ Ensemble.aside taken) connection
      rw [turn?, Ensemble.turn?, taken]
      rfl
  | some event =>
      rw [taken] at connection
      cases m with
      | take => exact .took taken ensemble (by simpa [Machine.turn] using connection)
      | _ => simp [Ensemble.taken?] at taken

theorem effect_receive (l : LiveSession) : Effect l .receive (l.undergo .receive) := by
  simp only [undergo, step?, Connection.read?]
  by_cases connected : l.isConnected = true
  · rw [if_pos connected]
    cases reading : l.connection.reading with
    | false => exact .nothing rfl (by simp [heard?, reading])
    | true =>
        cases next : l.connection.next? with
        | none => exact .nothing rfl (by simp [heard?, next])
        | some found =>
            obtain ⟨item?, c⟩ := found
            obtain ⟨same, still⟩ := Connection.agrees_next? next
            cases item? with
            | none => exact .looked (by simp [heard?, next]) same still
            | some item =>
                exact .received rfl connected same reading (still.trans reading)
                  (by simp [heard?, connected, reading, next])
  · rw [if_neg connected]
    exact .nothing rfl (by simp [heard?, connected])

/-- **Every happening comes to something.** -/
theorem effect (l : LiveSession) (h : Happening) : Effect l h (l.undergo h) := by
  cases h with
  | session m => exact l.effect_session m
  | receive => exact l.effect_receive
  | outer i =>
      cases outer : i.isOuter with
      | false => simpa [undergo, outer] using .nothing rfl rfl
      | true =>
          have untaken : l.ensemble.taken? i = none := by
            cases i with
            | move | overtake => simp [Incident.isOuter] at outer
            | _ => rfl
          have done : Effect l (.outer i) { l with ensemble := l.ensemble.undergo i } :=
            .aside rfl rfl (if_pos outer) (Ensemble.aside untaken) rfl
          simpa [undergo, outer] using done
  | conclude result => exact .aside rfl rfl rfl (Ensemble.aside rfl) rfl
  | deliver | hangUp => exact .arrived rfl rfl ⟨rfl, rfl, rfl⟩ rfl
  | hear item =>
      simp only [undergo]
      split
      · next able =>
          obtain ⟨connected, reading⟩ := Bool.and_eq_true_iff.mp able
          exact .received rfl connected ⟨rfl, rfl, rfl⟩ reading reading (if_pos able)
      · next unable => exact .nothing rfl (if_neg unable)
  | transmit refused =>
      simp only [undergo]
      split
      · cases step : l.connection.write? (L := MeteredLink) refused with
        | none => exact .nothing rfl rfl
        | some done => exact .wrote step
      · exact .nothing rfl rfl

end LiveSession

end Livecast
