import Livecast.Proofs.Capture.Forwarding
import Livecast.Proofs.Session.Interleaving

/-!
# Captured media on their way to the server

What the producer reads of its input goes through two queues before the session sends it: the
producer's mailbox and the queue of posted events.  The media obey a law of conservation.  What was
read is what has been sent, followed by what is waiting in the session's queue, in the producer's
mailbox and in the producer itself, in this order; and what the input supplies is what was read,
followed by what can still be read.

## Main Definitions

* `Ensemble.bytesRead` - what the producer takes from its input in the course of a run
* `published` - the media that a log sends
* `Flow` - the law of conservation, in each stage of the session
* `Published` - the law of publishing

## Main Statements

* `Flow.read_once`, `Flow.fire`, `Flow.forward_once`, `Flow.outcome` - the producer, its timer, the
  forwarder and the session conserve the media
* `Carried.undergo` - so does every incident
* `Ensemble.run_published` - every run of a publishing session obeys the law of publishing

## Design Notes

The end of the device is a report like the others and comes after all of them.  That is why a
session that handles it has sent everything: whatever is before it in the queues has been handled.
A producer ends only when its input supplies nothing more, so this is everything that was supplied.
-/

namespace Livecast

/-! ## What is read, reported and sent -/

/-- The bytes that the next read takes. -/
def ReaderSource.next (s : ReaderSource) : Bytes :=
  match s.producing, s.pipe.unread with
  | some _, .data bytes :: _ => bytes.take s.chunk
  | _, _ => []

/-- The bytes that the next read of the source takes. -/
def CaptureLine.next (l : CaptureLine) : Bytes :=
  match l.source with
  | .reader s => s.next
  | .manual _ => []

/-- The bytes that an incident takes from the input of the source. -/
def Ensemble.readBy (r : Ensemble) : Incident → Bytes
  | .move .read => r.line.next
  | _ => []

theorem Ensemble.readBy_eq_nil (r : Ensemble) {i : Incident} (h : i ≠ .move .read) :
    r.readBy i = [] := by
  unfold readBy
  split
  · exact absurd rfl h
  · rfl

/-- The bytes that are taken from the input in the course of a run. -/
def Ensemble.bytesRead (r : Ensemble) : List Incident → Bytes
  | [] => []
  | i :: rest => r.readBy i ++ (r.undergo i).bytesRead rest

/-- The report of the source that an event passes on. -/
def Event.report? {L : Type} : Event L → Option SourceReport
  | .segment data => some (.segment data)
  | .deviceEnded => some .ended
  | _ => none

/-- The reports that are waiting to be handled. -/
def captured {L : Type} (events : List (Event L)) : List SourceReport :=
  events.filterMap Event.report?

/-- The media that a transmission brings to the server. -/
def Transmission.media? {L : Type} (s : Transmission L) : Option Bytes :=
  match s.accepted, s.frame with
  | true, .binary data => some data
  | _, _ => none

/-- The media that a log sends, segment by segment. -/
def published {L : Type} (log : List (Call L)) : List Bytes :=
  (transmissions log).filterMap Transmission.media?

/-- The media that a session has sent. -/
def Ensemble.published (r : Ensemble) : List Bytes :=
  Livecast.published (r.log.filterMap Activity.call?)

@[simp] theorem captured_append {L : Type} (events more : List (Event L)) :
    captured (events ++ more) = captured events ++ captured more :=
  List.filterMap_append

@[simp] theorem published_append {L : Type} (log more : List (Call L)) :
    published (log ++ more) = published log ++ published more := by
  simp [published]

/-! ## Producers -/

namespace Producer

/-- **A tick emits what is pending and keeps nothing.** -/
theorem tick_eq (p : Producer) : ∃ segments : List Bytes,
    p.tick = (fresh, segments.map .segment) ∧ segments.flatten = p.pending := by
  obtain ⟨pending⟩ := p
  cases pending with
  | nil => exact ⟨[], rfl, rfl⟩
  | cons b rest => exact ⟨[b :: rest], rfl, by simp⟩

end Producer

/-- **A read takes the next bytes that are supplied, or finds that nothing more is.** -/
theorem ReaderSource.readOnce?_cases {s next : ReaderSource} (h : s.readOnce? = some next) :
    ∃ p timer, s.producing = some (p, timer) ∧
      (next.producing = some (p.read s.next, timer) ∧ next.output = s.output ∧
          (∀ feeds, s.pipe.supply feeds = s.next ++ next.pipe.supply feeds) ∨
        s.next = [] ∧ next = s.complete p ∧ ∀ feeds, s.pipe.supply feeds = []) := by
  unfold readOnce? at h
  cases producing : s.producing with
  | none => simp [producing] at h
  | some worker =>
      obtain ⟨p, timer⟩ := worker
      refine ⟨p, timer, rfl, ?_⟩
      rw [producing] at h
      cases unread : s.pipe.unread with
      | nil =>
          rw [unread] at h
          cases writing : s.pipe.writing with
          | true => simp [writing] at h
          | false =>
              refine .inr ⟨by simp [ReaderSource.next, unread, producing], ?_,
                Pipe.supply_of_ended unread writing⟩
              simpa [writing] using h.symm
      | cons arrival rest =>
          rw [unread] at h
          cases arrival with
          | failure =>
              exact .inr ⟨by simp [ReaderSource.next, unread, producing],
                (Option.some.inj h).symm, Pipe.supply_of_failure unread⟩
          | data bytes =>
              have taken : s.next = bytes.take s.chunk := by
                simp [ReaderSource.next, unread, producing]
              cases h
              exact .inl ⟨by rw [taken], rfl, taken ▸ Pipe.supply_of_data unread s.chunk⟩

/-- A producer that cannot read takes nothing. -/
theorem ReaderSource.next_eq_nil {s : ReaderSource} (h : s.readOnce? = none) : s.next = [] := by
  unfold readOnce? at h
  unfold ReaderSource.next
  cases producing : s.producing with
  | none => rfl
  | some worker =>
      cases unread : s.pipe.unread with
      | nil => rfl
      | cons arrival rest => cases arrival <;> simp [producing, unread] at h

theorem CaptureLine.next_eq_nil {l : CaptureLine} (h : l.readOnce? = none) : l.next = [] := by
  unfold CaptureLine.next
  cases source : l.source with
  | manual => rfl
  | reader s => exact ReaderSource.next_eq_nil (by simpa [CaptureLine.readOnce?, source] using h)

/-! ## The law of conservation -/

/-- **The law of conservation** in each stage of a session: the reports that are waiting in its
queue, the media that it has sent, the bytes that were read, and those that the input will have
supplied in all, given what is still fed to it. -/
inductive Flow (line : CaptureLine) (waiting : List SourceReport) (sent read : Bytes)
    (total : List Feed → Bytes) : SessionStage → Prop where
  /-- The input has not been touched. -/
  | idle {s : ReaderSource} (source : line.source = .reader s) (untouched : s.idle = true)
      (silent : s.producing = none) (apart : line.forwarding = false) (unreported : waiting = [])
      (unsent : sent = []) (unread : read = [])
      (left : ∀ feeds, total feeds = s.pipe.supply feeds) :
      Flow line waiting sent read total .connecting
  /-- The producer reads and the forwarder forwards. -/
  | running {s : ReaderSource} {p : Producer} {t : Timer} (queued mailed : List Bytes)
      (source : line.source = .reader s) (producing : s.producing = some (p, t))
      (output : s.output = some ⟨mailed.map .segment, true, true⟩)
      (forwards : line.forwarding = true) (reported : waiting = queued.map .segment)
      (conserved : read = sent ++ queued.flatten ++ mailed.flatten ++ p.pending)
      (left : ∀ feeds, total feeds = read ++ s.pipe.supply feeds) :
      Flow line waiting sent read total .opened
  /-- The producer has read everything and ended, and the forwarder does not know yet. -/
  | finishing {s : ReaderSource} (queued mailed : List Bytes) (source : line.source = .reader s)
      (silent : s.producing = none)
      (output : s.output = some ⟨mailed.map .segment ++ [.ended], false, true⟩)
      (forwards : line.forwarding = true) (reported : waiting = queued.map .segment)
      (conserved : read = sent ++ queued.flatten ++ mailed.flatten)
      (left : ∀ feeds, total feeds = read) : Flow line waiting sent read total .opened
  /-- The forwarder has ended, and the session does not know yet. -/
  | ended {s : ReaderSource} (queued : List Bytes) (source : line.source = .reader s)
      (silent : s.producing = none) (apart : line.forwarding = false)
      (reported : waiting = queued.map .segment ++ [.ended])
      (conserved : read = sent ++ queued.flatten) (left : ∀ feeds, total feeds = read) :
      Flow line waiting sent read total .opened
  /-- The session has closed. -/
  | closed {s : ReaderSource} (source : line.source = .reader s) (silent : s.producing = none)
      (conserved : sent <+: read) (left : ∀ feeds, read <+: total feeds) :
      Flow line waiting sent read total .closed

namespace Flow

variable {line next : CaptureLine} {waiting : List SourceReport} {sent read : Bytes}
  {total : List Feed → Bytes} {stage : SessionStage}

/-- **What has been sent is the beginning of what was read.** -/
theorem sent_prefix (h : Flow line waiting sent read total stage) : sent <+: read := by
  cases h with
  | idle _ _ _ _ _ unsent => exact unsent ▸ List.nil_prefix
  | running _ _ _ _ _ _ _ conserved | finishing _ _ _ _ _ _ _ conserved
  | ended _ _ _ _ _ conserved => rw [conserved]; simp only [List.append_assoc, List.prefix_append]
  | closed _ _ conserved => exact conserved

/-- **What was read is the beginning of what the input supplies.** -/
theorem read_prefix (h : Flow line waiting sent read total stage) (feeds : List Feed) :
    read <+: total feeds := by
  cases h with
  | idle _ _ _ _ _ _ unread => exact unread ▸ List.nil_prefix
  | running _ _ _ _ _ _ _ _ left => exact ⟨_, (left feeds).symm⟩
  | finishing _ _ _ _ _ _ _ _ left | ended _ _ _ _ _ _ left => exact left feeds ▸ List.prefix_rfl
  | closed _ _ _ left => exact left feeds

theorem readOnce?_closed (h : Flow line waiting sent read total .closed) :
    line.readOnce? = none := by
  cases h with
  | closed source silent => simp [CaptureLine.readOnce?, source, ReaderSource.readOnce?, silent]

theorem of_closed (h : Flow line waiting sent read total .closed) (waiting' : List SourceReport) :
    Flow line waiting' sent read total .closed := by
  cases h with
  | closed source silent conserved left => exact .closed source silent conserved left

/-- **What is fed to the input is supplied.** -/
theorem feed (h : Flow line waiting sent read total stage) (act : Pipe → Pipe)
    (matters : Pipe → Bool) {f : Feed}
    (gives : ∀ (p : Pipe) (feeds : List Feed), (act p).supply feeds = p.supply (f :: feeds)) :
    Flow (line.feed act matters).1 waiting sent read (fun feeds => total (f :: feeds)) stage := by
  have fed {s : ReaderSource} (source : line.source = .reader s) : (line.feed act matters).1 =
      { line with source := .reader { s with pipe := act s.pipe } } := by
    simp [CaptureLine.feed, source]
  cases h with
  | idle source untouched silent apart unreported unsent unread left =>
      rw [fed source]
      exact .idle rfl untouched silent apart unreported unsent unread fun feeds => by
        rw [left, gives]
  | running queued mailed source producing output forwards reported conserved left =>
      rw [fed source]
      exact .running queued mailed rfl producing output forwards reported conserved fun feeds => by
        rw [left, gives]
  | finishing queued mailed source silent output forwards reported conserved left =>
      rw [fed source]
      exact .finishing queued mailed rfl silent output forwards reported conserved fun _ => left _
  | ended queued source silent apart reported conserved left =>
      rw [fed source]
      exact .ended queued rfl silent apart reported conserved fun _ => left _
  | closed source silent conserved left =>
      rw [fed source]
      exact .closed rfl silent conserved fun _ => left _

/-- A session whose next report is the end of its device has sent everything, and its input supplies
nothing more. -/
theorem eq_of_ended {rest : List SourceReport}
    (h : Flow line (.ended :: rest) sent read total .opened) :
    sent = read ∧ ∀ feeds, total feeds = read := by
  cases h with
  | running queued _ _ _ _ _ reported | finishing queued _ _ _ _ _ reported =>
      cases queued <;> simp at reported
  | ended queued _ _ _ reported conserved left =>
      cases queued with
      | nil => exact ⟨by simpa using conserved.symm, left⟩
      | cons first others => simp at reported

/-- Stopping the source ends the producer, and what has been sent stays sent. -/
theorem stop (h : Flow line waiting sent read total stage) (now : Nat)
    (waiting' : List SourceReport) :
    Flow (line.perform now .stop) waiting' sent read total .closed := by
  have silent (s : ReaderSource) (source : line.source = .reader s) :
      Flow (line.perform now .stop) waiting' sent read total .closed := by
    refine .closed (s := { s.stop with output := s.stop.output.map Mailbox.dropReceiver }) ?_ rfl
      h.sent_prefix h.read_prefix
    rw [CaptureLine.perform, source]
    rfl
  cases h with
  | idle source | running _ _ source | finishing _ _ source | ended _ source | closed source =>
      exact silent _ source

theorem start (h : Flow line waiting sent read total .connecting) (now : Nat) (cadence : Duration) :
    Flow (line.perform now (.start cadence)) waiting sent read total .opened := by
  cases h with
  | @idle s source untouched silent apart unreported unsent unread left =>
      refine .running (s := s.start cadence now) (p := .fresh) (t := .start cadence now) [] []
        ?_ ?_ ?_ ?_ unreported ?_ fun feeds => ?_
      · rw [CaptureLine.perform, source]
        rfl
      · rw [ReaderSource.start, if_pos untouched]
      · rw [ReaderSource.start, if_pos untouched]
        rfl
      · simp [CaptureLine.perform, source, Source.refusal, ReaderSource.refusal, untouched]
      · simp [unsent, unread, Producer.fresh]
      · -- the producer is given the input as it is
        rw [ReaderSource.start, if_pos untouched, left, unread, List.nil_append]

theorem refusal_eq_none (h : Flow line waiting sent read total .connecting) :
    line.source.refusal = none := by
  cases h with
  | idle source untouched => simp [source, Source.refusal, ReaderSource.refusal, untouched]

/-- **What is read was supplied, and is in the producer**; it goes to the mailbox when nothing more
is supplied. -/
theorem read_once (h : Flow line waiting sent read total stage)
    (step : line.readOnce? = some next) :
    Flow next waiting sent (read ++ line.next) total stage := by
  have idle {s : ReaderSource} (source : line.source = .reader s) (silent : s.producing = none) :
      Flow next waiting sent (read ++ line.next) total stage := by
    simp [CaptureLine.readOnce?, source, ReaderSource.readOnce?, silent] at step
  cases h with
  | idle source _ silent | finishing _ _ source silent | ended _ source silent
  | closed source silent => exact idle source silent
  | @running s p timer queued mailed source producing output forwards reported conserved left =>
      rw [CaptureLine.next, source]
      rw [CaptureLine.readOnce?, source] at step
      obtain ⟨s', read', rfl⟩ := Option.map_eq_some_iff.mp step
      obtain ⟨p', timer', producing', took | ⟨nothing, rfl, spent⟩⟩ := s.readOnce?_cases read'
      · obtain ⟨took, mail, rest⟩ := took
        obtain ⟨rfl, rfl⟩ := Prod.mk.inj (Option.some.inj (producing.symm.trans producing'))
        exact .running queued mailed rfl took (mail.trans output) forwards reported
          (by simp [conserved, Producer.read])
          fun feeds => by rw [left, rest, List.append_assoc]
      · obtain ⟨rfl, rfl⟩ := Prod.mk.inj (Option.some.inj (producing.symm.trans producing'))
        -- what is pending becomes a last segment, behind which comes the end
        obtain ⟨segments, emitted, whole⟩ := p.tick_eq
        refine .finishing queued (mailed ++ segments) rfl rfl ?_ forwards reported ?_
          fun feeds => ?_
        · simp [ReaderSource.complete, ReaderSource.emit, ReaderSource.halt, output,
            Producer.finish, emitted, Mailbox.sendAll_eq, Mailbox.accepts, Mailbox.dropSender]
        · simp [conserved, nothing, whole]
        · simp [left, nothing, spent]

/-- **A tick moves what is pending to the mailbox.** -/
theorem fire (h : Flow line waiting sent read total stage) (now : Nat) :
    Flow (line.fire now) waiting sent read total stage := by
  have idle {s : ReaderSource} (source : line.source = .reader s) (silent : s.producing = none) :
      Flow (line.fire now) waiting sent read total stage := by
    have resting : line.fire now = line := by
      simp [CaptureLine.fire, CaptureLine.due?, source, ReaderSource.due?, silent]
    rwa [resting]
  cases h with
  | idle source _ silent | finishing _ _ source silent | ended _ source silent
  | closed source silent => exact idle source silent
  | @running s p timer queued mailed source producing output forwards reported conserved left =>
      have due : line.due? = some timer.due := by
        simp [CaptureLine.due?, source, ReaderSource.due?, producing]
      simp only [CaptureLine.fire, due, source]
      split
      · obtain ⟨segments, emitted, whole⟩ := p.tick_eq
        refine .running (s := s.cut) (p := .fresh) (t := timer.next) queued (mailed ++ segments)
          rfl ?_ ?_ forwards reported ?_ fun feeds => ?_
        · simp [ReaderSource.cut, producing, emitted, output, Mailbox.accepts, ReaderSource.emit]
        · simp [ReaderSource.cut, producing, emitted, output, Mailbox.accepts, ReaderSource.emit,
            Mailbox.sendAll_eq]
        · simp [conserved, whole, Producer.fresh]
        · simp [ReaderSource.cut, producing, emitted, output, Mailbox.accepts, ReaderSource.emit,
            left]
      · exact .running queued mailed source producing output forwards reported conserved left

@[simp] theorem captured_segments {L : Type} (data : List Bytes) :
    captured (data.map fun d => (.segment d : Event L)) = data.map .segment := by
  simp [captured, List.filterMap_map, Function.comp_def, Event.report?]

theorem forward?_segment {L : Type} {queue : Mailbox (Event L)} {s : ReaderSource} {data : Bytes}
    {rest : List SourceReport} {sending : Bool} (source : line.source = .reader s)
    (forwards : line.forwarding = true)
    (output : s.output = some ⟨.segment data :: rest, sending, true⟩)
    (listens : queue.accepts = true) : ∃ posted : List Bytes, posted.flatten = data ∧
      line.forward? queue = some (⟨.reader { s with output := some ⟨rest, sending, true⟩ }, true⟩,
        { queue with items := queue.items ++ posted.map fun d => .segment d }) := by
  have took : line.source.report? = some (some (.segment data),
      .reader { s with output := some ⟨rest, sending, true⟩ }) := by
    simp [Source.report?, source, Source.output, output, Source.withOutput]
  rw [CaptureLine.forward?, if_pos forwards, took]
  cases data with
  | nil => exact ⟨[], rfl, by simp [Livecast.forward, Mailbox.sendAll]⟩
  | cons b bytes =>
      exact ⟨[b :: bytes], by simp, by simp [Livecast.forward, Mailbox.sendAll_eq, listens]⟩

/-- **A report that is forwarded moves from the mailbox to the queue.** -/
theorem forward_once {L : Type} {queue queue' : Mailbox (Event L)}
    (h : Flow line (captured queue.items) sent read total stage)
    (listens : stage ≠ .closed → queue.accepts = true)
    (step : line.forward? queue = some (next, queue')) :
    Flow next (captured queue'.items) sent read total stage := by
  cases h with
  | idle _ _ _ apart | ended _ _ _ apart => simp [CaptureLine.forward?, apart] at step
  | closed source silent conserved left =>
      obtain ⟨output, source'⟩ := CaptureLine.source_forward? step
      rw [source] at source'
      exact .closed source' silent conserved left
  | @running s p t queued mailed source producing output forwards reported conserved left =>
      cases mailed with
      | nil =>
          -- the mailbox is empty and its sender is there
          simp [CaptureLine.forward?, forwards, source, Source.report?, Source.output,
            output] at step
      | cons data mailed =>
          obtain ⟨posted, whole, step'⟩ :=
            forward?_segment source forwards output (listens (by simp))
          obtain ⟨rfl, rfl⟩ := Prod.mk.inj (Option.some.inj (step.symm.trans step'))
          refine .running (queued ++ posted) mailed rfl producing rfl rfl ?_ ?_ left
          · rw [captured_append, reported, captured_segments, List.map_append]
          · simp [conserved, whole]
  | @finishing s queued mailed source silent output forwards reported conserved left =>
      cases mailed with
      | nil =>
          have took : line.source.report? =
              some (some .ended, .reader { s with output := some ⟨[], false, true⟩ }) := by
            simp [Source.report?, source, Source.output, output, Source.withOutput]
          rw [CaptureLine.forward?, if_pos forwards, took] at step
          obtain ⟨rfl, rfl⟩ := Prod.mk.inj (Option.some.inj step)
          refine .ended queued rfl silent rfl ?_ (by simpa using conserved) left
          simp [Mailbox.sendAll_eq, listens, captured, Event.report?, ← reported]
      | cons data mailed =>
          obtain ⟨posted, whole, step'⟩ :=
            forward?_segment source forwards output (listens (by simp))
          obtain ⟨rfl, rfl⟩ := Prod.mk.inj (Option.some.inj (step.symm.trans step'))
          refine .finishing (queued ++ posted) mailed rfl silent rfl rfl ?_ ?_ left
          · rw [captured_append, reported, captured_segments, List.map_append]
          · simp [conserved, whole]

theorem queued_eq_cons {data : Bytes} {queued : List Bytes} (tail : List SourceReport)
    (other : ∀ d, tail.head? ≠ some (.segment d))
    (h : .segment data :: waiting = queued.map .segment ++ tail) :
    ∃ rest, queued = data :: rest ∧ waiting = rest.map .segment ++ tail := by
  cases queued with
  | nil => exact absurd (by rw [← show _ = tail from h]; rfl) (other data)
  | cons first rest =>
      obtain ⟨first', rfl⟩ := List.cons_eq_cons.mp h
      cases first'
      exact ⟨rest, rfl, rfl⟩

/-- **A segment that is sent moves from the queue to the server.** -/
theorem send {data : Bytes} (h : Flow line (.segment data :: waiting) sent read total .opened) :
    Flow line waiting (sent ++ data) read total .opened := by
  cases h with
  | running queued mailed source producing output forwards reported conserved left =>
      obtain ⟨rest, rfl, rfl⟩ := queued_eq_cons [] (by simp) (by simpa using reported)
      exact .running rest mailed source producing output forwards (by simp)
        (by simpa using conserved) left
  | finishing queued mailed source silent output forwards reported conserved left =>
      obtain ⟨rest, rfl, rfl⟩ := queued_eq_cons [] (by simp) (by simpa using reported)
      exact .finishing rest mailed source silent output forwards (by simp)
        (by simpa using conserved) left
  | ended queued source silent apart reported conserved left =>
      obtain ⟨rest, rfl, rfl⟩ := queued_eq_cons _ (by simp) reported
      exact .ended rest source silent apart rfl (by simpa using conserved) left

/-- A session that does not listen to reports has met none yet, or has closed. -/
theorem ignore {report : SourceReport} (h : Flow line (report :: waiting) sent read total stage)
    (heard : stage ≠ .opened) : Flow line waiting sent read total stage := by
  cases h with
  | idle _ _ _ _ unreported => simp at unreported
  | closed source silent conserved left => exact .closed source silent conserved left
  | _ => exact absurd rfl heard

end Flow

/-! ## The session's part -/

variable {L : Type}

/-- **What a session does about a report**: it sends a segment that is not empty, and closes with
the end of the device; everything else is not about media. -/
theorem response_report (stage : SessionStage) (event : Event L) :
    (event.report? = none ∧ ∀ data, response stage event ≠ .send (.binary data)) ∨
      (response stage event = .ignore ∧ (stage = .opened → event = .segment [])) ∨
      (stage = .opened ∧ event = .deviceEnded ∧ response stage event = .close) ∨
      (stage = .opened ∧ ∃ data, event = .segment data ∧
        response stage event = .send (.binary data)) := by
  rcases event with link | e | (data | content) | reason | _ | _ | _ | _ | data | signal | position
  case segment =>
    cases data <;> cases stage <;> simp [response]
  case deviceEnded => cases stage <;> simp [response]
  all_goals
    refine .inl ⟨rfl, fun _ => ?_⟩
    cases stage <;> simp [response, Frame.signal]

section

variable {m nextm : Machine L} {a : Answers} {calls : List (Call L)}

@[simp] theorem published_nil : published ([] : List (Call L)) = [] := rfl

theorem published_cons (c : Call L) (log : List (Call L)) :
    published (c :: log) = (c.transmission?.bind Transmission.media?).toList ++ published log := by
  rw [published, transmissions_cons, List.filterMap_append]
  cases h : c.transmission? with
  | none => rfl
  | some s => cases h : s.media? <;> simp [h, published]

theorem published_eq_nil (h : transmissions calls = []) : published calls = [] := by
  rw [published, h]
  rfl

/-- The law of conservation once a session that publishes has closed. -/
theorem Flow.ended_of_calls {line : CaptureLine} {waiting waiting' : List SourceReport}
    {sent read : Bytes} {total : List Feed → Bytes} {stage : SessionStage}
    (h : Flow line waiting sent read total stage) (now : Nat) (stops : sources calls = [.stop])
    (silent : published calls = []) :
    Flow ((sources calls).foldl (fun l call => l.perform now call) line) waiting'
      (sent ++ (published calls).flatten) read total .closed := by
  rw [stops, silent, List.flatten_nil, List.append_nil]
  exact h.stop now waiting'

/-- **Every event that a publishing session handles conserves the media.** -/
theorem Flow.outcome {line : CaptureLine} {sent read : Bytes} {total : List Feed → Bytes}
    {event : Event L} {rest : List SourceReport}
    (h : Flow line (event.report?.toList ++ rest) sent read total m.state) (now : Nat)
    (role : m.id.role = .publish) (start : a.start = line.source.refusal)
    (outcome : Machine.Outcome m a (response m.state event) nextm calls) :
    Flow ((sources calls).foldl (fun l call => l.perform now call) line) rest
      (sent ++ (published calls).flatten) read total nextm.state := by
  have teardown : published m.teardown = [] := published_eq_nil (by simp)
  have announced (n : Notice) : published (m.announce n) = [] := published_eq_nil (by simp)
  rcases response_report m.state event with
    ⟨nothing, other⟩ | ⟨ignores, empty⟩ | ⟨opened, rfl, closes⟩ | ⟨opened, data, rfl, sends⟩
  · -- the event is not about media
    rw [nothing, Option.toList_none, List.nil_append] at h
    generalize response m.state event = r at outcome other
    cases outcome with
    | established hstage =>
        rw [hstage] at h
        simpa [published_eq_nil, role] using h.start now m.settings.capture
    | startRefused hstage _ refused =>
        rw [hstage] at h
        rw [start, h.refusal_eq_none] at refused
        simp at refused
    | failed => exact h.ended_of_calls now (by simp [role]) (by simp [announced, teardown])
    | closed => exact h.ended_of_calls now (by simp [role]) teardown
    | refused =>
        refine h.ended_of_calls now (by simp [Call.source?, role]) ?_
        simp [published_cons, Call.transmission?, Transmission.media?, announced, teardown]
    | @sent link frame =>
        cases frame with
        | binary data => exact absurd rfl (other data)
        | text =>
            simpa [published_cons, Call.transmission?, Transmission.media?, Call.source?] using h
    | discarded | received =>
        simpa [published_cons, Call.transmission?, Call.source?] using h
    | warned => simpa [announced] using h
    | _ => simpa using h
  · -- the session is not open, or there is nothing in the segment
    rw [ignores] at outcome
    cases outcome
    cases report : event.report? with
    | none => simpa [report] using h
    | some report' =>
        rw [report, Option.toList_some, List.singleton_append] at h
        by_cases opened : m.state = .opened
        · obtain rfl := empty opened
          cases report
          rw [opened] at h ⊢
          exact h.send
        · simpa using h.ignore opened
  · -- the device has ended
    rw [closes] at outcome
    cases outcome
    exact h.ended_of_calls now (by simp [role]) teardown
  · -- a segment is sent
    rw [sends] at outcome
    cases outcome with
    | sent hstage hlink hsend =>
        rw [opened] at h ⊢
        simpa [published_cons, Call.transmission?, Transmission.media?, Call.source?] using h.send
    | refused hstage hlink hsend =>
        refine h.ended_of_calls now (by simp [Call.source?, role]) ?_
        simp [published_cons, Call.transmission?, Transmission.media?, announced, teardown]

/-- There is one way to close cleanly. -/
theorem Machine.Outcome.eq_of_close (outcome : Machine.Outcome m a .close nextm calls) :
    nextm = m.ended none ∧ calls = m.teardown := by
  cases outcome
  exact ⟨rfl, rfl⟩

theorem ne_nil_of_published {event : Event L}
    (outcome : Machine.Outcome m a (response m.state event) nextm calls) :
    ∀ data ∈ published calls, data ≠ [] := by
  intro data hdata
  obtain ⟨s, hs, media⟩ := List.mem_filterMap.mp hdata
  have asked := List.mem_map_of_mem (f := Transmission.frame) hs
  rw [outcome.sent_frames, Option.mem_toList] at asked
  have frame : s.frame = .binary data := by
    unfold Transmission.media? at media
    split at media
    · next took sent => rw [sent, Option.some.inj media]
    · simp at media
  have sent := Turn.outbound?_ne_empty ⟨m.state, event, a, calls, nextm.state⟩
  rw [Turn.outbound?_eq, asked, frame] at sent
  simpa using sent

end

/-! ## The whole way -/

theorem report?_wish (w : Wish) : (w.event : Event L).report? = none := by
  cases w <;> rfl

theorem report?_outside (o : Outside) : (o.event : Event L).report? = none := by
  cases o with
  | wish w => exact report?_wish w
  | _ => rfl

theorem SessionTask.report?_result {t : SessionTask L} {event : Event L}
    (h : t.result? = some event) : event.report? = none := by
  unfold result? at h
  split at h
  · next result _ _ =>
      obtain rfl := Option.some.inj h
      cases result <;> rfl
  · simp at h

theorem captured_sendAll {m : Mailbox (Event L)} {events : List (Event L)}
    (h : ∀ event ∈ events, event.report? = none) :
    captured (m.sendAll events).items = captured m.items := by
  rw [Mailbox.sendAll_eq]
  split
  · have quiet : captured events = [] := List.filterMap_eq_nil_iff.mpr h
    simp [quiet]
  · rfl

/-- **What is true of a publishing session and its surroundings** after the turns `ts`, in which it
has read `read` of the `total` that its input will have supplied. -/
structure Carried (ts : List (Turn MeteredLink)) (read : Bytes) (total : List Feed → Bytes)
    (r : Ensemble) : Prop where
  /-- The session owns what belongs to its stage. -/
  sound : r.task.machine.Sound
  /-- It publishes. -/
  publishes : r.task.machine.id.role = .publish
  /-- Its observers have wishes. -/
  observed : ∃ observers : List (Option Wishes),
    r.observers = observers.map (Option.map Wishes.reactions)
  /-- Its queue takes events until it has closed. -/
  listens : r.task.machine.state ≠ .closed → r.task.queue.accepts = true
  /-- The media are conserved. -/
  flow : Flow r.line (captured r.task.queue.items) r.published.flatten read total
    r.task.machine.state
  /-- No empty segment has been sent. -/
  not_empty : ∀ data ∈ r.published, data ≠ []
  /-- If the device has ended everything that the input supplies has been sent, and nothing has
  failed. -/
  complete : (∃ t ∈ ts, t.before = .opened ∧ t.event = .deviceEnded) →
    r.task.machine.state = .closed ∧ r.task.machine.failure = none ∧
      r.published.flatten = read ∧ ∀ feeds, total feeds = read

namespace Carried

variable {ts : List (Turn MeteredLink)} {read : Bytes} {total : List Feed → Bytes}
  {r next : Ensemble} {i : Incident}

/-- What is posted from outside is not about media. -/
theorem posted (h : Carried ts read total r) {event : Event MeteredLink}
    (quiet : event.report? = none) : Carried ts read total (r.post event) := by
  refine { h with listens := fun unclosed => ?_, flow := ?_ }
  · simpa [Ensemble.post, SessionTask.post] using h.listens unclosed
  · have same : captured (r.post event).task.queue.items = captured r.task.queue.items := by
      simp only [Ensemble.post, SessionTask.post, Mailbox.send]
      split <;> simp [captured, quiet]
    rw [same]
    exact h.flow

/-- A connection that is cut off has nothing to do with what was sent over it. -/
theorem cutOff (h : Carried ts read total r) (refusal : SessionFailure) :
    Carried ts read total (r.cutOff refusal) :=
  { h with sound := Ensemble.sound_cutOff h.sound refusal }

/-- What is fed to the input is supplied. -/
theorem fed (h : Carried ts read total r) (act : Pipe → Pipe) (matters : Pipe → Bool) {f : Feed}
    (gives : ∀ (p : Pipe) (feeds : List Feed), (act p).supply feeds = p.supply (f :: feeds)) :
    Carried ts read (fun feeds => total (f :: feeds))
      { r with line := (r.line.feed act matters).1 } := by
  refine { h with flow := h.flow.feed act matters gives, complete := fun ended => ?_ }
  obtain ⟨closed, faultless, sent, whole⟩ := h.complete ended
  exact ⟨closed, faultless, sent, fun feeds => whole _⟩

/-- **Incidents that are not events of the session conserve the media.** -/
theorem aside (h : Carried ts read total r) (now : Ensemble.Aside r i next) :
    Carried ts (read ++ r.readBy i) (fun feeds => total (i.feeds ++ feeds)) next := by
  by_cases reads : i = .move .read
  · subst reads
    cases now with
    | waits _ _ starved =>
        have nothing : r.readBy (.move .read) = [] := CaptureLine.next_eq_nil (starved rfl)
        rw [nothing, List.append_nil]
        exact h
    | @read line step =>
        refine { h with flow := h.flow.read_once step, complete := fun ended => ?_ }
        -- nothing is read any more if the device has ended
        have flow := h.flow
        rw [(h.complete ended).1] at flow
        simp [flow.readOnce?_closed] at step
  · rw [r.readBy_eq_nil reads, List.append_nil]
    cases now with
    | waits _ unfed =>
        rw [unfed]
        exact h
    | read => exact absurd rfl reads
    | @forwarded line queue step =>
        refine { h with flow := h.flow.forward_once h.listens step, listens := fun unclosed => ?_ }
        obtain ⟨report, posted⟩ := CaptureLine.queue_forward? step
        rw [posted, Mailbox.accepts_sendAll]
        exact h.listens unclosed
    | posted o => exact h.posted (report?_outside o)
    | cutOff refusal => exact h.cutOff refusal
    | cut => exact { h with flow := h.flow.fire r.now }
    | arrived arrival => exact h.fed _ _ fun p feeds => p.supply_write arrival feeds
    | exhausted => exact h.fed _ _ Pipe.supply_finish
    | wrote | concluded | clock => exact { h with }

/-- Whoever observes a publishing session says nothing about media. -/
theorem report?_echo (h : Carried ts read total r) (activity : Activity MeteredLink) :
    ∀ event ∈ r.echo activity, event.report? = none := by
  obtain ⟨observers, wishes⟩ := h.observed
  obtain ⟨asked, said, -⟩ := Ensemble.echo_wishes wishes activity
  rw [said]
  intro event hevent
  obtain ⟨w, -, rfl⟩ := List.mem_map.mp hevent
  exact report?_wish w

/-- **The events of the session conserve the media.** -/
theorem taking (h : Carried ts read total r) {event : Event MeteredLink}
    {rest : List (Event MeteredLink)} {shake : Handshake MeteredLink}
    (now : Ensemble.Taking r event rest shake next)
    (waiting : captured r.task.queue.items = event.report?.toList ++ captured rest) :
    Carried (ts ++ [r.task.machine.turn event r.answers]) read total next := by
  have outcome := h.sound.handle_outcome r.answers event
  have machine := now.machine
  have published : next.published =
      r.published ++ Livecast.published (r.task.machine.handle r.answers event).2 := by
    rw [Ensemble.published, now.calls, published_append]
    rfl
  have flow := h.flow
  rw [waiting] at flow
  have flow' := flow.outcome r.now h.publishes rfl outcome
  rw [← machine, ← now.line, ← List.flatten_append, ← published] at flow'
  refine ⟨?_, ?_, ?_, fun unclosed => ?_, ?_, ?_, ?_⟩
  · rw [machine]
    exact outcome.sound h.sound
  · rw [machine, outcome.unchanged.1, h.publishes]
  · rw [now.observers.1]
    exact h.observed
  · rw [now.queue unclosed, Mailbox.accepts_sendAll]
    exact h.listens now.unclosed
  · by_cases closed : next.task.machine.state = .closed
    · rw [closed] at flow' ⊢
      exact flow'.of_closed _
    · rw [now.queue closed]
      rw [captured_sendAll fun event' hevent => ?_]
      · exact flow'
      · obtain ⟨c, -, hc⟩ := List.mem_flatMap.mp hevent
        exact h.report?_echo _ event' hc
  · rw [published]
    intro data hdata
    rcases List.mem_append.mp hdata with hdata | hdata
    · exact h.not_empty data hdata
    · exact ne_nil_of_published outcome data hdata
  · rintro ⟨t, ht, before, ended⟩
    rcases List.mem_append.mp ht with ht | ht
    · exact absurd (h.complete ⟨t, ht, before, ended⟩).1 now.unclosed
    · -- the reports come in order, so whatever was read has been sent before the end of the device
      obtain rfl := List.mem_singleton.mp ht
      obtain rfl : event = .deviceEnded := ended
      have opened : r.task.machine.state = .opened := before
      rw [opened] at flow outcome
      obtain ⟨closed, calls⟩ := Machine.Outcome.eq_of_close outcome
      refine ⟨by rw [machine, closed]; rfl, by rw [machine, closed]; rfl, ?_⟩
      rw [published, calls, published_eq_nil (by simp), List.append_nil]
      exact flow.eq_of_ended

/-- **Every incident conserves the media.** -/
theorem undergo (h : Carried ts read total r) (i : Incident) :
    Carried (ts ++ (r.turn? i).toList) (read ++ r.readBy i)
      (fun feeds => total (i.feeds ++ feeds)) (r.undergo i) := by
  unfold Ensemble.turn?
  cases taken : r.taken? i with
  | none => simpa using h.aside (Ensemble.aside taken)
  | some event =>
      have still : r.readBy i = [] := by
        refine r.readBy_eq_nil ?_
        rintro rfl
        simp [Ensemble.taken?] at taken
      have unfed : i.feeds = [] := by
        cases i with
        | arrive | exhaust => simp [Ensemble.taken?] at taken
        | _ => rfl
      rw [still, unfed, List.append_nil]
      rcases Ensemble.taking taken with ⟨⟨oldest, -⟩, now⟩ | ⟨result, now⟩
      · refine h.taking now ?_
        rw [captured, ← SessionTask.items_eq_cons oldest, filterMap_cons_toList]
        rfl
      · refine h.taking now ?_
        rw [SessionTask.report?_result result]
        rfl

theorem run (h : Carried ts read total r) (is : List Incident) :
    Carried (ts ++ r.turns is) (read ++ r.bytesRead is)
      (fun feeds => total (is.flatMap Incident.feeds ++ feeds)) (r.run is) := by
  induction is generalizing ts read total r with
  | nil => simpa [Ensemble.turns, Ensemble.bytesRead] using h
  | cons i rest ih =>
      rw [Ensemble.turns, Ensemble.bytesRead, Ensemble.run_cons, ← List.append_assoc,
        ← List.append_assoc]
      simpa only [List.flatMap_cons, List.append_assoc] using ih (h.undergo i)

end Carried

theorem carried_ofSession (channel key : String) (settings : SessionPolicy) (url : Option String)
    (label : String) (chunk : Nat) (pipe : Pipe) (observers : List (Option Wishes)) :
    Carried [] [] pipe.supply (.ofSession ⟨channel, key, .publish⟩ settings url
      (.reader (.ofPipe label chunk pipe)) none
      (observers.map (Option.map Wishes.reactions))) where
  sound := Machine.sound_fresh _ _ _
  publishes := rfl
  observed := ⟨observers, rfl⟩
  listens := fun _ => rfl
  flow := by
    refine .idle rfl rfl rfl rfl rfl ?_ rfl fun _ => rfl
    cases url <;> rfl
  not_empty := by
    intro data hdata
    cases url <;> cases hdata
  complete := by simp

/-- **The law of publishing** for a session that did the turns `ts`, whose input has supplied
`supplied`, that read the bytes `read` of it and sent the segments `sent`, and for its report, if it
has ended. -/
structure Published (supplied : Bytes) (ts : List (Turn MeteredLink)) (read : Bytes)
    (sent : List Bytes) (report? : Option SessionSummary) : Prop where
  /-- What was read is the beginning of what was supplied. -/
  drawn : read <+: supplied
  /-- What has been sent is the beginning of what was read. -/
  in_order : sent.flatten <+: read
  /-- No empty segment was sent. -/
  not_empty : ∀ data ∈ sent, data ≠ []
  /-- If the session closed because its device ended, everything that was supplied has been read and
  sent, and the session reports no failure. -/
  complete : (∃ t ∈ ts, t.before = .opened ∧ t.event = .deviceEnded) →
    sent.flatten = read ∧ read = supplied ∧
      ∃ summary, report? = some summary ∧ summary.failure = none

/-- **Every run of a session that publishes a byte stream obeys the law of publishing**, whatever
arrives on the stream and whenever it ends or fails, whatever the observers and callers of the
session ask for, whatever its connection does, and in whichever order the tasks do their steps. -/
theorem Ensemble.run_published (channel key : String) (settings : SessionPolicy)
    (url label : String) (chunk : Nat) (pipe : Pipe) (observers : List (Option Wishes))
    (is : List Incident) :
    let r := Ensemble.ofSession ⟨channel, key, .publish⟩ settings (some url)
      (.reader (.ofPipe label chunk pipe)) none (observers.map (Option.map Wishes.reactions))
    Published (pipe.supply (is.flatMap Incident.feeds)) (r.turns is) (r.bytesRead is)
      (r.run is).published (r.run is).task.report? := by
  intro r
  have fresh := carried_ofSession channel key settings (some url) label chunk pipe observers
  have carried := fresh.run is
  have drawn := carried.flow.read_prefix []
  rw [List.nil_append] at carried drawn
  rw [List.append_nil] at drawn
  refine ⟨drawn, carried.flow.sent_prefix, carried.not_empty, fun ended => ?_⟩
  obtain ⟨closed, faultless, sent, whole⟩ := carried.complete ended
  have all := whole []
  rw [List.nil_append, List.append_nil] at all
  exact ⟨sent, all.symm, _, (SessionTask.report?_eq_some _ _).mpr ⟨closed, rfl⟩, faultless⟩

/-- Three bytes are there from the start, of which two are read at once, and a fourth arrives before
the stream ends.  A clock tick cuts the first two off, the server reports an error and a heartbeat
is sent in between, and all four bytes are sent. -/
theorem Ensemble.run_published_pieces :
    let pipe : Pipe := ⟨[.data [1, 2, 3]], true, true⟩
    let r := Ensemble.ofSession ⟨"c", "k", .publish⟩ .standard (some "u")
      (.reader (.ofPipe "input" 2 pipe)) none [none]
    let is : List Incident := [.conclude (.ok ⟨"link", none, .transport ""⟩), .move .take,
      .move .read, .clock 10000000000, .cut, .move .read, .move .forward,
      .post (.message (.text "ERROR: full")), .move .take, .post .beat, .arrive (.data [4]),
      .exhaust, .move .read, .move .read, .move .take, .move .forward, .move .forward, .move .take,
      .move .take, .move .take]
    (∃ t ∈ r.turns is, t.before = .opened ∧ t.event = .deviceEnded) ∧
      (r.run is).published = [[1, 2], [3, 4]] ∧ r.bytesRead is = [1, 2, 3, 4] ∧
      pipe.supply (is.flatMap Incident.feeds) = [1, 2, 3, 4] ∧
      ∃ summary, (r.run is).task.report? = some summary ∧ summary.failure = none := by
  intro pipe r is
  have law := run_published "c" "k" .standard "u" "input" 2 pipe [none] is
  have ended : ∃ t ∈ r.turns is, t.before = .opened ∧ t.event = .deviceEnded := by decide
  have pieces : (r.run is).published = [[1, 2], [3, 4]] := by decide
  obtain ⟨sent, whole, report⟩ := law.complete ended
  have read : r.bytesRead is = [1, 2, 3, 4] := sent.symm.trans (congrArg List.flatten pieces)
  exact ⟨ended, pieces, read, whole.symm.trans read, report⟩

end Livecast
