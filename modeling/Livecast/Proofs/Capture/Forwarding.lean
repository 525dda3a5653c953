import Livecast.Capture.Line

/-!
# What a tap lets through

A tap passes on what its source reports: the segments that are not empty, and once that the device
has ended, be it that the source says so or that it goes away.  Whatever happens to the tap and to
the queue in the meantime, the session is told a beginning of this, and all of it if the forwarder
ends by itself.  Over its whole life the source is stopped once, whether it started or not.

## Main Definitions

* `relayed` - what is to be passed on
* `Capture.Deed` - what happens to a started capture
* `Capture.Relays` - the law of forwarding
* `Capture.lifeCalls`, `Capture.finalSource` - what is asked of a source over its life, and what
  becomes of it

## Main Statements

* `Capture.Progress.after` - one step keeps what is passed on in line with what is reported
* `Capture.forwards_and_releases` - every capture obeys the law, and stops its source once
-/

namespace Livecast

variable {L : Type}

/-! ## What is to be passed on -/

/-- What reports are passed on as, where `closed` says that no further ones will come. -/
def relayed (closed : Bool) : List SourceReport → List (Event L)
  | [] => if closed then [.deviceEnded] else []
  | .ended :: _ => [.deviceEnded]
  | .segment data :: rest =>
    if data = [] then relayed closed rest else .segment data :: relayed closed rest

/-- Segments are passed on one by one, and what follows them behind them. -/
theorem relayed_append {reports : List SourceReport} (goes : .ended ∉ reports) (closed : Bool)
    (more : List SourceReport) :
    (relayed closed (reports ++ more) : List (Event L)) =
      relayed false reports ++ relayed closed more := by
  induction reports with
  | nil => rfl
  | cons r rest ih =>
      obtain ⟨first, later⟩ := List.ne_and_not_mem_of_not_mem_cons goes
      cases r with
      | ended => exact absurd rfl first
      | segment data =>
          rw [List.cons_append, relayed, relayed, ih later]
          split <;> rfl

/-- Nothing behind the end is passed on. -/
theorem relayed_of_ended {reports : List SourceReport} (ended : .ended ∈ reports)
    (closed : Bool) (more : List SourceReport) :
    (relayed closed (reports ++ more) : List (Event L)) = relayed true reports := by
  induction reports with
  | nil => cases ended
  | cons r rest ih =>
      cases r with
      | ended => rfl
      | segment data =>
          have later : .ended ∈ rest := by simpa using ended
          rw [List.cons_append, relayed, relayed, ih later]

/-- Once the device has ended, it does not matter whether further reports could come. -/
theorem relayed_of_final {reports : List SourceReport} {closed : Bool}
    (final : .ended ∈ reports ∨ closed = true) :
    (relayed closed reports : List (Event L)) = relayed true reports := by
  rcases final with ended | rfl
  · have same := relayed_of_ended (L := L) ended closed []
    rwa [List.append_nil] at same
  · rfl

/-- **What is passed on** are segments that are not empty, and behind them the end of the device,
once, if it has ended. -/
theorem exists_relayed (closed : Bool) (reports : List SourceReport) :
    ∃ segments : List Bytes, (∀ data ∈ segments, data ≠ []) ∧
      (relayed closed reports : List (Event L)) = segments.map .segment ++
        (if closed = true ∨ .ended ∈ reports then [.deviceEnded] else []) := by
  induction reports with
  | nil => exact ⟨[], by simp, by cases closed <;> simp [relayed]⟩
  | cons r rest ih =>
      cases r with
      | ended => exact ⟨[], by simp, by simp [relayed]⟩
      | segment data =>
          obtain ⟨segments, full, same⟩ := ih
          by_cases empty : data = []
          · exact ⟨segments, full, by simp [relayed, empty, same]⟩
          · refine ⟨data :: segments, ?_, by simp [relayed, empty, same]⟩
            exact List.forall_mem_cons.mpr ⟨empty, full⟩

/-! ## Sources -/

namespace Source

@[simp] theorem output_withOutput (s : Source) (output : Option (Mailbox SourceReport)) :
    (s.withOutput output).output = output := by
  cases s <;> rfl

/-- A stopped source has no sender. -/
theorem output_stop (s : Source) (now : Nat) :
    (s.perform now .stop).output = s.output.map Mailbox.dropSender := by
  cases s <;> rfl

/-- A source that does not refuse starts with a new mailbox. -/
theorem output_start {s : Source} (h : s.refusal = none) (now : Nat) (cadence : Duration) :
    (s.perform now (.start cadence)).output = some .fresh := by
  cases s with
  | manual s =>
      have willing : s.refusal = none := h
      simp [perform, output, ManualSource.start, willing]
  | reader s =>
      have idle : s.idle = true := by
        cases called : s.idle with
        | true => rfl
        | false => simp [refusal, ReaderSource.refusal, called] at h
      simp [perform, output, ReaderSource.start, idle]

/-- How often the source was stopped, if it counts that. -/
def stops? : Source → Option Nat
  | manual s => some s.stops
  | reader _ => none

@[simp] theorem stops?_withOutput (s : Source) (output : Option (Mailbox SourceReport)) :
    (s.withOutput output).stops? = s.stops? := by
  cases s <;> rfl

theorem withOutput_withOutput (s : Source) (output more : Option (Mailbox SourceReport)) :
    (s.withOutput output).withOutput more = s.withOutput more := by
  cases s <;> rfl

/-- A report is taken from the mailbox alone. -/
theorem eq_of_report? {s next : Source} {report : Option SourceReport}
    (h : s.report? = some (report, next)) : ∃ output, next = s.withOutput output := by
  rw [report?] at h
  split at h
  · cases h
  · split at h
    · obtain ⟨-, rfl⟩ := Prod.mk.inj (Option.some.inj h)
      exact ⟨_, rfl⟩
    · split at h
      · cases h
      · obtain ⟨-, rfl⟩ := Prod.mk.inj (Option.some.inj h)
        exact ⟨s.output, by cases s <;> rfl⟩

end Source

/-- Every call to stop is counted. -/
theorem CaptureLine.stops?_perform (l : CaptureLine) (call : SourceCall) :
    (l.perform 0 call).source.stops? =
      l.source.stops?.map (· + if call = .stop then 1 else 0) := by
  obtain ⟨source, forwarding⟩ := l
  cases call with
  | stop =>
      rw [perform, Source.dropReceiver, Source.stops?_withOutput]
      cases source <;> rfl
  | start cadence =>
      cases source with
      | manual s =>
          have same : (s.start cadence).stops = s.stops := by
            rw [ManualSource.start]
            split <;> rfl
          simp [perform, Source.perform, Source.stops?, same]
      | reader s => rfl

theorem CaptureLine.stops?_foldl (l : CaptureLine) (calls : List SourceCall) :
    (calls.foldl (fun l call => l.perform 0 call) l).source.stops? =
      l.source.stops?.map (· + calls.count .stop) := by
  induction calls generalizing l with
  | nil => simp
  | cons call rest ih =>
      rw [List.foldl_cons, ih, stops?_perform, Option.map_map]
      congr 1
      funext n
      simp only [Function.comp_apply, List.count_cons, beq_iff_eq]
      omega

/-- The forwarder changes nothing of the source but its mailbox. -/
theorem CaptureLine.source_forward? {L : Type} {l next : CaptureLine}
    {queue queue' : Mailbox (Event L)} (h : l.forward? queue = some (next, queue')) :
    ∃ output, next.source = l.source.withOutput output := by
  rw [forward?] at h
  split at h
  · obtain ⟨⟨report, source⟩, taken, made⟩ := Option.map_eq_some_iff.mp h
    obtain ⟨output, rfl⟩ := Source.eq_of_report? taken
    -- The source stays as the report left it, or loses its receiver.
    have kept (going : Bool) : ∃ output',
        (if going then ⟨l.source.withOutput output, true⟩
          else ⟨(l.source.withOutput output).dropReceiver, false⟩ : CaptureLine).source =
            l.source.withOutput output' := by
      cases going with
      | true => exact ⟨_, rfl⟩
      | false => exact ⟨_, Source.withOutput_withOutput _ _ _⟩
    rw [← (Prod.mk.inj made).1]
    exact kept _
  · cases h

/-! ## What happens to a capture -/

namespace Capture

/-- What happens to a started capture. -/
inductive Deed where
  /-- The source puts a report on its mailbox. -/
  | report (r : SourceReport)
  /-- The source goes away. -/
  | vanish
  /-- The forwarder takes one report, if there is one. -/
  | forward
  /-- The tap is stopped. -/
  | stop
  /-- The tap is dropped. -/
  | drop
  /-- The session takes what was posted. -/
  | collect
  /-- The session goes away. -/
  | quit
deriving DecidableEq

/-- The tap is stopped, directly or because it is dropped. -/
def Deed.releases : Deed → Bool
  | stop | drop => true
  | _ => false

/-- The mailbox of the source. -/
def channel (c : Capture L) : Option (Mailbox SourceReport) := c.line.source.output

/-- The capture after something has happened to the mailbox of its source. -/
def withChannel (c : Capture L) (act : Mailbox SourceReport → Mailbox SourceReport) : Capture L :=
  { c with line := { c.line with source := c.line.source.withOutput (c.channel.map act) } }

/-- The capture after a deed. -/
def after (c : Capture L) : Deed → Capture L
  | .report r => c.withChannel (·.send r)
  | .vanish => c.withChannel Mailbox.dropSender
  | .forward =>
    match c.line.forward? c.queue with
    | some (line, queue) => { c with line := line, queue := queue }
    | none => c
  | .stop => c.stop
  | .drop => c.drop
  | .collect => { c with queue := c.queue.drain.2 }
  | .quit => { c with queue := c.queue.dropReceiver }

/-- The source has gone away. -/
def closed (c : Capture L) : Bool := (c.channel.map fun m => !m.sending).getD true

/-- What the source puts on its mailbox. -/
def emits (c : Capture L) : Deed → List SourceReport
  | .report r => if c.closed then [] else [r]
  | _ => []

/-- What is in the queue of the session since then, behind what was in it before. -/
def posts (c : Capture L) (d : Deed) : List (Event L) :=
  (c.after d).queue.items.drop c.queue.items.length

/-- What is asked of the source. -/
def calls (c : Capture L) : Deed → List SourceCall
  | .stop | .drop => (c.tap.map fun tap => tap.stop.2).getD []
  | _ => []

/-- The capture after several deeds. -/
def run (c : Capture L) (deeds : List Deed) : Capture L := deeds.foldl after c

/-- What is seen of several deeds. -/
def seen {β : Type} (see : Capture L → Deed → List β) (c : Capture L) : List Deed → List β
  | [] => []
  | d :: rest => see c d ++ seen see (c.after d) rest

/-- **The law of forwarding.** -/
structure Relays (c : Capture L) (deeds : List Deed) : Prop where
  /-- What is posted is a beginning of what is to be passed on. -/
  in_order : c.seen posts deeds <+: relayed (c.run deeds).closed (c.seen emits deeds)
  /-- If the forwarder has ended although nobody has stopped it and the session is there, all of it
  is posted, and the device has ended. -/
  complete : (c.run deeds).line.forwarding = false → (∀ d ∈ deeds, d.releases = false ∧ d ≠ .quit) →
    c.seen posts deeds = relayed (c.run deeds).closed (c.seen emits deeds) ∧
      Event.deviceEnded ∈ c.seen posts deeds
  /-- If the forwarder waits, it has passed on everything so far. -/
  caught_up : (c.run deeds).line.forwarding = true →
    (c.run deeds).line.forward? (c.run deeds).queue = none →
      c.seen posts deeds = relayed (c.run deeds).closed (c.seen emits deeds)

/-! ## How far the forwarder has come -/

variable {c : Capture L} {line : CaptureLine} {past : List Deed} {emitted : List SourceReport}
  {posted : List (Event L)} {asked : List SourceCall}

/-- The forwarder runs, and has passed on what it has handled of what the source has put on its
mailbox. -/
structure Underway (line : CaptureLine) (m : Mailbox SourceReport) (handled emitted :
    List SourceReport) (posted : List (Event L)) : Prop where
  /-- It runs. -/
  forwards : line.forwarding = true
  /-- This is the mailbox. -/
  channel : line.source.output = some m
  /-- It listens. -/
  hears : m.receiving = true
  /-- What is not handled is under way. -/
  so_far : emitted = handled ++ m.items
  /-- The end is not handled. -/
  goes : .ended ∉ handled
  /-- What is handled is passed on. -/
  passed : posted = relayed false handled

/-- How far the forwarder has come, after what the source has put on its mailbox and what was
posted. -/
inductive Stage (line : CaptureLine) (past : List Deed) (emitted : List SourceReport)
    (posted : List (Event L)) : Prop
  /-- It runs. -/
  | forwarding {m : Mailbox SourceReport} {handled : List SourceReport}
      (here : Underway line m handled emitted posted)
  /-- It has ended by itself, and has passed on everything. -/
  | spent {m : Mailbox SourceReport} (apart : line.forwarding = false)
      (channel : line.source.output = some m) (final : .ended ∈ emitted ∨ m.sending = false)
      (passed : posted = relayed true emitted)
  /-- It was ended before. -/
  | cutOff {m : Mailbox SourceReport} {handled : List SourceReport}
      (apart : line.forwarding = false) (channel : line.source.output = some m)
      (so_far : handled <+: emitted) (goes : .ended ∉ handled)
      (passed : posted = relayed false handled)
      (cause : ∃ d ∈ past, d.releases = true ∨ d = .quit)

/-- Whether the tap was stopped, and how often the source was. -/
inductive Held (tap : Option SourceTap) (past : List Deed) (asked : List SourceCall) : Prop
  /-- Nobody has stopped it. -/
  | running (tap_eq : tap = some ⟨true⟩) (unreleased : ∀ d ∈ past, d.releases = false)
      (unasked : asked.count .stop = 0)
  /-- It was stopped, and the source once. -/
  | released (tap_ne : tap ≠ some ⟨true⟩) (released : ∃ d ∈ past, d.releases = true)
      (once : asked.count .stop = 1)

/-- What is true of a capture after some deeds. -/
structure Progress (c : Capture L) (past : List Deed) (emitted : List SourceReport)
    (posted : List (Event L)) (asked : List SourceCall) : Prop where
  /-- The queue has a sender. -/
  sends : c.queue.sending = true
  /-- The queue has its receiver unless the session has gone. -/
  hears : .quit ∉ past → c.queue.receiving = true
  /-- The source was stopped with the tap. -/
  held : Held c.tap past asked
  /-- The forwarder has come some way. -/
  stage : Stage c.line past emitted posted

/-- More deeds make no difference by themselves. -/
theorem Stage.later (h : Stage line past emitted posted) (d : Deed) :
    Stage line (past ++ [d]) emitted posted := by
  cases h with
  | forwarding here => exact .forwarding here
  | spent apart channel final passed => exact .spent apart channel final passed
  | cutOff apart channel so_far goes passed cause =>
      obtain ⟨e, he, why⟩ := cause
      exact .cutOff apart channel so_far goes passed ⟨e, List.mem_append_left _ he, why⟩

/-- Deeds that are no release leave the tap alone. -/
theorem Held.later {tap : Option SourceTap} (h : Held tap past asked) {d : Deed}
    (other : d.releases = false) : Held tap (past ++ [d]) asked := by
  cases h with
  | running tap_eq unreleased unasked =>
      refine .running tap_eq (fun e he => ?_) unasked
      rcases List.mem_append.mp he with he | he
      · exact unreleased e he
      · rw [List.mem_singleton.mp he, other]
  | released tap_ne released once =>
      obtain ⟨e, he, why⟩ := released
      exact .released tap_ne ⟨e, List.mem_append_left _ he, why⟩ once

/-- What has been posted is a beginning of what is to be passed on. -/
theorem Stage.in_order (h : Stage line past emitted posted) {closed : Bool}
    (hclosed : ∀ m, line.source.output = some m → closed = !m.sending) :
    posted <+: relayed closed emitted := by
  cases h with
  | forwarding here =>
      rw [here.so_far, relayed_append here.goes, here.passed]
      exact List.prefix_append _ _
  | spent _ channel final passed =>
      have all := relayed_of_final (L := L) (final.imp_right fun silent =>
        (hclosed _ channel).trans (by rw [silent]; rfl))
      exact passed.trans all.symm ▸ List.prefix_refl posted
  | cutOff _ channel so_far goes passed _ =>
      obtain ⟨rest, rfl⟩ := so_far
      rw [relayed_append goes, passed]
      exact List.prefix_append _ _

/-! ## Steps that concern the source or the session -/

/-- A deed that leaves the tap alone. -/
theorem Progress.aside (h : Progress c past emitted posted asked) {d : Deed}
    (other : d.releases = false) (unasked : c.calls d = []) (tap : (c.after d).tap = c.tap)
    (sends : (c.after d).queue.sending = c.queue.sending)
    (hears : (c.after d).queue.receiving = c.queue.receiving ∨ d = .quit)
    (stage : Stage (c.after d).line (past ++ [d]) (emitted ++ c.emits d) (posted ++ c.posts d)) :
    Progress (c.after d) (past ++ [d]) (emitted ++ c.emits d) (posted ++ c.posts d)
      (asked ++ c.calls d) := by
  rw [unasked, List.append_nil]
  refine ⟨sends.trans h.sends, fun there => ?_, tap ▸ h.held.later other, stage⟩
  rcases hears with same | rfl
  · rw [same]
    exact h.hears fun gone => there (List.mem_append_left _ gone)
  · exact absurd (by simp) there

/-- Something happens to the mailbox of the source, which `puts` some reports behind the others. -/
theorem Progress.withChannel (h : Progress c past emitted posted asked) {d : Deed}
    {act : Mailbox SourceReport → Mailbox SourceReport} (next : c.after d = c.withChannel act)
    (other : d.releases = false) (unasked : c.calls d = [])
    (puts : ∀ m, c.channel = some m → (act m).receiving = m.receiving ∧
      ((act m).items = m.items ++ c.emits d ∨ m.receiving = false) ∧
      (m.sending = false → (act m).sending = false ∧ c.emits d = [])) :
    Progress (c.after d) (past ++ [d]) (emitted ++ c.emits d) (posted ++ c.posts d)
      (asked ++ c.calls d) := by
  have quiet : c.posts d = [] := by
    rw [posts, next]
    exact List.drop_length
  refine h.aside other unasked (by rw [next]; rfl) (by rw [next]; rfl) (.inl (by rw [next]; rfl)) ?_
  rw [quiet, List.append_nil, next]
  have output {m : Mailbox SourceReport} (channel : c.line.source.output = some m) :
      (c.withChannel act).line.source.output = some (act m) := by
    rw [Capture.withChannel, Source.output_withOutput, Capture.channel, channel]
    rfl
  refine Stage.later ?_ d
  cases h.stage with
  | @forwarding m handled here =>
      obtain ⟨same, put, -⟩ := puts m here.channel
      have items : (act m).items = m.items ++ c.emits d := by
        rcases put with put | deaf
        · exact put
        · rw [here.hears] at deaf
          cases deaf
      have so_far : emitted ++ c.emits d = handled ++ (act m).items := by
        rw [items, here.so_far, List.append_assoc]
      exact .forwarding ⟨here.forwards, output here.channel, same.trans here.hears, so_far,
        here.goes, here.passed⟩
  | @spent m apart channel final passed =>
      refine .spent apart (output channel) ?_ ?_
      · rcases final with ended | silent
        · exact .inl (List.mem_append_left _ ended)
        · exact .inr ((puts m channel).2.2 silent).1
      · rcases final with ended | silent
        · rw [relayed_of_ended ended, passed]
        · rw [((puts m channel).2.2 silent).2, List.append_nil, passed]
  | cutOff apart channel so_far goes passed cause =>
      exact .cutOff apart (output channel) (so_far.trans (List.prefix_append _ _)) goes passed cause

theorem Progress.after_report (h : Progress c past emitted posted asked) (r : SourceReport) :
    Progress (c.after (.report r)) (past ++ [.report r]) (emitted ++ c.emits (.report r))
      (posted ++ c.posts (.report r)) (asked ++ c.calls (.report r)) := by
  refine h.withChannel rfl rfl rfl fun m channel => ?_
  have closed : c.closed = !m.sending := by rw [Capture.closed, channel]; rfl
  cases sending : m.sending <;> cases receiving : m.receiving <;>
    simp [emits, closed, Mailbox.send, Mailbox.accepts, sending, receiving]

theorem Progress.after_vanish (h : Progress c past emitted posted asked) :
    Progress (c.after .vanish) (past ++ [.vanish]) (emitted ++ c.emits .vanish)
      (posted ++ c.posts .vanish) (asked ++ c.calls .vanish) := by
  refine h.withChannel rfl rfl rfl fun m channel => ⟨rfl, .inl ?_, fun _ => ⟨rfl, rfl⟩⟩
  exact (List.append_nil _).symm

theorem Progress.after_collect (h : Progress c past emitted posted asked) :
    Progress (c.after .collect) (past ++ [.collect]) (emitted ++ c.emits .collect)
      (posted ++ c.posts .collect) (asked ++ c.calls .collect) := by
  have quiet : c.posts .collect = [] := List.drop_nil
  have silent : c.emits .collect = [] := rfl
  refine h.aside rfl rfl rfl rfl (.inl rfl) ?_
  rw [quiet, silent, List.append_nil, List.append_nil]
  exact h.stage.later .collect

theorem Progress.after_quit (h : Progress c past emitted posted asked) :
    Progress (c.after .quit) (past ++ [.quit]) (emitted ++ c.emits .quit)
      (posted ++ c.posts .quit) (asked ++ c.calls .quit) := by
  have quiet : c.posts .quit = [] := List.drop_nil
  have silent : c.emits .quit = [] := rfl
  refine h.aside rfl rfl rfl rfl (.inr rfl) ?_
  rw [quiet, silent, List.append_nil, List.append_nil]
  exact h.stage.later .quit

/-! ## Releases -/

/-- A running tap ends its forwarder and stops the source. -/
theorem stop_of_running (h : c.tap = some ⟨true⟩) :
    c.stop = { c with tap := some ⟨false⟩, line := c.line.perform 0 .stop } := by
  rw [stop, h]
  rfl

/-- Stopping again does nothing. -/
theorem stop_of_ne (h : c.tap ≠ some ⟨true⟩) : c.stop = c := by
  obtain ⟨line, tap, queue⟩ := c
  match tap with
  | none => rfl
  | some ⟨false⟩ => rfl
  | some ⟨true⟩ => exact absurd rfl h

/-- A line that was stopped passes nothing on. -/
theorem Stage.release (h : Stage line past emitted posted) {d : Deed} (hd : d.releases = true) :
    Stage (line.perform 0 .stop) (past ++ [d]) emitted posted := by
  have output {m : Mailbox SourceReport} (channel : line.source.output = some m) :
      (line.perform 0 .stop).source.output = some m.dropSender.dropReceiver := by
    rw [CaptureLine.perform, Source.dropReceiver, Source.output_withOutput, Source.output_stop,
      channel]
    rfl
  have cause : ∃ e ∈ past ++ [d], e.releases = true ∨ e = .quit := ⟨d, by simp, .inl hd⟩
  cases h with
  | forwarding here =>
      exact .cutOff rfl (output here.channel) (here.so_far ▸ List.prefix_append _ _) here.goes
        here.passed cause
  | spent _ channel _ passed => exact .spent rfl (output channel) (.inr rfl) passed
  | cutOff _ channel so_far goes passed _ =>
      exact .cutOff rfl (output channel) so_far goes passed cause

/-- **The first release stops the source**, and the others do nothing. -/
theorem Progress.release (h : Progress c past emitted posted asked) {d : Deed}
    (hd : d.releases = true) (line : (c.after d).line = c.stop.line)
    (queue : (c.after d).queue = c.queue) (tap : (c.after d).tap ≠ some ⟨true⟩)
    (calls : c.calls d = (c.tap.map fun tap => tap.stop.2).getD []) (silent : c.emits d = []) :
    Progress (c.after d) (past ++ [d]) (emitted ++ c.emits d) (posted ++ c.posts d)
      (asked ++ c.calls d) := by
  have quiet : c.posts d = [] := by
    rw [posts, queue]
    exact List.drop_length
  rw [quiet, silent, List.append_nil, List.append_nil]
  have released : ∃ e ∈ past ++ [d], e.releases = true := ⟨d, by simp, hd⟩
  refine ⟨queue ▸ h.sends, fun there => ?_, ?_, ?_⟩
  · rw [queue]
    exact h.hears fun gone => there (List.mem_append_left _ gone)
  · cases h.held with
    | running tap_eq unreleased unasked =>
        refine .released tap released ?_
        rw [calls, tap_eq, List.count_append, unasked]
        rfl
    | released tap_ne _ once =>
        refine .released tap released ?_
        have nothing : (c.tap.map fun tap => tap.stop.2).getD [] = [] := by
          match held : c.tap with
          | none => rfl
          | some ⟨false⟩ => rfl
          | some ⟨true⟩ => exact absurd held tap_ne
        rw [calls, nothing, List.append_nil, once]
  · rw [line]
    cases h.held with
    | running tap_eq _ _ =>
        rw [stop_of_running tap_eq]
        exact h.stage.release hd
    | released tap_ne _ _ =>
        rw [stop_of_ne tap_ne]
        exact h.stage.later d

theorem tap_stop_ne (c : Capture L) : c.stop.tap ≠ some ⟨true⟩ := by
  obtain ⟨line, tap, queue⟩ := c
  match tap with
  | none => simp [stop]
  | some ⟨false⟩ => simp [stop, SourceTap.stop]
  | some ⟨true⟩ => simp [stop, SourceTap.stop]

theorem queue_stop (c : Capture L) : c.stop.queue = c.queue := by
  rw [stop]
  split <;> rfl

/-! ## The forwarder -/

/-- What the forwarder does with what it takes. -/
theorem after_forward_eq {report : Option SourceReport} {source : Source}
    {event : Option (Event L)} {goesOn : Bool} (forwards : c.line.forwarding = true)
    (taken : c.line.source.report? = some (report, source))
    (meaning : Livecast.forward report = (event, goesOn)) :
    c.after .forward =
      { c with
        line := if (goesOn && (event.isNone || c.queue.accepts)) = true then ⟨source, true⟩
          else ⟨source.dropReceiver, false⟩
        queue := c.queue.sendAll event.toList } := by
  rw [after, CaptureLine.forward?, if_pos forwards, taken, Option.map_some]
  simp only [meaning]

/-- A queue refuses events only if the session has gone. -/
theorem Progress.quit_of_refused (h : Progress c past emitted posted asked)
    (refused : c.queue.accepts = false) : .quit ∈ past := by
  cases gone : decide (Deed.quit ∈ past) with
  | true => exact of_decide_eq_true gone
  | false =>
      have hears := h.hears (of_decide_eq_false gone)
      rw [Mailbox.accepts, h.sends, hears] at refused
      cases refused

/-- A forwarder that waits or has ended does nothing. -/
theorem Progress.after_forward_of_rest (h : Progress c past emitted posted asked)
    (rests : c.line.forward? c.queue = none) :
    Progress (c.after .forward) (past ++ [.forward]) (emitted ++ c.emits .forward)
      (posted ++ c.posts .forward) (asked ++ c.calls .forward) := by
  have same : c.after .forward = c := by rw [after, rests]
  have quiet : c.posts .forward = [] := by
    rw [posts, same]
    exact List.drop_length
  have silent : c.emits .forward = [] := rfl
  refine h.aside rfl rfl (by rw [same]) (by rw [same]) (.inl (by rw [same])) ?_
  rw [quiet, silent, List.append_nil, List.append_nil, same]
  exact h.stage.later .forward

/-- A forwarder that takes something posts an event, perhaps. -/
theorem Progress.after_forward_of_take (h : Progress c past emitted posted asked)
    {event : Option (Event L)} {line : CaptureLine}
    (next : c.after .forward = { c with line := line, queue := c.queue.sendAll event.toList })
    (stage : Stage line (past ++ [.forward]) emitted
      (posted ++ if c.queue.accepts then event.toList else [])) :
    Progress (c.after .forward) (past ++ [.forward]) (emitted ++ c.emits .forward)
      (posted ++ c.posts .forward) (asked ++ c.calls .forward) := by
  have sent : c.posts .forward = if c.queue.accepts then event.toList else [] := by
    rw [posts, next]
    show (c.queue.sendAll event.toList).items.drop c.queue.items.length = _
    rw [Mailbox.sendAll_eq]
    split
    · exact List.drop_left
    · exact List.drop_length
  have silent : c.emits .forward = [] := rfl
  refine h.aside rfl rfl (by rw [next]) ?_ (.inl ?_) ?_
  · rw [next, Mailbox.sendAll_eq]
    split <;> rfl
  · rw [next, Mailbox.sendAll_eq]
    split <;> rfl
  · rw [sent, silent, List.append_nil, next]
    exact stage

theorem output_dropReceiver {source : Source} {m : Mailbox SourceReport}
    (output : source.output = some m) : source.dropReceiver.output = some m.dropReceiver := by
  rw [Source.dropReceiver, Source.output_withOutput, output]
  rfl

variable {m left : Mailbox SourceReport} {handled : List SourceReport}
  {report : Option SourceReport} {source : Source}

/-- The forwarder ends before it could pass on what it has taken. -/
theorem Underway.cut_off (here : Underway line m handled emitted posted)
    (output : source.output = some left) (gone : .quit ∈ past) :
    Stage ⟨source.dropReceiver, false⟩ past emitted posted := by
  refine .cutOff rfl (output_dropReceiver output) ?_ here.goes here.passed ⟨.quit, gone, .inr rfl⟩
  rw [here.so_far]
  exact List.prefix_append _ _

/-- The forwarder ends with the device. -/
theorem Progress.after_forward_of_end (h : Progress c past emitted posted asked)
    (here : Underway c.line m handled emitted posted)
    (taken : c.line.source.report? = some (report, source)) (output : source.output = some left)
    (meaning : Livecast.forward report = ((some .deviceEnded : Option (Event L)), false))
    (final : .ended ∈ emitted ∨ left.sending = false)
    (all : (relayed true emitted : List (Event L)) = relayed false handled ++ [.deviceEnded]) :
    Progress (c.after .forward) (past ++ [.forward]) (emitted ++ c.emits .forward)
      (posted ++ c.posts .forward) (asked ++ c.calls .forward) := by
  refine h.after_forward_of_take (after_forward_eq here.forwards taken meaning) ?_
  cases accepts : c.queue.accepts with
  | true =>
      refine .spent rfl (output_dropReceiver output) final ?_
      rw [all, here.passed]
      rfl
  | false =>
      rw [if_neg Bool.false_ne_true, List.append_nil]
      exact (here.cut_off output (h.quit_of_refused accepts)).later .forward

/-- A segment is handled. -/
theorem Underway.handle (here : Underway line m handled emitted posted) {data : Bytes}
    {rest : List SourceReport} (items : m.items = .segment data :: rest)
    (output : source.output = some { m with items := rest }) {more : List (Event L)}
    (new : more = relayed false [.segment data]) :
    Underway ⟨source, true⟩ { m with items := rest } (handled ++ [.segment data]) emitted
      (posted ++ more) where
  forwards := rfl
  channel := output
  hears := here.hears
  so_far := by rw [here.so_far, items, List.append_assoc]; rfl
  goes := by simpa using here.goes
  passed := by rw [relayed_append here.goes, here.passed, new]

/-- **The forwarder passes on one report.** -/
theorem Progress.after_forward (h : Progress c past emitted posted asked) :
    Progress (c.after .forward) (past ++ [.forward]) (emitted ++ c.emits .forward)
      (posted ++ c.posts .forward) (asked ++ c.calls .forward) := by
  have idle (apart : c.line.forwarding = false) : c.line.forward? c.queue = none := by
    rw [CaptureLine.forward?, apart]
    rfl
  cases h.stage with
  | spent apart => exact h.after_forward_of_rest (idle apart)
  | cutOff apart => exact h.after_forward_of_rest (idle apart)
  | @forwarding m handled here =>
      cases items : m.items with
      | nil =>
          cases sending : m.sending with
          | true =>
              refine h.after_forward_of_rest ?_
              rw [CaptureLine.forward?, if_pos here.forwards, Source.report?, here.channel]
              simp [items, sending]
          | false =>
              have taken : c.line.source.report? = some (none, c.line.source) := by
                rw [Source.report?, here.channel]
                simp [items, sending]
              refine h.after_forward_of_end here taken here.channel rfl (.inr sending) ?_
              rw [here.so_far, items, relayed_append here.goes]
              rfl
      | cons report rest =>
          have taken : c.line.source.report? = some (some report,
              c.line.source.withOutput (some { m with items := rest })) := by
            rw [Source.report?, here.channel]
            simp [items]
          have output : (c.line.source.withOutput (some { m with items := rest })).output =
              some { m with items := rest } := Source.output_withOutput _ _
          cases report with
          | ended =>
              refine h.after_forward_of_end here taken output rfl (.inl ?_) ?_
              · rw [here.so_far, items]
                simp
              · rw [here.so_far, items, relayed_append here.goes]
                rfl
          | segment data =>
              by_cases empty : data = []
              · subst empty
                refine h.after_forward_of_take (after_forward_eq here.forwards taken rfl) ?_
                refine Stage.later (.forwarding (here.handle items output ?_)) .forward
                split <;> rfl
              · have meaning : Livecast.forward (some (.segment data)) =
                    ((some (.segment data) : Option (Event L)), true) := by
                  cases data with
                  | nil => exact absurd rfl empty
                  | cons b more => rfl
                refine h.after_forward_of_take (after_forward_eq here.forwards taken meaning) ?_
                cases accepts : c.queue.accepts with
                | true =>
                    refine Stage.later (.forwarding (here.handle items output ?_)) .forward
                    simp [relayed, empty]
                | false =>
                    rw [if_neg Bool.false_ne_true, List.append_nil]
                    exact (here.cut_off output (h.quit_of_refused accepts)).later .forward

/-- **One step keeps what is passed on in line with what is reported.** -/
theorem Progress.after (h : Progress c past emitted posted asked) (d : Deed) :
    Progress (c.after d) (past ++ [d]) (emitted ++ c.emits d) (posted ++ c.posts d)
      (asked ++ c.calls d) := by
  cases d with
  | report r => exact h.after_report r
  | vanish => exact h.after_vanish
  | forward => exact h.after_forward
  | stop => exact h.release rfl rfl c.queue_stop c.tap_stop_ne rfl rfl
  | drop => exact h.release rfl rfl c.queue_stop (by simp [Capture.after, Capture.drop]) rfl rfl
  | collect => exact h.after_collect
  | quit => exact h.after_quit

/-! ## Whole runs -/

theorem Progress.run (h : Progress c past emitted posted asked) (deeds : List Deed) :
    Progress (c.run deeds) (past ++ deeds) (emitted ++ c.seen emits deeds)
      (posted ++ c.seen posts deeds) (asked ++ c.seen calls deeds) := by
  induction deeds generalizing c past emitted posted asked with
  | nil =>
      simp only [seen, List.append_nil]
      exact h
  | cons d rest ih =>
      have later := ih (h.after d)
      simp only [List.append_assoc] at later
      exact later

/-- A forwarder that has ended by itself has passed on everything, and that the device has ended. -/
theorem Stage.complete (h : Stage line past emitted posted) (apart : line.forwarding = false)
    (undisturbed : ∀ d ∈ past, d.releases = false ∧ d ≠ .quit) {closed : Bool}
    (hclosed : ∀ m, line.source.output = some m → closed = !m.sending) :
    posted = relayed closed emitted ∧ Event.deviceEnded ∈ posted := by
  cases h with
  | forwarding here =>
      rw [here.forwards] at apart
      cases apart
  | cutOff _ _ _ _ _ cause =>
      obtain ⟨d, hd, releases | rfl⟩ := cause
      · rw [(undisturbed d hd).1] at releases
        cases releases
      · exact absurd rfl (undisturbed _ hd).2
  | spent _ channel final passed =>
      have all := relayed_of_final (L := L) (final.imp_right fun silent =>
        (hclosed _ channel).trans (by rw [silent]; rfl))
      obtain ⟨segments, -, whole⟩ := exists_relayed (L := L) true emitted
      refine ⟨passed.trans all.symm, ?_⟩
      rw [passed, whole]
      simp

/-- A forwarder that waits has passed on everything so far. -/
theorem Stage.caught_up (h : Stage line past emitted posted) {queue : Mailbox (Event L)}
    (forwards : line.forwarding = true) (waits : line.forward? queue = none) {closed : Bool}
    (hclosed : ∀ m, line.source.output = some m → closed = !m.sending) :
    posted = relayed closed emitted := by
  cases h with
  | spent apart | cutOff apart =>
      rw [apart] at forwards
      cases forwards
  | @forwarding m handled here =>
      rw [CaptureLine.forward?, if_pos forwards, Option.map_eq_none_iff, Source.report?,
        here.channel] at waits
      cases items : m.items with
      | cons report rest => simp [items] at waits
      | nil =>
          have sending : m.sending = true := by simpa [items] using waits
          rw [here.so_far, items, List.append_nil, here.passed, hclosed _ here.channel, sending]
          rfl

/-- **A capture whose forwarder has just begun obeys the law of forwarding.** -/
theorem relays_of_fresh (forwards : c.line.forwarding = true) (channel : c.channel = some .fresh)
    (tap : c.tap = some ⟨true⟩) (queue : c.queue = .fresh) (deeds : List Deed) :
    Relays c deeds ∧
      (c.seen calls deeds).count .stop = if deeds.any Deed.releases then 1 else 0 := by
  have begun : Progress c [] [] [] [] :=
    { sends := by rw [queue]; rfl
      hears := fun _ => by rw [queue]; rfl
      held := .running tap (fun _ inside => absurd inside List.not_mem_nil) rfl
      stage := .forwarding ⟨forwards, channel, rfl, rfl, List.not_mem_nil, rfl⟩ }
  have done := begun.run deeds
  simp only [List.nil_append] at done
  have hclosed : ∀ m, (c.run deeds).line.source.output = some m →
      (c.run deeds).closed = !m.sending := by
    intro m output
    rw [closed, Capture.channel, output]
    rfl
  refine ⟨⟨done.stage.in_order hclosed, ?_, ?_⟩, ?_⟩
  · intro apart undisturbed
    exact done.stage.complete apart undisturbed hclosed
  · intro forwards waits
    exact done.stage.caught_up forwards waits hclosed
  · cases done.held with
    | running _ unreleased unasked =>
        have none : deeds.any Deed.releases = false := by simpa using unreleased
        rw [none, unasked]
        rfl
    | released _ released once =>
        have some : deeds.any Deed.releases = true := by simpa using released
        rw [some, once]
        rfl

/-! ## A life of a source -/

/-- What is asked of a source over its life. -/
def lifeCalls (L : Type) (source : Source) (cadence : Duration) (deeds : List Deed) :
    List SourceCall :=
  (SourceTap.start cadence source.refusal).2 ++
    match (start source cadence : Except _ (Capture L)) with
    | .ok c => c.seen calls deeds
    | .error _ => []

/-- What becomes of a source over its life. -/
def finalSource (L : Type) (source : Source) (cadence : Duration) (deeds : List Deed) : Source :=
  match (start source cadence : Except _ (Capture L)) with
  | .ok c => (c.run deeds).line.source
  | .error (_, source) => source

theorem start_of_willing {source : Source} (willing : source.refusal = none) (cadence : Duration) :
    start source cadence =
      .ok (⟨⟨source.perform 0 (.start cadence), true⟩, some ⟨true⟩, .fresh⟩ : Capture L) := by
  rw [start, willing]
  simp [SourceTap.start, CaptureLine.perform, willing]

/-- **A source that refuses to start is stopped before it is given back.** -/
theorem start_of_refusal {source : Source} {failure : CaptureFailure}
    (refuses : source.refusal = some failure) (cadence : Duration) :
    (start source cadence : Except _ (Capture L)) =
      .error (failure, ((source.perform 0 (.start cadence)).perform 0 .stop).dropReceiver) := by
  rw [start, refuses]
  simp [SourceTap.start, CaptureLine.perform]

/-- A source counts how often it is asked to stop. -/
theorem stops?_after (c : Capture L) (d : Deed) :
    (c.after d).line.source.stops? =
      c.line.source.stops?.map (· + (c.calls d).count .stop) := by
  have unasked (source : Source) (same : source.stops? = c.line.source.stops?) :
      source.stops? = c.line.source.stops?.map (· + 0) := by simp [same]
  have stopped : c.stop.line.source.stops? =
      c.line.source.stops?.map (· + (c.calls .stop).count .stop) := by
    rw [stop, calls]
    split
    · next none =>
        rw [none]
        exact unasked _ rfl
    · next tap held =>
        rw [held]
        exact c.line.stops?_foldl _
  cases d with
  | report r => exact unasked _ (Source.stops?_withOutput _ _)
  | vanish => exact unasked _ (Source.stops?_withOutput _ _)
  | collect => exact unasked _ rfl
  | quit => exact unasked _ rfl
  | forward =>
      refine unasked _ ?_
      rw [after]
      split
      · next step =>
          obtain ⟨output, same⟩ := CaptureLine.source_forward? step
          rw [same, Source.stops?_withOutput]
      · rfl
  | stop => exact stopped
  | drop => exact stopped

theorem stops?_run (c : Capture L) (deeds : List Deed) :
    (c.run deeds).line.source.stops? =
      c.line.source.stops?.map (· + (c.seen calls deeds).count .stop) := by
  induction deeds generalizing c with
  | nil => simp [run, seen]
  | cons d rest ih =>
      have later := ih (c.after d)
      rw [stops?_after, Option.map_map] at later
      refine later.trans ?_
      congr 1
      funext n
      simp only [Function.comp_apply, seen, List.count_append]
      omega

/-- **Every capture passes on what its source reports, and stops its source once.**  Whatever
happens to a source that starts, its capture obeys the law of forwarding; and over the life of a
source the source is asked to stop exactly once if it refuses to start or is released, however
often, and not before.  A source that counts its stops counts as many. -/
theorem forwards_and_releases (source : Source) (cadence : Duration) (deeds : List Deed) :
    (∀ c : Capture L, start source cadence = .ok c → Relays c deeds) ∧
      (lifeCalls L source cadence deeds).count .stop =
        (if source.refusal.isSome || deeds.any Deed.releases then 1 else 0) ∧
      (finalSource L source cadence deeds).stops? =
        source.stops?.map (· + (lifeCalls L source cadence deeds).count .stop) := by
  cases refusal : source.refusal with
  | none =>
      have started := start_of_willing (L := L) refusal cadence
      obtain ⟨relays, count⟩ := relays_of_fresh (L := L)
        (c := ⟨⟨source.perform 0 (.start cadence), true⟩, some ⟨true⟩, .fresh⟩) rfl
        (Source.output_start refusal 0 cadence) rfl rfl deeds
      have calls : (lifeCalls L source cadence deeds).count .stop =
          if deeds.any Deed.releases then 1 else 0 := by
        rw [lifeCalls, started, refusal, List.count_append]
        simpa [SourceTap.start] using count
      refine ⟨fun c same => ?_, calls, ?_⟩
      · rw [started] at same
        obtain rfl := Except.ok.inj same
        exact relays
      · have begun : (source.perform 0 (.start cadence)).stops? = source.stops? := by
          have counted := CaptureLine.stops?_perform ⟨source, false⟩ (.start cadence)
          exact counted.trans (by simp)
        rw [calls, ← count, finalSource, started]
        refine (stops?_run _ deeds).trans ?_
        rw [begun]
  | some failure =>
      have refused := start_of_refusal (L := L) refusal cadence
      have calls : lifeCalls L source cadence deeds = [.start cadence, .stop] := by
        rw [lifeCalls, refused, refusal]
        rfl
      refine ⟨fun c same => ?_, by rw [calls]; rfl, ?_⟩
      · rw [refused] at same
        cases same
      · rw [calls, finalSource, refused]
        have stopped := CaptureLine.stops?_foldl ⟨source, false⟩ [.start cadence, .stop]
        exact stopped

/-- A source goes away behind a segment and an empty one.  The tap is stopped and dropped after
that, which stops the source once. -/
theorem forwards_and_releases_vanishing :
    let source := Source.manual (.fresh false)
    let deeds : List Deed := [.report (.segment [1]), .report (.segment []), .forward, .forward,
      .vanish, .forward, .stop, .drop]
    ∃ c : Capture Unit, start source .zero = .ok c ∧ Relays c deeds ∧
      c.seen posts deeds = [.segment [1], .deviceEnded] ∧
        (lifeCalls Unit source .zero deeds).count .stop = 1 := by
  intro source deeds
  obtain ⟨relays, calls, -⟩ := forwards_and_releases (L := Unit) source .zero deeds
  exact ⟨_, rfl, relays _ rfl, rfl, calls⟩

end Capture

end Livecast
