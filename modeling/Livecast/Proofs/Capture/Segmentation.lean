import Livecast.Proofs.Capture.Supply

/-!
# How a byte stream is cut into segments

A source that has been started reads its input in portions of any size, and in between the clock
ticks.  A tick posts what was read since the last segment, and the end of the input posts what is
left and then that the source has ended.  So no byte is lost or repeated, whatever the order in
which reads and ticks come, and whenever the reports are collected; and what was read when the end
is reported is all that the input has supplied.

## Main Definitions

* `ReaderSource.Deed` - what happens to a source that has been started
* `ReaderSource.Beat` - what one step finds, posts and hands over
* `ReaderSource.Segmented` - the law of segments
* `ReaderSource.Doing` - what happens to a source, with the calls that are made to it

## Main Statements

* `ReaderSource.Regular.accounted` - beats that post what is due account for all bytes
* `ReaderSource.Progress.step` - one step posts what is due and takes what the input supplies
* `ReaderSource.refusal_foldl_heed` - only the very first call can start a source
* `ReaderSource.run_segmented` - every run obeys the law of segments
-/

namespace Livecast

/-! ## Steps of a source -/

/-- What a step of a source finds. -/
inductive ReaderSource.Finding where
  /-- The clock ticks. -/
  | tick
  /-- A read takes some bytes. -/
  | bytes (data : Bytes)
  /-- A read finds the end of the input, or fails. -/
  | ended
  /-- Nothing that makes a segment. -/
  | nothing
deriving DecidableEq

/-- The bytes that are read. -/
def ReaderSource.Finding.taken : ReaderSource.Finding → Bytes
  | bytes data => data
  | _ => []

/-- What a read of at most `chunk` bytes finds. -/
def Pipe.find (p : Pipe) (chunk : Nat) : ReaderSource.Finding :=
  match p.unread with
  | .data bytes :: _ => .bytes (bytes.take chunk)
  | .failure :: _ => .ended
  | [] => if p.writing then .nothing else .ended

namespace ReaderSource

/-- What happens to a source that has been started. -/
inductive Deed where
  /-- Something arrives on its input. -/
  | arrival (a : Arrival)
  /-- Its input is ended. -/
  | inputEnds
  /-- Its producer reads, if there is something to read. -/
  | read
  /-- The clock ticks. -/
  | tick
  /-- The receiver takes all reports that are under way. -/
  | collect
deriving DecidableEq

/-- What a deed does on the input. -/
def Deed.feeds : Deed → List Feed
  | .arrival a => [.write a]
  | .inputEnds => [.finish]
  | _ => []

/-- The source after a deed. -/
def after (s : ReaderSource) : Deed → ReaderSource
  | .arrival a => { s with pipe := s.pipe.write a }
  | .inputEnds => { s with pipe := s.pipe.finish }
  | .read => s.readOnce?.getD s
  | .tick => s.cut
  | .collect => { s with output := s.output.map fun m => m.drain.2 }

/-- What a deed finds. -/
def finding (s : ReaderSource) : Deed → Finding
  | .read => s.pipe.find s.chunk
  | .tick => .tick
  | _ => .nothing

/-- The reports that are under way. -/
def waiting (s : ReaderSource) : List SourceReport := (s.output.map Mailbox.items).getD []

/-- The source after several deeds. -/
def run (s : ReaderSource) (deeds : List Deed) : ReaderSource := deeds.foldl after s

/-- A deed as it is seen from outside. -/
structure Beat where
  /-- What it finds. -/
  finding : Finding
  /-- The reports that are under way since then, behind those that were under way before. -/
  posted : List SourceReport
  /-- The reports that the receiver takes. -/
  collected : List SourceReport

/-- What is seen of a deed. -/
def beat (s : ReaderSource) (d : Deed) : Beat where
  finding := s.finding d
  posted := (s.after d).waiting.drop s.waiting.length
  collected := if d = .collect then s.waiting else []

/-- What is seen of several deeds. -/
def beats (s : ReaderSource) : List Deed → List Beat
  | [] => []
  | d :: rest => s.beat d :: (s.after d).beats rest

/-! ## The law of segments -/

/-- The reports that are posted. -/
def reports (beats : List Beat) : List SourceReport := beats.flatMap Beat.posted

/-- The bytes that are read. -/
def taken (beats : List Beat) : Bytes := beats.flatMap fun b => b.finding.taken

/-- The bytes that are read after the last report. -/
def unreported (beats : List Beat) : Bytes :=
  beats.foldl (fun bytes b => if b.posted = [] then bytes ++ b.finding.taken else []) []

/-- Bytes as a segment, if there are any. -/
def segmentOf (bytes : Bytes) : List SourceReport := if bytes = [] then [] else [.segment bytes]

/-- What is to be posted, given the bytes since the last report. -/
def due (bytes : Bytes) : Finding → List SourceReport
  | .tick => segmentOf bytes
  | .ended => segmentOf bytes ++ [.ended]
  | .bytes _ | .nothing => []

/-- All reports are segments that are not empty, and perhaps one end behind them.  The segments are
what was read, up to the bytes since the last of them, of which none are left at the end. -/
inductive Accounted (beats : List Beat) : Prop
  | running (segments : List Bytes) (full : ∀ data ∈ segments, data ≠ [])
      (reported : reports beats = segments.map .segment)
      (read : segments.flatten ++ unreported beats = taken beats)
  | ended (segments : List Bytes) (full : ∀ data ∈ segments, data ≠ [])
      (reported : reports beats = segments.map .segment ++ [.ended])
      (read : segments.flatten = taken beats)

/-- **The law of segments**, for a source that reads at most `limit` bytes at once of an input that
has supplied `supplied`. -/
structure Segmented (limit : Nat) (supplied : Bytes) (beats : List Beat) : Prop where
  /-- A tick posts the bytes since the last report as a segment, and the end of the input posts them
  and then the end.  Nothing else is posted, and nothing at all behind the end. -/
  posts : ∀ {before behind : List Beat} {b : Beat}, beats = before ++ b :: behind →
    b.posted = if .ended ∈ reports before then [] else due (unreported before) b.finding
  /-- No read takes more than it may. -/
  bounded : ∀ b ∈ beats, b.finding.taken.length ≤ limit
  /-- What is read is the beginning of what the input supplies. -/
  drawn : taken beats <+: supplied
  /-- When the end is posted, all of that has been read. -/
  whole : .ended ∈ reports beats → taken beats = supplied
  /-- The segments are what was read. -/
  accounted : Accounted beats

section

variable (beats : List Beat) (b : Beat)

theorem reports_cons : reports (b :: beats) = b.posted ++ reports beats := rfl

@[simp] theorem reports_concat : reports (beats ++ [b]) = reports beats ++ b.posted := by
  simp [reports]

@[simp] theorem taken_concat : taken (beats ++ [b]) = taken beats ++ b.finding.taken := by
  simp [taken]

theorem unreported_concat : unreported (beats ++ [b]) =
    if b.posted = [] then unreported beats ++ b.finding.taken else [] := by
  rw [unreported, List.foldl_append]
  rfl

end

/-- A beat that reads nothing adds nothing. -/
theorem taken_concat_of_nil {beats : List Beat} {b : Beat} (h : b.finding.taken = []) :
    taken (beats ++ [b]) = taken beats := by
  rw [taken_concat, h, List.append_nil]

/-- Beats each of which posts what is due, and of which none reads behind the end. -/
inductive Regular : List Beat → Prop
  | nil : Regular []
  | concat {beats : List Beat} {b : Beat} (regular : Regular beats)
      (posts : b.posted = if .ended ∈ reports beats then [] else due (unreported beats) b.finding)
      (quiet : .ended ∈ reports beats → b.finding.taken = []) : Regular (beats ++ [b])

theorem Regular.posts {beats before behind : List Beat} {b : Beat} (h : Regular beats)
    (split : beats = before ++ b :: behind) :
    b.posted = if .ended ∈ reports before then [] else due (unreported before) b.finding := by
  induction h generalizing behind with
  | nil => simp at split
  | @concat beats last _ posts _ ih =>
      rcases List.eq_nil_or_concat behind with rfl | ⟨behind, c, rfl⟩
      · obtain ⟨rfl, same⟩ := List.append_inj' split rfl
        obtain rfl := List.singleton_inj.mp same
        exact posts
      · rw [List.concat_eq_append, ← List.cons_append, ← List.append_assoc] at split
        exact ih (List.append_inj' split rfl).1

/-- Bytes become at most one segment, and none are lost. -/
theorem exists_segmentOf (bytes : Bytes) : ∃ segments : List Bytes,
    (∀ data ∈ segments, data ≠ []) ∧ segmentOf bytes = segments.map .segment ∧
      segments.flatten = bytes := by
  by_cases empty : bytes = []
  · exact ⟨[], by simp, by simp [segmentOf, empty], by simp [empty]⟩
  · exact ⟨[bytes], by simpa using empty, by simp [segmentOf, empty], by simp⟩

theorem segmentOf_eq_nil {bytes : Bytes} : segmentOf bytes = [] ↔ bytes = [] := by
  rw [segmentOf]
  split <;> simp [*]

/-- Before the end, what is due are segments that leave over what they do not hold. -/
theorem exists_due (bytes : Bytes) {finding : Finding} (h : finding ≠ .ended) :
    ∃ segments : List Bytes, (∀ data ∈ segments, data ≠ []) ∧
      due bytes finding = segments.map .segment ∧
        segments.flatten ++ (if due bytes finding = [] then bytes ++ finding.taken else []) =
          bytes ++ finding.taken := by
  cases finding with
  | tick =>
      obtain ⟨segments, full, made, whole⟩ := exists_segmentOf bytes
      refine ⟨segments, full, made, ?_⟩
      have nothing : Finding.tick.taken = [] := rfl
      rw [due, made, nothing, List.append_nil]
      cases segments with
      | nil => simp
      | cons first more => simpa using whole
  | ended => exact absurd rfl h
  | bytes data => exact ⟨[], by simp, rfl, by simp [due]⟩
  | nothing => exact ⟨[], by simp, rfl, by simp [due]⟩

/-- **The segments are what was read.** -/
theorem Regular.accounted {beats : List Beat} (h : Regular beats) : Accounted beats := by
  induction h with
  | nil => exact .running [] (by simp) rfl rfl
  | @concat beats b _ posts quiet ih =>
      cases ih with
      | running segments full reported read =>
          have goes : SourceReport.ended ∉ reports beats := by simp [reported]
          rw [if_neg goes] at posts
          by_cases atEnd : b.finding = .ended
          · -- the end follows the last segment at once
            obtain ⟨last, new, made, whole⟩ := exists_segmentOf (unreported beats)
            rw [atEnd, due, made] at posts
            refine .ended (segments ++ last) ?_ ?_ ?_
            · exact fun data hdata => (List.mem_append.mp hdata).elim (full data) (new data)
            · rw [reports_concat, posts, reported, List.map_append, List.append_assoc]
            · rw [taken_concat, atEnd, List.flatten_append, whole, read]
              exact (List.append_nil _).symm
          · obtain ⟨more, new, made, whole⟩ := exists_due (unreported beats) atEnd
            refine .running (segments ++ more) ?_ ?_ ?_
            · exact fun data hdata => (List.mem_append.mp hdata).elim (full data) (new data)
            · rw [reports_concat, posts, made, reported, List.map_append]
            · rw [unreported_concat, taken_concat, posts, List.flatten_append, List.append_assoc,
                whole, ← List.append_assoc, read]
      | ended segments full reported read =>
          have closed : SourceReport.ended ∈ reports beats := by simp [reported]
          rw [if_pos closed] at posts
          refine .ended segments full ?_ ?_
          · rw [reports_concat, posts, List.append_nil, reported]
          · rw [taken_concat_of_nil (quiet closed), read]

/-! ## One step -/

variable {total : List Feed → Bytes} {s : ReaderSource} {beats : List Beat}

/-- How far a source has come that was seen to do some beats; its input will have supplied `total`
of what is still fed to it. -/
inductive Progress (total : List Feed → Bytes) (s : ReaderSource) (beats : List Beat) : Prop
  /-- It reads, and its producer holds the bytes since the last report. -/
  | running {p : Producer} {t : Timer} {m : Mailbox SourceReport}
      (producing : s.producing = some (p, t)) (output : s.output = some m)
      (accepts : m.accepts = true) (pending : p.pending = unreported beats)
      (goes : .ended ∉ reports beats)
      (left : ∀ feeds, total feeds = taken beats ++ s.pipe.supply feeds)
  /-- It has read everything and ended, and its input is released. -/
  | finished (silent : s.producing = none) (emptied : s.pipe.unread = [])
      (deaf : s.pipe.reading = false) (ended : .ended ∈ reports beats)
      (left : ∀ feeds, total feeds = taken beats)

/-- **What one step does**: it posts what is due, it reads nothing behind the end, and every report
goes to the receiver in its turn. -/
structure Step (total : List Feed → Bytes) (s : ReaderSource) (beats : List Beat) (d : Deed) :
    Prop where
  /-- It posts what is due. -/
  posts : (s.beat d).posted =
    if .ended ∈ reports beats then [] else due (unreported beats) (s.beat d).finding
  /-- It reads nothing behind the end. -/
  quiet : .ended ∈ reports beats → (s.beat d).finding.taken = []
  /-- What was under way or is posted is collected or under way. -/
  delivers : (s.beat d).collected ++ (s.after d).waiting = s.waiting ++ (s.beat d).posted
  /-- The source has come further. -/
  progress : Progress (fun feeds => total (d.feeds ++ feeds)) (s.after d) (beats ++ [s.beat d])

theorem waiting_eq {m : Mailbox SourceReport} (h : s.output = some m) : s.waiting = m.items := by
  rw [waiting, h]
  rfl

/-- A step after which some events are under way behind the others has posted these. -/
theorem beat_eq {d : Deed} {events : List SourceReport} (h : d ≠ .collect)
    (grown : (s.after d).waiting = s.waiting ++ events) : s.beat d = ⟨s.finding d, events, []⟩ := by
  rw [beat, grown, List.drop_left, if_neg h]

theorem beat_collect (s : ReaderSource) : s.beat .collect = ⟨.nothing, [], s.waiting⟩ := by
  have taken : (s.after .collect).waiting = [] := by
    rw [after, waiting]
    cases s.output <;> rfl
  rw [beat, taken, List.drop_nil, if_pos rfl]
  rfl

/-- A beat that neither posts nor reads anything makes no difference. -/
theorem Progress.concat (h : Progress total s beats) {b : Beat} (posted : b.posted = [])
    (took : b.finding.taken = []) : Progress total s (beats ++ [b]) := by
  have same : reports (beats ++ [b]) = reports beats := by
    rw [reports_concat, posted, List.append_nil]
  have still : taken (beats ++ [b]) = taken beats := taken_concat_of_nil took
  cases h with
  | running producing output accepts pending goes left =>
      refine .running producing output accepts ?_ (same ▸ goes) (still ▸ left)
      rw [unreported_concat, if_pos posted, took, List.append_nil, pending]
  | finished silent emptied deaf ended left =>
      exact .finished silent emptied deaf (same ▸ ended) (still ▸ left)

/-- A step that posts nothing, takes nothing and owes nothing. -/
theorem Progress.calm {d : Deed}
    (further : Progress (fun feeds => total (d.feeds ++ feeds)) (s.after d) beats)
    (other : d ≠ .collect) (mail : (s.after d).waiting = s.waiting)
    (took : (s.finding d).taken = [])
    (owed : .ended ∉ reports beats → due (unreported beats) (s.finding d) = []) :
    Step total s beats d := by
  have seen : s.beat d = ⟨s.finding d, [], []⟩ := beat_eq other (by rw [mail, List.append_nil])
  refine ⟨?_, fun _ => ?_, ?_, ?_⟩
  · rw [seen]
    split
    · rfl
    · next goes => exact (owed goes).symm
  · rw [seen]
    exact took
  · rw [seen, mail, List.append_nil]
    rfl
  · rw [seen]
    exact further.concat rfl took

/-- **What arrives is supplied.** -/
theorem Progress.step_arrival (h : Progress total s beats) (a : Arrival) :
    Step total s beats (.arrival a) := by
  refine Progress.calm ?_ (by simp) rfl rfl fun _ => rfl
  cases h with
  | running producing output accepts pending goes left =>
      refine .running producing output accepts pending goes fun feeds => ?_
      exact (left _).trans (congrArg (taken beats ++ ·) (s.pipe.supply_write a feeds).symm)
  | finished silent emptied deaf ended left =>
      have refused : s.pipe.write a = s.pipe := by simp [Pipe.write, Pipe.accepts, deaf]
      refine .finished silent ?_ ?_ ended fun feeds => left _
      · show (s.pipe.write a).unread = []
        rw [refused, emptied]
      · show (s.pipe.write a).reading = false
        rw [refused, deaf]

theorem Progress.step_inputEnds (h : Progress total s beats) : Step total s beats .inputEnds := by
  refine Progress.calm ?_ (by simp) rfl rfl fun _ => rfl
  cases h with
  | running producing output accepts pending goes left =>
      refine .running producing output accepts pending goes fun feeds => ?_
      exact (left _).trans (congrArg (taken beats ++ ·) (s.pipe.supply_finish feeds).symm)
  | finished silent emptied deaf ended left =>
      exact .finished silent emptied deaf ended fun feeds => left _

/-- **What is collected was under way.** -/
theorem Progress.step_collect (h : Progress total s beats) : Step total s beats .collect := by
  have seen := s.beat_collect
  have emptied : (s.after .collect).waiting = [] := by
    rw [after, waiting]
    cases s.output <;> rfl
  refine ⟨?_, fun _ => ?_, ?_, ?_⟩
  · rw [seen]
    exact (ite_self []).symm
  · rw [seen]
    rfl
  · rw [seen, emptied]
  · rw [seen]
    refine Progress.concat ?_ rfl rfl
    cases h with
    | @running p t m producing output accepts pending goes left =>
        have cleared : (s.after .collect).output = some { m with items := [] } := by
          rw [after, output]
          rfl
        exact .running producing cleared accepts pending goes left
    | finished silent emptied deaf ended left => exact .finished silent emptied deaf ended left

/-! ### Ticks and reads -/

theorem output_emit {m : Mailbox SourceReport} (output : s.output = some m)
    (events : List SourceReport) : (s.emit events).output = some (m.sendAll events) := by
  rw [emit, output]
  rfl

/-- Events that are put on the mailbox are under way behind the others. -/
theorem waiting_emit {m : Mailbox SourceReport} (output : s.output = some m)
    (accepts : m.accepts = true) (events : List SourceReport) :
    (s.emit events).waiting = s.waiting ++ events := by
  rw [waiting_eq output, waiting_eq (output_emit output events), Mailbox.sendAll_eq,
    if_pos accepts]

theorem ended_not_mem_segmentOf (bytes : Bytes) : .ended ∉ segmentOf bytes := by
  obtain ⟨segments, -, made, -⟩ := exists_segmentOf bytes
  rw [made]
  simp

theorem tick_segmentOf (p : Producer) : p.tick = (.fresh, segmentOf p.pending) := by
  obtain ⟨pending⟩ := p
  cases pending with
  | nil => rfl
  | cons b more => rfl

/-- **A tick posts what was read since the last report.** -/
theorem Progress.step_tick (h : Progress total s beats) : Step total s beats .tick := by
  cases h with
  | finished silent emptied deaf ended left =>
      have resting : s.after .tick = s := by rw [after, cut, silent]
      refine Progress.calm ?_ (by simp) (by rw [resting]) rfl fun goes => absurd ended goes
      rw [resting]
      exact .finished silent emptied deaf ended left
  | @running p t m producing output accepts pending goes left =>
      have cut_eq : s.after .tick =
          { s.emit (segmentOf (unreported beats)) with producing := some (.fresh, t.next) } := by
        rw [after, cut, producing]
        simp [tick_segmentOf, pending, output, accepts]
      have grown : (s.after .tick).waiting = s.waiting ++ segmentOf (unreported beats) := by
        rw [cut_eq]
        exact waiting_emit output accepts _
      have seen : s.beat .tick = ⟨.tick, segmentOf (unreported beats), []⟩ :=
        beat_eq (by simp) grown
      refine ⟨?_, fun ended => absurd ended goes, ?_, ?_⟩
      · rw [seen, if_neg goes]
        rfl
      · rw [seen]
        exact grown
      · rw [seen, cut_eq]
        refine .running rfl (output_emit output _) ?_ ?_ ?_ fun feeds => ?_
        · rw [Mailbox.accepts_sendAll, accepts]
        · rw [unreported_concat]
          split
          · next nothing =>
              rw [segmentOf_eq_nil.mp nothing]
              rfl
          · rfl
        · rw [reports_concat, List.mem_append]
          exact not_or.mpr ⟨goes, ended_not_mem_segmentOf _⟩
        · rw [taken_concat_of_nil rfl]
          exact left feeds

/-- What a producer leaves behind that has read everything. -/
theorem waiting_complete {p : Producer} {m : Mailbox SourceReport} (output : s.output = some m)
    (accepts : m.accepts = true) :
    (s.complete p).waiting = s.waiting ++ (segmentOf p.pending ++ [.ended]) := by
  have emitted := waiting_emit output accepts p.finish
  have same : (s.complete p).waiting = (s.emit p.finish).waiting := by
    rw [complete, waiting, waiting, halt, output_emit output]
    rfl
  rw [same, emitted, Producer.finish, tick_segmentOf]

/-- **The end of the input posts what is left, and then the end.** -/
theorem Progress.step_end {p : Producer} {m : Mailbox SourceReport} (output : s.output = some m)
    (accepts : m.accepts = true) (pending : p.pending = unreported beats)
    (goes : .ended ∉ reports beats)
    (left : ∀ feeds, total feeds = taken beats ++ s.pipe.supply feeds)
    (met : s.pipe.find s.chunk = .ended) (spent : ∀ feeds, s.pipe.supply feeds = [])
    (reads : s.readOnce? = some (s.complete p)) : Step total s beats .read := by
  have next : s.after .read = s.complete p := by rw [after, reads, Option.getD_some]
  have grown : (s.after .read).waiting =
      s.waiting ++ (segmentOf (unreported beats) ++ [.ended]) := by
    rw [next, waiting_complete output accepts, pending]
  have seen : s.beat .read = ⟨.ended, segmentOf (unreported beats) ++ [.ended], []⟩ := by
    rw [beat_eq (by simp) grown, finding, met]
  refine ⟨?_, fun ended => absurd ended goes, ?_, ?_⟩
  · rw [seen, if_neg goes]
    rfl
  · rw [seen]
    exact grown
  · rw [seen, next]
    refine .finished rfl rfl rfl ?_ fun feeds => ?_
    · rw [reports_concat]
      simp
    · rw [taken_concat_of_nil rfl]
      exact (left feeds).trans (by rw [spent, List.append_nil])

/-- What is read is held back until the next tick. -/
theorem Progress.step_bytes {p : Producer} {t : Timer} {m : Mailbox SourceReport}
    (producing : s.producing = some (p, t)) (output : s.output = some m)
    (accepts : m.accepts = true) (pending : p.pending = unreported beats)
    (goes : .ended ∉ reports beats)
    (left : ∀ feeds, total feeds = taken beats ++ s.pipe.supply feeds)
    {bytes : Bytes} {rest : List Arrival} (unread : s.pipe.unread = .data bytes :: rest) :
    Step total s beats .read := by
  have met : s.finding .read = .bytes (bytes.take s.chunk) := by
    rw [finding, Pipe.find, unread]
  have next : s.after .read =
      { s with
        pipe := { s.pipe with
          unread := if bytes.length ≤ s.chunk then rest else .data (bytes.drop s.chunk) :: rest }
        producing := some (p.read (bytes.take s.chunk), t) } := by
    rw [after, readOnce?, producing]
    simp [unread]
  have same : (s.after .read).waiting = s.waiting := by rw [next]; rfl
  have seen : s.beat .read = ⟨.bytes (bytes.take s.chunk), [], []⟩ := by
    rw [← met]
    exact beat_eq (by simp) (by rw [same, List.append_nil])
  refine ⟨?_, fun ended => absurd ended goes, ?_, ?_⟩
  · rw [seen]
    exact (ite_self []).symm
  · rw [seen, same, List.append_nil]
    rfl
  · rw [seen, next]
    refine .running rfl output accepts ?_ ?_ fun feeds => ?_
    · rw [unreported_concat, if_pos rfl, ← pending]
      rfl
    · rw [reports_concat, List.append_nil]
      exact goes
    · rw [taken_concat, List.append_assoc]
      exact (left feeds).trans
        (congrArg (taken beats ++ ·) (Pipe.supply_of_data unread s.chunk feeds))

/-- **A read takes the next bytes, or finds the end of the input.** -/
theorem Progress.step_read (h : Progress total s beats) : Step total s beats .read := by
  cases h with
  | finished silent emptied deaf ended left =>
      have resting : s.after .read = s := by
        rw [after, readOnce?, silent]
        rfl
      have nothing : (s.finding .read).taken = [] := by
        rw [finding, Pipe.find, emptied]
        dsimp only
        split <;> rfl
      refine Progress.calm ?_ (by simp) (by rw [resting]) nothing fun goes => absurd ended goes
      rw [resting]
      exact .finished silent emptied deaf ended left
  | @running p t m producing output accepts pending goes left =>
      cases unread : s.pipe.unread with
      | nil =>
          cases writing : s.pipe.writing with
          | true =>
              have resting : s.after .read = s := by
                rw [after, readOnce?, producing]
                simp [unread, writing]
              have met : s.finding .read = .nothing := by
                rw [finding, Pipe.find, unread]
                simp [writing]
              refine Progress.calm ?_ (by simp) (by rw [resting]) (by rw [met]; rfl)
                fun _ => by rw [met]; rfl
              rw [resting]
              exact .running producing output accepts pending goes left
          | false =>
              refine step_end output accepts pending goes left ?_
                (Pipe.supply_of_ended unread writing) ?_
              · rw [Pipe.find, unread]
                simp [writing]
              · rw [readOnce?, producing]
                simp [unread, writing]
      | cons arrival rest =>
          cases arrival with
          | failure =>
              refine step_end output accepts pending goes left ?_ (Pipe.supply_of_failure unread) ?_
              · rw [Pipe.find, unread]
              · rw [readOnce?, producing]
                simp [unread]
          | data bytes => exact step_bytes producing output accepts pending goes left unread

theorem Progress.step (h : Progress total s beats) (d : Deed) : Step total s beats d := by
  cases d with
  | arrival a => exact h.step_arrival a
  | inputEnds => exact h.step_inputEnds
  | read => exact h.step_read
  | tick => exact h.step_tick
  | collect => exact h.step_collect

/-! ## Whole runs -/

theorem run_cons (s : ReaderSource) (d : Deed) (rest : List Deed) :
    s.run (d :: rest) = (s.after d).run rest := rfl

theorem append_beats_cons (s : ReaderSource) (beats : List Beat) (d : Deed) (rest : List Deed) :
    beats ++ s.beats (d :: rest) = (beats ++ [s.beat d]) ++ (s.after d).beats rest := by
  simp [ReaderSource.beats]

theorem Progress.regular (h : Progress total s beats) (regular : Regular beats)
    (deeds : List Deed) : Regular (beats ++ s.beats deeds) := by
  induction deeds generalizing total s beats with
  | nil => rwa [ReaderSource.beats, List.append_nil]
  | cons d rest ih =>
      have step := h.step d
      rw [append_beats_cons]
      exact ih step.progress (regular.concat step.posts step.quiet)

theorem Progress.run (h : Progress total s beats) (deeds : List Deed) :
    Progress (fun feeds => total (deeds.flatMap Deed.feeds ++ feeds)) (s.run deeds)
      (beats ++ s.beats deeds) := by
  induction deeds generalizing total s beats with
  | nil => simpa [ReaderSource.run, ReaderSource.beats] using h
  | cons d rest ih =>
      rw [append_beats_cons, run_cons]
      simpa [List.append_assoc] using ih (h.step d).progress

/-- **What was read was supplied**, and when the end is posted it is all of that. -/
theorem Progress.drawn (h : Progress total s beats) (feeds : List Feed) :
    taken beats <+: total feeds ∧ (.ended ∈ reports beats → taken beats = total feeds) := by
  cases h with
  | running _ _ _ _ goes left =>
      exact ⟨⟨_, (left feeds).symm⟩, fun ended => absurd ended goes⟩
  | finished _ _ _ _ left =>
      rw [left feeds]
      exact ⟨List.prefix_rfl, fun _ => rfl⟩

/-- **Every report is collected in its turn, or is still under way.** -/
theorem Progress.delivered (h : Progress total s beats) (deeds : List Deed) :
    (s.beats deeds).flatMap Beat.collected ++ (s.run deeds).waiting =
      s.waiting ++ reports (s.beats deeds) := by
  induction deeds generalizing total s beats with
  | nil => exact (List.append_nil _).symm
  | cons d rest ih =>
      have step := h.step d
      have later := ih step.progress
      rw [ReaderSource.beats, List.flatMap_cons, List.append_assoc, run_cons, later,
        ← List.append_assoc, step.delivers, reports_cons, List.append_assoc]

/-- What a source is, apart from its input and its producer. -/
structure Same (s next : ReaderSource) : Prop where
  /-- Its name. -/
  label : next.label = s.label
  /-- How much it reads at once. -/
  chunk : next.chunk = s.chunk
  /-- Whether it was called. -/
  idle : next.idle = s.idle

theorem same_after (s : ReaderSource) (d : Deed) : s.Same (s.after d) := by
  cases d with
  | arrival a => exact ⟨rfl, rfl, rfl⟩
  | inputEnds => exact ⟨rfl, rfl, rfl⟩
  | collect => exact ⟨rfl, rfl, rfl⟩
  | read =>
      rw [after, readOnce?]
      repeat' split
      all_goals exact ⟨rfl, rfl, rfl⟩
  | tick =>
      rw [after, cut]
      split
      · exact ⟨rfl, rfl, rfl⟩
      · dsimp only
        split <;> exact ⟨rfl, rfl, rfl⟩

theorem length_taken_le (s : ReaderSource) (d : Deed) :
    (s.beat d).finding.taken.length ≤ s.chunk := by
  have bounded (p : Pipe) (chunk : Nat) : (p.find chunk).taken.length ≤ chunk := by
    rw [Pipe.find]
    split
    · exact List.length_take_le _ _
    · exact Nat.zero_le _
    · split <;> exact Nat.zero_le _
  cases d with
  | read => exact bounded s.pipe s.chunk
  | arrival | inputEnds | tick | collect => exact Nat.zero_le _

theorem length_taken_le_of_mem {deeds : List Deed} {b : Beat} (h : b ∈ s.beats deeds) :
    b.finding.taken.length ≤ s.chunk := by
  induction deeds generalizing s with
  | nil => cases h
  | cons d rest ih =>
      rcases List.mem_cons.mp h with rfl | later
      · exact s.length_taken_le d
      · have bound := ih later
        rwa [(s.same_after d).chunk] at bound

/-! ## Calls -/

/-- What happens to a source, with the calls that are made to it. -/
inductive Doing where
  /-- It works, or something happens around it. -/
  | deed (d : Deed)
  /-- It is called at the time `now`. -/
  | call (c : SourceCall) (now : Nat)

/-- A doing is a call. -/
def Doing.isCall : Doing → Bool
  | deed _ => false
  | call _ _ => true

/-- The source after a doing. -/
def heed (s : ReaderSource) : Doing → ReaderSource
  | .deed d => s.after d
  | .call (.start cadence) now => s.start cadence now
  | .call .stop _ => s.stop

theorem label_heed (s : ReaderSource) (x : Doing) : (s.heed x).label = s.label := by
  cases x with
  | deed d => exact (s.same_after d).label
  | call c now =>
      cases c with
      | start cadence =>
          rw [heed, start]
          split <;> rfl
      | stop => rfl

/-- Every call uses up the source. -/
theorem idle_heed (s : ReaderSource) (x : Doing) : (s.heed x).idle = (s.idle && !x.isCall) := by
  cases x with
  | deed d => exact (s.same_after d).idle.trans (Bool.and_true _).symm
  | call c now =>
      cases c with
      | start cadence =>
          rw [heed, start]
          cases idle : s.idle <;> simp [idle, Doing.isCall]
      | stop => exact (Bool.and_false _).symm

/-- **Only the very first call can start a source.** -/
theorem refusal_foldl_heed (s : ReaderSource) (doings : List Doing) :
    (doings.foldl heed s).refusal =
      if s.idle && !doings.any Doing.isCall then none else some (.alreadyStarted s.label) := by
  induction doings generalizing s with
  | nil => cases idle : s.idle <;> simp [refusal, idle]
  | cons x rest ih =>
      rw [List.foldl_cons, ih, label_heed, idle_heed]
      simp [Bool.and_assoc]

/-- **A source cuts its input into segments and starts once.**  However its reads, the ticks of the
clock and the collecting of its reports come, a started source obeys the law of segments for what
its input supplies, and what it posts is collected in its turn or under way; and after whatever
calls and other doings, a start is refused exactly if there was a call before. -/
theorem run_segmented (label : String) (chunk : Nat) (pipe : Pipe) :
    (∀ (cadence : Duration) (now : Nat) (deeds : List Deed),
      let s := (ofPipe label chunk pipe).start cadence now
      Segmented (max chunk 1) (pipe.supply (deeds.flatMap Deed.feeds)) (s.beats deeds) ∧
        (s.beats deeds).flatMap Beat.collected ++ (s.run deeds).waiting =
          reports (s.beats deeds)) ∧
    ∀ doings : List Doing, (doings.foldl heed (ofPipe label chunk pipe)).refusal =
      if doings.any Doing.isCall then some (.alreadyStarted label) else none := by
  refine ⟨fun cadence now deeds => ?_, fun doings => ?_⟩
  · intro s
    have begun : Progress pipe.supply s [] :=
      .running (p := .fresh) (t := .start cadence now) (m := .fresh) rfl rfl rfl rfl
        (by simp [reports]) fun _ => rfl
    have regular := begun.regular .nil deeds
    have drawn := (begun.run deeds).drawn []
    rw [List.nil_append] at regular drawn
    rw [List.append_nil] at drawn
    refine ⟨⟨regular.posts, ?_, drawn.1, drawn.2, regular.accounted⟩, begun.delivered deeds⟩
    intro b hb
    exact length_taken_le_of_mem hb
  · rw [refusal_foldl_heed]
    cases doings.any Doing.isCall <;> rfl

/-- Two ticks follow a read of two bytes, and only the first posts a segment.  Another read finds
one byte, one more byte arrives, and then the input fails: what arrives behind that is not
supplied. -/
theorem run_segmented_failing :
    let pipe : Pipe := ⟨[.data [1, 2, 3]], true, true⟩
    let s := (ofPipe "input" 2 pipe).start (.ofMillis 250) 0
    let deeds : List Deed := [.read, .tick, .tick, .read, .arrival (.data [4]), .collect,
      .arrival .failure, .arrival (.data [5]), .read, .read, .read, .tick]
    reports (s.beats deeds) = [.segment [1, 2], .segment [3, 4], .ended] ∧
      taken (s.beats deeds) = [1, 2, 3, 4] ∧
      pipe.supply (deeds.flatMap Deed.feeds) = [1, 2, 3, 4] ∧
      (s.beats deeds).flatMap Beat.collected ++ (s.run deeds).waiting =
        [.segment [1, 2], .segment [3, 4], .ended] := by
  intro pipe s deeds
  obtain ⟨law, delivered⟩ := (run_segmented "input" 2 pipe).1 (.ofMillis 250) 0 deeds
  have posted : reports (s.beats deeds) = [.segment [1, 2], .segment [3, 4], .ended] := by decide
  have read : taken (s.beats deeds) = [1, 2, 3, 4] := by decide
  have ended : .ended ∈ reports (s.beats deeds) := by simp [posted]
  exact ⟨posted, read, (law.whole ended).symm.trans read, delivered.trans posted⟩

end ReaderSource

end Livecast
