import Livecast.Proofs.WebSocket.Writing

/-!
# Nothing overtakes the closing of a link

The session calls a link while the writing task of the link works behind it, and a call may come
while the task is in the middle of a write.  Whatever the calls, the moments at which the task goes
on and the writes that the stream refuses, the stream gets the frames that were passed to the link
before it was closed, in their order, and behind all of them it is closed.

## Main Definitions

* `Relay` - a link and its writing task, which may be in the middle of a write
* `Relay.Step`, `Relay.Deed` - what can happen to them, and what is seen of it
* `Relay.step`, `Relay.run` - one thing that happens, and a whole schedule
* `Relay.passed`, `Relay.handed`, `Relay.refusals`, `Relay.posts` - what of a log concerns the link,
  the stream and the session
* `Relay.Flow` - what has become of the frames that were passed
* `InOrder` - the law of the link

## Main Statements

* `Relay.finish_begin` - the two steps of a write are the one step of the writing task
* `Relay.Flow.order_cases` - the stream gets the frames in order, and is closed behind all of them
* `Relay.Sound.step` - whatever happens next, the frames are where they belong
* `Relay.Sound.exists_done` - a task that has not ended can write everything
* `Relay.run_inOrder` - every schedule obeys the law

## Design Notes

A write takes two steps, so that calls can come between them: the writing task hands something to
the stream, and the stream is done with it.  What is being written stays in front of the queue until
then, where no call can reach it.

A link that has been given up belongs to nobody, so a call of it is no step at all.
-/

namespace Livecast

variable {L : Type}

/-- A link and its writing task. -/
structure Relay where
  /-- The connection to which both belong. -/
  connection : Connection
  /-- The task is writing what is in front of the queue. -/
  busy : Bool

namespace Relay

/-- What can happen to a link and its writing task. -/
inductive Step where
  /-- The session passes a frame to the link. -/
  | send (f : Frame)
  /-- The session closes the link. -/
  | close
  /-- The session gives the link up. -/
  | drop
  /-- The writing task hands to the stream what is in front of the queue. -/
  | begin
  /-- The stream is done with it; a frame is refused if there is a reason.  A task that has nothing
  to write looks whether anything can follow. -/
  | finish (refused : Option String)

/-- What is seen of a link and its writing task. -/
inductive Deed (L : Type) where
  /-- A frame was passed to the link, which refused it if there is an error. -/
  | passed (f : Frame) (error : Option SessionFailure)
  /-- The link was closed, or given up. -/
  | closed
  /-- Something was handed to the stream. -/
  | handed (d : Dispatch)
  /-- The stream refused the frame that was handed to it. -/
  | refused (reason : String)
  /-- An event was posted to the session. -/
  | posted (event : Event L)
  /-- The writing task ended. -/
  | ended

/-- A link on which nothing has happened, and its idle task. -/
def fresh : Relay := ⟨.fresh, false⟩

/-- What a task that may be in the middle of a write has in hand. -/
def hand (busy : Bool) (queue : Mailbox Dispatch) : List Dispatch :=
  if busy then queue.items.head?.toList else []

/-- Why the stream refuses a frame that is being written, if it does. -/
def refusal (r : Relay) (refused : Option String) : Option String :=
  match hand r.busy r.connection.outbound with
  | [.frame _] => refused
  | _ => none

/-- The session calls the link, if it has not given it up. -/
def call (r : Relay) (act : Connection → Connection) (deed : Deed L) : Relay × List (Deed L) :=
  if r.connection.outbound.sending then ({ r with connection := act r.connection }, [deed])
  else (r, [])

/-- The task hands to the stream what is in front of the queue. -/
def begin (r : Relay) : Relay × List (Deed L) :=
  match r.busy, r.connection.isWriting, r.connection.outbound.items with
  | false, true, d :: _ => ({ r with busy := true }, [.handed d])
  | _, _, _ => (r, [])

/-- The stream is done with what the task is writing, or the task finds nothing to write. -/
def finish (r : Relay) (refused : Option String) : Relay × List (Deed L) :=
  if r.busy || r.connection.outbound.items.isEmpty then
    match r.connection.write? refused with
    | none => (r, [])
    | some (next, events) =>
      (⟨next, false⟩, (r.refusal refused).toList.map .refused ++ events.map .posted ++
        if next.isWriting then [] else [.ended])
  else (r, [])

/-- One thing that happens, and what is seen of it. -/
def step (r : Relay) : Step → Relay × List (Deed L)
  | .send f => r.call (·.send f) (.passed f r.connection.refusal)
  | .close => r.call .close .closed
  | .drop => r.call .drop .closed
  | .begin => r.begin
  | .finish refused => r.finish refused

/-- A schedule: one thing happens after the other. -/
def run (r : Relay) : List Step → Relay × List (Deed L)
  | [] => (r, [])
  | s :: rest =>
    let (next, deeds) := r.step s
    let (last, more) := next.run rest
    (last, deeds ++ more)

/-- **The two steps of a write are the one step of the writing task**, if nothing comes between
them. -/
theorem finish_begin (r : Relay) (refused : Option String) :
    ((r.begin (L := L)).1.finish (L := L) refused).1.connection =
      ((r.connection.write? (L := L) refused).map Prod.fst).getD r.connection := by
  cases idle : r.busy with
  | true =>
      have busy : r.begin (L := L) = (r, []) := by simp [begin, idle]
      rw [busy, finish, idle, Bool.true_or, if_pos rfl]
      cases r.connection.write? (L := L) refused <;> rfl
  | false =>
      cases items : r.connection.outbound.items with
      | nil =>
          have waits : r.begin (L := L) = (r, []) := by simp [begin, items]
          rw [waits, finish, items, List.isEmpty_nil, Bool.or_true, if_pos rfl]
          cases r.connection.write? (L := L) refused <;> rfl
      | cons d rest =>
          cases writing : r.connection.isWriting with
          | false =>
              have ended : r.begin (L := L) = (r, []) := by simp [begin, writing]
              simp [ended, finish, idle, items, Connection.write?, writing]
          | true =>
              have begun : (r.begin (L := L)).1 = { r with busy := true } := by
                simp [begin, idle, writing, items]
              rw [begun, finish, Bool.true_or, if_pos rfl]
              cases r.connection.write? (L := L) refused <;> rfl

theorem finish_begin_of_writes {r : Relay} {refused : Option String} {next : Connection}
    {events : List (Event L)} (step : r.connection.Writes refused next events) :
    ((r.begin (L := L)).1.finish (L := L) refused).1.connection = next := by
  rw [finish_begin, Connection.write?_eq_some_iff.mpr step]
  rfl

theorem fst_run_cons (r : Relay) (s : Step) (rest : List Step) :
    (r.run (L := L) (s :: rest)).1 = ((r.step (L := L) s).1.run (L := L) rest).1 := rfl

theorem fst_run_append (r : Relay) (steps more : List Step) :
    (r.run (L := L) (steps ++ more)).1 = ((r.run (L := L) steps).1.run (L := L) more).1 := by
  induction steps generalizing r with
  | nil => rfl
  | cons s rest ih => rw [List.cons_append, fst_run_cons, fst_run_cons, ih]

end Relay

/-! ## What is read off a log -/

namespace Relay

/-- What a deed hands to the stream. -/
@[simp] def Deed.handed? : Deed L → Option Dispatch
  | .handed d => some d
  | _ => none

/-- The reason of a refusal. -/
@[simp] def Deed.refused? : Deed L → Option String
  | .refused reason => some reason
  | _ => none

/-- The event that a deed posts. -/
@[simp] def Deed.posted? : Deed L → Option (Event L)
  | .posted event => some event
  | _ => none

/-- The frames that were passed to the link before it was closed, in order. -/
def passed : List (Deed L) → List Frame
  | [] => []
  | .closed :: _ => []
  | .passed f _ :: rest => f :: passed rest
  | _ :: rest => passed rest

/-- What was handed to the stream, in order. -/
def handed (log : List (Deed L)) : List Dispatch := log.filterMap Deed.handed?

/-- The reasons for which the stream refused frames. -/
def refusals (log : List (Deed L)) : List String := log.filterMap Deed.refused?

/-- The events that were posted to the session. -/
def posts (log : List (Deed L)) : List (Event L) := log.filterMap Deed.posted?

@[simp] theorem handed_nil : handed ([] : List (Deed L)) = [] := rfl

@[simp] theorem refusals_nil : refusals ([] : List (Deed L)) = [] := rfl

@[simp] theorem posts_nil : posts ([] : List (Deed L)) = [] := rfl

@[simp] theorem handed_cons (d : Deed L) (log : List (Deed L)) :
    handed (d :: log) = d.handed?.toList ++ handed log := by
  cases d <;> rfl

@[simp] theorem refusals_cons (d : Deed L) (log : List (Deed L)) :
    refusals (d :: log) = d.refused?.toList ++ refusals log := by
  cases d <;> rfl

@[simp] theorem posts_cons (d : Deed L) (log : List (Deed L)) :
    posts (d :: log) = d.posted?.toList ++ posts log := by
  cases d <;> rfl

@[simp] theorem handed_append (log more : List (Deed L)) :
    handed (log ++ more) = handed log ++ handed more := List.filterMap_append

@[simp] theorem refusals_append (log more : List (Deed L)) :
    refusals (log ++ more) = refusals log ++ refusals more := List.filterMap_append

@[simp] theorem posts_append (log more : List (Deed L)) :
    posts (log ++ more) = posts log ++ posts more := List.filterMap_append

theorem passed_append {log : List (Deed L)} (unclosed : .closed ∉ log) (more : List (Deed L)) :
    passed (log ++ more) = passed log ++ passed more := by
  induction log with
  | nil => rfl
  | cons d rest ih =>
      have later : .closed ∉ rest := fun closed => unclosed (List.mem_cons_of_mem d closed)
      cases d with
      | closed => simp at unclosed
      | _ => simp [passed, ih later]

theorem passed_append_of_closed {log : List (Deed L)} (closed : .closed ∈ log)
    (more : List (Deed L)) : passed (log ++ more) = passed log := by
  induction log with
  | nil => simp at closed
  | cons d rest ih => cases d <;> simp_all [passed]

/-- What is not a call of the link does not pass a frame. -/
theorem passed_append_eq {more : List (Deed L)} (aside : passed more = []) (log : List (Deed L)) :
    passed (log ++ more) = passed log := by
  by_cases closed : .closed ∈ log
  · exact passed_append_of_closed closed more
  · rw [passed_append closed, aside, List.append_nil]

/-- The frames that were passed stay passed. -/
theorem passed_isPrefix (log more : List (Deed L)) : passed log <+: passed (log ++ more) := by
  by_cases closed : .closed ∈ log
  · exact (passed_append_of_closed closed more).symm ▸ List.prefix_rfl
  · rw [passed_append closed]
    exact List.prefix_append _ _

/-! ## What has become of the frames -/

variable {log : List (Deed L)} {r : Relay}

/-- What a queue consists of from which `todo` is still to be written. -/
inductive Queue (closed : Prop) (todo items : List Dispatch) : Prop where
  /-- The link has not been closed. -/
  | awaiting (unclosed : ¬closed) (queue : items = todo)
  /-- The link has been closed, and what is behind the wish to close it is never written. -/
  | closing (done : closed) (late : List Dispatch) (queue : items = todo ++ .close :: late)

namespace Queue

variable {closed : Prop} {todo rest : List Dispatch}

/-- A frame in front is still to be written. -/
theorem later {f : Frame} (h : Queue closed todo (.frame f :: rest)) :
    ∃ later, todo = .frame f :: later ∧ Queue closed later rest := by
  cases h with
  | awaiting unclosed queue => exact ⟨rest, queue.symm, .awaiting unclosed rfl⟩
  | closing done late queue =>
      cases todo with
      | nil => simp at queue
      | cons d later =>
          obtain ⟨rfl, behind⟩ := List.cons_eq_cons.mp queue
          exact ⟨later, rfl, .closing done late behind⟩

/-- When the wish to close the link is in front, nothing is left to be written. -/
theorem empty (h : Queue closed todo (.close :: rest)) (frames : .close ∉ todo) :
    todo = [] ∧ closed := by
  cases todo with
  | nil =>
      cases h with
      | awaiting _ queue => simp at queue
      | closing done => exact ⟨rfl, done⟩
  | cons d later =>
      cases h with
      | awaiting _ queue => simp [← queue] at frames
      | closing _ _ queue =>
          obtain ⟨rfl, -⟩ := List.cons_eq_cons.mp queue
          simp at frames

end Queue

/-- **What has become of the frames** that were passed to the link before it was closed: what is on
the stream, in the hand of the task and in the queue. -/
inductive Flow (log : List (Deed L)) (busy : Bool) (queue : Mailbox Dispatch)
    (written : List Dispatch) : Prop where
  /-- The writing task works: what has not been written is in the queue. -/
  | working (todo : List Dispatch) (runs : queue.receiving = true) (unended : .ended ∉ log)
      (smooth : refusals log = []) (items : Queue (.closed ∈ log) todo queue.items)
      (conserved : written ++ todo = (passed log).map .frame)
      (order : handed log = written ++ hand busy queue) (busy : busy = true → queue.items ≠ [])
  /-- It has written everything, has closed the stream, and has ended. -/
  | finished (idle : busy = false) (stands : queue.receiving = false) (ended : .ended ∈ log)
      (smooth : refusals log = []) (closed : .closed ∈ log)
      (conserved : written = (passed log).map .frame ++ [.close]) (order : handed log = written)
  /-- It has ended because a frame was refused. -/
  | broken (f : Frame) (reason : String) (idle : busy = false) (stands : queue.receiving = false)
      (ended : .ended ∈ log) (refused : refusals log = [reason])
      (order : handed log = written ++ [.frame f]) (early : handed log <+: (passed log).map .frame)

namespace Flow

variable {busy : Bool} {queue : Mailbox Dispatch} {written : List Dispatch}

/-- What is put behind a queue is not in the hand of the task. -/
theorem hand_push (waiting : busy = true → queue.items ≠ []) (d : Dispatch) :
    hand busy { queue with items := queue.items ++ [d] } = hand busy queue := by
  cases busy with
  | false => rfl
  | true =>
      obtain ⟨first, rest, items⟩ := List.exists_cons_of_ne_nil (waiting rfl)
      simp [hand, items]

theorem send_of_stands (stands : queue.receiving = false) (d : Dispatch) :
    queue.send d = queue := by
  simp [Mailbox.send, Mailbox.accepts, stands]

/-- What is done to a link behind which nobody writes does not change anything. -/
theorem lost (h : Flow log busy queue written) (stands : queue.receiving = false) {d : Deed L}
    (unhanded : d.handed? = none) (unrefused : d.refused? = none) :
    Flow (log ++ [d]) busy queue written := by
  have same : handed (log ++ [d]) = handed log := by
    rw [handed_append, handed_cons, unhanded]
    exact List.append_nil _
  have quiet : refusals (log ++ [d]) = refusals log := by
    rw [refusals_append, refusals_cons, unrefused]
    exact List.append_nil _
  cases h with
  | working _ runs => simp [runs] at stands
  | finished idle _ ended smooth closed conserved order =>
      exact .finished idle stands (List.mem_append_left _ ended) (quiet.trans smooth)
        (List.mem_append_left _ closed) (by rw [passed_append_of_closed closed, conserved])
        (same.trans order)
  | broken f reason idle _ ended refused order early =>
      have more := (passed_isPrefix log [d]).map Dispatch.frame
      exact .broken f reason idle stands (List.mem_append_left _ ended) (quiet.trans refused)
        (same.trans order) (same ▸ early.trans more)

/-- A frame that is passed to the link goes behind everything else. -/
theorem send (h : Flow log busy queue written) (owned : queue.sending = true) (f : Frame)
    (e : Option SessionFailure) :
    Flow (log ++ [.passed f e]) busy (queue.send (.frame f)) written := by
  cases runs : queue.receiving with
  | false =>
      rw [send_of_stands runs]
      exact h.lost runs rfl rfl
  | true =>
      have accepts : queue.accepts = true := by simp [Mailbox.accepts, owned, runs]
      rw [Mailbox.send_of_accepts accepts]
      cases h with
      | working todo _ unended smooth items conserved order waiting =>
          have order' : handed (log ++ [.passed f e]) =
              written ++ hand busy { queue with items := queue.items ++ [.frame f] } := by
            simp [hand_push waiting, order]
          cases items with
          | awaiting unclosed items =>
              refine .working (todo ++ [.frame f]) runs (by simpa using unended)
                (by simpa using smooth) (.awaiting (by simpa using unclosed) (by simp [items])) ?_
                order' (by simp)
              simp [passed_append unclosed, passed, ← conserved]
          | closing done late items =>
              refine .working todo runs (by simpa using unended) (by simpa using smooth)
                (.closing (by simpa using done) (late ++ [.frame f]) (by simp [items])) ?_ order'
                (by simp)
              rw [passed_append_of_closed done, conserved]
      | finished _ stands | broken _ _ _ stands => simp [runs] at stands

/-- The wish to close the link goes behind everything else. -/
theorem close (h : Flow log busy queue written) (owned : queue.sending = true)
    (unclosed : .closed ∉ log) : Flow (log ++ [.closed]) busy (queue.send .close) written := by
  cases runs : queue.receiving with
  | false =>
      rw [send_of_stands runs]
      exact h.lost runs rfl rfl
  | true =>
      have accepts : queue.accepts = true := by simp [Mailbox.accepts, owned, runs]
      rw [Mailbox.send_of_accepts accepts]
      cases h with
      | working todo _ unended smooth items conserved order waiting =>
          cases items with
          | awaiting _ items =>
              refine .working todo runs (by simpa using unended) (by simpa using smooth)
                (.closing (by simp) [] (by simp [items])) ?_ ?_ (by simp)
              · simp [passed_append unclosed, passed, ← conserved]
              · simp [hand_push waiting, order]
          | closing done => exact absurd done unclosed
      | finished _ stands | broken _ _ _ stands => simp [runs] at stands

/-- Closing the link again does nothing. -/
theorem closeAgain (h : Flow log busy queue written) (closed : .closed ∈ log) :
    Flow (log ++ [.closed]) busy queue written := by
  cases runs : queue.receiving with
  | false => exact h.lost runs rfl rfl
  | true =>
      cases h with
      | working todo _ unended smooth items conserved order waiting =>
          refine .working todo runs (by simpa using unended) (by simpa using smooth) ?_
            (by rw [passed_append_of_closed closed, conserved]) (by simpa using order) waiting
          cases items with
          | awaiting unclosed => exact absurd closed unclosed
          | closing _ late items => exact .closing (by simp) late items
      | finished _ stands | broken _ _ _ stands => simp [runs] at stands

/-- Whether there is someone who can call the link does not matter to what was passed to it. -/
theorem dropSender (h : Flow log busy queue written) : Flow log busy queue.dropSender written := by
  cases h with
  | working todo runs unended smooth items conserved order waiting =>
      exact .working todo runs unended smooth items conserved order waiting
  | finished idle stands ended smooth closed conserved order =>
      exact .finished idle stands ended smooth closed conserved order
  | broken g reason idle stands ended refused order early =>
      exact .broken g reason idle stands ended refused order early

/-- The task takes up what is in front of the queue. -/
theorem begin (h : Flow log false queue written) (runs : queue.receiving = true) {d : Dispatch}
    {rest : List Dispatch} (front : queue.items = d :: rest) :
    Flow (log ++ [.handed d]) true queue written := by
  cases h with
  | working todo _ unended smooth items conserved order =>
      refine .working todo runs (by simpa using unended) (by simpa using smooth)
        (by simpa using items) (conserved.trans ?_) ?_ (by simp [front])
      · rw [passed_append_eq rfl]
      · simp [order, hand, front]
  | finished _ stands | broken _ _ _ stands => simp [runs] at stands

/-- The stream takes a frame. -/
theorem wrote (h : Flow log true queue written) (runs : queue.receiving = true) {f : Frame}
    {rest : List Dispatch} (front : queue.items = .frame f :: rest) :
    Flow log false { queue with items := rest } (written ++ [.frame f]) := by
  cases h with
  | working todo _ unended smooth items conserved order =>
      rw [front] at items
      obtain ⟨later, rfl, behind⟩ := items.later
      exact .working later runs unended smooth behind (by simpa using conserved)
        (by simpa [hand, front] using order) (by simp)
  | finished _ stands | broken _ _ _ stands => simp [runs] at stands

/-- The stream refuses a frame. -/
theorem refused (h : Flow log true queue written) (runs : queue.receiving = true) {f : Frame}
    {rest : List Dispatch} (front : queue.items = .frame f :: rest) (reason : String) :
    Flow (log ++ [.refused reason, .posted (.errored reason), .ended]) false
      ({ queue with items := rest } : Mailbox Dispatch).dropReceiver written := by
  cases h with
  | working todo _ unended smooth items conserved order =>
      rw [front] at items
      obtain ⟨later, rfl, behind⟩ := items.later
      refine .broken f reason rfl rfl (by simp) (by simp [smooth])
        (by simp [order, hand, front]) ?_
      rw [passed_append_eq rfl, ← conserved]
      exact ⟨later, by simp [order, hand, front]⟩
  | finished _ stands | broken _ _ _ stands => simp [runs] at stands

/-- The stream is closed behind everything else. -/
theorem closed (h : Flow log true queue written) (runs : queue.receiving = true)
    {rest : List Dispatch} (front : queue.items = .close :: rest) :
    Flow (log ++ [.ended]) false ({ queue with items := rest } : Mailbox Dispatch).dropReceiver
      (written ++ [.close]) := by
  cases h with
  | working todo _ unended smooth items conserved order =>
      rw [front] at items
      have frames : .close ∉ todo := fun among => by
        have all : Dispatch.close ∈ (passed log).map .frame := by simp [← conserved, among]
        simp at all
      obtain ⟨rfl, done⟩ := items.empty frames
      refine .finished rfl rfl (by simp) (by simpa using smooth) (by simpa using done)
        ?_ (by simp [order, hand, front])
      rw [passed_append_eq rfl, ← conserved, List.append_nil]
  | finished _ stands | broken _ _ _ stands => simp [runs] at stands

end Flow

/-- What is true of a link and its writing task after some deeds. -/
structure Sound (log : List (Deed L)) (r : Relay) : Prop where
  /-- The link is held until it is closed. -/
  held : r.connection.held = true ↔ .closed ∉ log
  /-- It is not given up without being closed. -/
  owned : r.connection.held = true → r.connection.outbound.sending = true
  /-- Each refusal has been reported. -/
  reported : posts log = (refusals log).map .errored
  /-- The frames are where they belong. -/
  flow : Flow log r.busy r.connection.outbound r.connection.written

theorem sound_fresh : Sound ([] : List (Deed L)) fresh where
  held := by simp [fresh, Connection.fresh]
  owned := fun _ => rfl
  reported := rfl
  flow := .working [] rfl (by simp) rfl (.awaiting (by simp) rfl) rfl rfl (by simp [fresh])

namespace Flow

variable {busy : Bool} {queue : Mailbox Dispatch} {written : List Dispatch}

theorem exists_front (h : Flow log true queue written) :
    queue.receiving = true ∧ ∃ d rest, queue.items = d :: rest := by
  cases h with
  | working _ runs _ _ _ _ _ busy => exact ⟨runs, List.exists_cons_of_ne_nil (busy rfl)⟩
  | finished idle | broken _ _ idle => simp at idle

/-- The task has ended when nobody receives any more. -/
theorem ended_iff (h : Flow log busy queue written) : .ended ∈ log ↔ queue.receiving = false := by
  cases h with
  | working _ runs unended => simp [runs, unended]
  | finished _ stands ended | broken _ _ _ stands ended => simp [stands, ended]

/-- While the task works, its hand holds the next frame, or the wish to close the stream when all
frames have been written. -/
theorem hand_cases {todo : List Dispatch} {closed : Prop} (items : Queue closed todo queue.items) :
    hand busy queue <+: todo ∨ todo = [] ∧ closed ∧ hand busy queue = [.close] := by
  cases busy with
  | false => exact .inl (List.nil_prefix)
  | true =>
      cases items with
      | awaiting _ front =>
          refine .inl ?_
          rw [hand, front]
          cases todo <;> simp
      | closing done late front =>
          cases todo with
          | nil => exact .inr ⟨rfl, done, by simp [hand, front]⟩
          | cons d rest => exact .inl (by simp [hand, front])

/-- **The stream gets the frames in order, and is closed behind all of them.** -/
theorem order_cases (h : Flow log busy queue written) :
    handed log <+: (passed log).map .frame ∨
      .closed ∈ log ∧ handed log = (passed log).map .frame ++ [.close] := by
  cases h with
  | working todo _ _ _ items conserved order =>
      rw [order, ← conserved]
      rcases hand_cases items with next | ⟨rfl, closed, last⟩
      · exact .inl ((List.prefix_append_right_inj written).mpr next)
      · exact .inr ⟨closed, by rw [last, List.append_nil]⟩
  | finished _ _ _ _ closed conserved order => exact .inr ⟨closed, order.trans conserved⟩
  | broken _ _ _ _ _ _ _ early => exact .inl early

end Flow

namespace Sound

theorem send (h : Sound log r) (owned : r.connection.outbound.sending = true) (f : Frame) :
    Sound (log ++ [.passed f r.connection.refusal])
      { r with connection := r.connection.send f } where
  held := by simpa [Connection.send] using h.held
  owned := fun _ => by simp [Connection.send, Mailbox.send, apply_ite, owned]
  reported := by simpa using h.reported
  flow := h.flow.send owned f _

theorem close (h : Sound log r) (owned : r.connection.outbound.sending = true) :
    Sound (log ++ [.closed]) { r with connection := r.connection.close } := by
  have reported : posts (log ++ [.closed]) = (refusals (log ++ [.closed])).map .errored := by
    simpa using h.reported
  by_cases held : r.connection.held = true
  · rw [Connection.close, if_pos held]
    exact ⟨by simp, by simp, reported, h.flow.close owned (h.held.mp held)⟩
  · have closed : .closed ∈ log := Classical.not_not.mp (mt h.held.mpr held)
    rw [Connection.close, if_neg held]
    exact ⟨by simpa using held, h.owned, reported, h.flow.closeAgain closed⟩

theorem drop (h : Sound log r) (owned : r.connection.outbound.sending = true) :
    Sound (log ++ [.closed]) { r with connection := r.connection.drop } := by
  obtain ⟨held, -, reported, flow⟩ := h.close owned
  exact ⟨held, fun still => absurd (held.mp still) (by simp), reported, flow.dropSender⟩

theorem call (h : Sound log r) {act : Connection → Connection} {deed : Deed L}
    (acts : r.connection.outbound.sending = true →
      Sound (log ++ [deed]) { r with connection := act r.connection }) :
    Sound (log ++ (r.call act deed).2) (r.call act deed).1 := by
  unfold Relay.call
  split
  · next owned => exact acts owned
  · simpa using h

theorem begin (h : Sound log r) : Sound (log ++ r.begin.2) (r.begin (L := L)).1 := by
  unfold Relay.begin
  split
  · next d rest idle runs front =>
      constructor
      case held => simpa using h.held
      case owned => exact h.owned
      case reported => simpa using h.reported
      case flow => exact (idle ▸ h.flow).begin runs front
  · simpa using h

/-- A task that has nothing to write waits: as long as it works, someone can still pass frames. -/
theorem write?_eq_none (h : Sound log r) (front : r.connection.outbound.items = [])
    (refused : Option String) : r.connection.write? (L := L) refused = none := by
  cases h.flow with
  | working todo runs _ _ items =>
      have unclosed : .closed ∉ log := by
        cases items with
        | awaiting unclosed => exact unclosed
        | closing _ _ queue => simp [front] at queue
      simp [Connection.write?, front, h.owned (h.held.mpr unclosed)]
  | finished _ stands | broken _ _ _ stands => exact Connection.write?_of_ended stands refused

theorem finish (h : Sound log r) (refused : Option String) :
    Sound (log ++ (r.finish refused).2) (r.finish (L := L) refused).1 := by
  cases busy : r.busy with
  | false =>
      by_cases front : r.connection.outbound.items = []
      · simpa [Relay.finish, busy, front, h.write?_eq_none front] using h
      · simpa [Relay.finish, busy, front] using h
  | true =>
      have flow := busy ▸ h.flow
      obtain ⟨runs, d, rest, front⟩ := flow.exists_front
      cases d with
      | close =>
          have done : r.finish (L := L) refused = (⟨{ r.connection with
              outbound := ({ r.connection.outbound with items := rest } :
                Mailbox Dispatch).dropReceiver,
              written := r.connection.written ++ [.close] }, false⟩, [.ended]) := by
            simp [Relay.finish, Connection.write?, Connection.isWriting, busy, front, runs, refusal,
              hand, Mailbox.dropReceiver]
          rw [done]
          exact ⟨by simpa using h.held, h.owned,
            by simpa using h.reported, flow.closed runs front⟩
      | frame f =>
          cases refused with
          | none =>
              have done : r.finish (L := L) none = (⟨{ r.connection with
                  outbound := { r.connection.outbound with items := rest },
                  written := r.connection.written ++ [.frame f] }, false⟩, []) := by
                simp [Relay.finish, Connection.write?, Connection.isWriting, busy, front, runs,
                  refusal, hand]
              rw [done, List.append_nil]
              exact ⟨h.held, h.owned, h.reported, flow.wrote runs front⟩
          | some reason =>
              have done : r.finish (L := L) (some reason) = (⟨{ r.connection with
                  outbound := ({ r.connection.outbound with items := rest } :
                    Mailbox Dispatch).dropReceiver }, false⟩,
                  [.refused reason, .posted (.errored reason), .ended]) := by
                simp [Relay.finish, Connection.write?, Connection.isWriting, busy, front, runs,
                  refusal, hand, Mailbox.dropReceiver]
              rw [done]
              exact ⟨by simpa using h.held, h.owned,
                by simp [h.reported],
                flow.refused runs front reason⟩

/-- **Whatever happens next**, the frames are where they belong. -/
theorem step (h : Sound log r) (s : Step) : Sound (log ++ (r.step s).2) (r.step (L := L) s).1 := by
  cases s with
  | send f => exact h.call fun owned => h.send owned f
  | close => exact h.call h.close
  | drop => exact h.call h.drop
  | begin => exact h.begin
  | finish refused => exact h.finish refused

/-- **Every schedule** leaves the frames where they belong. -/
theorem run (h : Sound log r) (steps : List Step) :
    Sound (log ++ (r.run steps).2) (r.run (L := L) steps).1 := by
  induction steps generalizing log r with
  | nil => simpa [Relay.run] using h
  | cons s rest ih =>
      have more := ih (h.step s)
      rw [List.append_assoc] at more
      exact more

end Sound

/-! ## What can still be written -/

/-- **A task that works can write the frames in front of its queue**, if none is refused. -/
theorem exists_writes (frames : List Frame) {rest : List Dispatch} {r : Relay}
    (works : r.connection.isWriting = true)
    (items : r.connection.outbound.items = frames.map .frame ++ rest) :
    ∃ steps, (∀ s ∈ steps, s = .begin ∨ s = .finish none) ∧
      (r.run (L := L) steps).1.connection.isWriting = true ∧
      (r.run (L := L) steps).1.connection.outbound.items = rest ∧
      (r.run (L := L) steps).1.connection.written =
        r.connection.written ++ frames.map .frame := by
  induction frames generalizing r with
  | nil => exact ⟨[], by simp, works, items, (List.append_nil _).symm⟩
  | cons f later ih =>
      have wrote := finish_begin_of_writes (L := L) (.writes works items)
      obtain ⟨steps, smooth, works', items', written⟩ :=
        ih (r := ((r.begin (L := L)).1.finish (L := L) none).1) (by rw [wrote]; exact works)
          (by rw [wrote]; rfl)
      refine ⟨.begin :: .finish none :: steps, by simpa using smooth, works', items', ?_⟩
      rw [fst_run_cons, fst_run_cons]
      exact written.trans (by rw [wrote, List.append_assoc]; rfl)

/-- **A task that works can close the stream** when it comes to that. -/
theorem written_of_close {r : Relay} {rest : List Dispatch} (works : r.connection.isWriting = true)
    (front : r.connection.outbound.items = .close :: rest) :
    (r.run (L := L) [.begin, .finish none]).1.connection.written =
      r.connection.written ++ [.close] :=
  congrArg Connection.written (finish_begin_of_writes (L := L) (.closes works front))

/-- **A task that has not ended can write everything**, and then close the stream if the link was
closed. -/
theorem Sound.exists_done (h : Sound log r) (unended : .ended ∉ log) :
    ∃ steps, (∀ s ∈ steps, s = .begin ∨ s = .finish none) ∧
      (.closed ∉ log → (r.run (L := L) steps).1.connection.written = (passed log).map .frame) ∧
      (.closed ∈ log →
        (r.run (L := L) steps).1.connection.written = (passed log).map .frame ++ [.close]) := by
  cases h.flow with
  | finished _ _ ended | broken _ _ _ _ ended => exact absurd ended unended
  | working todo runs _ _ items conserved =>
      obtain ⟨-, frames, -, -, rfl⟩ := List.append_eq_map_iff.mp conserved
      cases items with
      | awaiting unclosed queue =>
          obtain ⟨steps, smooth, -, -, written⟩ :=
            exists_writes (L := L) frames runs (queue.trans (List.append_nil _).symm)
          exact ⟨steps, smooth, fun _ => written.trans conserved, fun closed =>
            absurd closed unclosed⟩
      | closing closed late queue =>
          obtain ⟨steps, smooth, works, front, written⟩ := exists_writes (L := L) frames runs queue
          refine ⟨steps ++ [.begin, .finish none], ?_, fun unclosed => absurd closed unclosed,
            fun _ => ?_⟩
          · intro s hs
            rcases List.mem_append.mp hs with hs | hs
            · exact smooth s hs
            · simpa using hs
          · rw [fst_run_append, written_of_close works front, written, conserved]

end Relay

open Relay in
/-- **The law of the link**, for a link and its writing task after some deeds. -/
structure InOrder (log : List (Deed L)) (r : Relay) : Prop where
  /-- What is handed to the stream are the frames that were passed to the link before it was closed,
  in order and each once, and the wish to close the stream behind all of them. -/
  order : handed log <+: (passed log).map .frame ++ [.close]
  /-- The stream is not closed before the link is. -/
  close : .close ∈ handed log → .closed ∈ log ∧ handed log = (passed log).map .frame ++ [.close]
  /-- It is closed once. -/
  close_once : (handed log).count .close ≤ 1
  /-- A task that has ended without a refusal has written all the frames, and closed the stream. -/
  complete : .ended ∈ log → refusals log = [] →
    r.connection.written = (passed log).map .frame ++ [.close]
  /-- What the stream has taken was handed to it. -/
  taken : r.connection.written <+: handed log
  /-- A frame that is passed to the link now is refused only if the task has ended. -/
  error : ∀ f e, .passed f (some e) ∈ (r.step (L := L) (.send f)).2 → .ended ∈ log
  /-- Each refusal is posted as one event, and nothing else is posted. -/
  posted : posts log = (refusals log).map .errored
  /-- There is at most one refusal: the task ends with it. -/
  refused_once : (refusals log).length ≤ 1 ∧ (refusals log ≠ [] → .ended ∈ log)
  /-- A task that has ended does not hand over or post anything any more. -/
  final : .ended ∈ log → ∀ s, handed (r.step (L := L) s).2 = [] ∧ posts (r.step (L := L) s).2 = []
  /-- A task that has not ended can go on by itself: if nothing is refused it writes all the frames
  that were passed, and closes the stream behind them if the link was closed. -/
  progress : .ended ∉ log → ∃ steps, (∀ s ∈ steps, s = .begin ∨ s = .finish none) ∧
    (.closed ∉ log → (r.run (L := L) steps).1.connection.written = (passed log).map .frame) ∧
    (.closed ∈ log →
      (r.run (L := L) steps).1.connection.written = (passed log).map .frame ++ [.close])

namespace Relay

variable {log : List (Deed L)} {r : Relay}

theorem Sound.inOrder (h : Sound log r) : InOrder log r := by
  have frames (fs : List Frame) : Dispatch.close ∉ fs.map .frame := by simp
  constructor
  case order =>
    rcases h.flow.order_cases with early | ⟨-, whole⟩
    · exact early.trans (List.prefix_append _ _)
    · exact whole ▸ List.prefix_rfl
  case close =>
    intro among
    rcases h.flow.order_cases with early | whole
    · exact absurd (early.subset among) (frames _)
    · exact whole
  case close_once =>
    rcases h.flow.order_cases with early | ⟨-, whole⟩
    · rw [List.count_eq_zero.mpr fun among => frames _ (early.subset among)]
      exact Nat.zero_le 1
    · rw [whole, List.count_append, List.count_eq_zero.mpr (frames _)]
      simp
  case complete =>
    intro ended smooth
    cases h.flow with
    | working _ _ unended => exact absurd ended unended
    | finished _ _ _ _ _ conserved => exact conserved
    | broken _ _ _ _ _ refused => simp [refused] at smooth
  case taken =>
    cases h.flow with
    | working _ _ _ _ _ _ order | broken _ _ _ _ _ _ order =>
        rw [order]
        exact List.prefix_append _ _
    | finished _ _ _ _ _ _ order => exact order ▸ List.prefix_rfl
  case error =>
    intro f e refused
    refine h.flow.ended_iff.mpr ?_
    simp only [Relay.step, Relay.call] at refused
    split at refused
    · next owned =>
        have error : some e = r.connection.refusal := by simpa using refused
        cases runs : r.connection.outbound.receiving with
        | true => simp [Connection.refusal, Mailbox.accepts, owned, runs] at error
        | false => rfl
    · simp at refused
  case posted => exact h.reported
  case refused_once =>
    cases h.flow with
    | working _ _ _ smooth | finished _ _ _ smooth => simp [smooth]
    | broken _ _ _ _ ended refused => simp [refused, ended]
  case final =>
    intro ended s
    have stands := h.flow.ended_iff.mp ended
    have stopped := Connection.write?_of_ended (L := L) stands
    cases s with
    | send f | close | drop =>
        simp only [Relay.step, Relay.call]
        split <;> exact ⟨rfl, rfl⟩
    | begin => simp [Relay.step, Relay.begin, Connection.isWriting, stands]
    | finish refused => simp [Relay.step, Relay.finish, stopped]
  case progress => exact h.exists_done

/-- **Every schedule obeys the law of the link**: whatever the calls, the moments at which the
writing task goes on, and the writes that the stream refuses. -/
theorem run_inOrder (steps : List Step) :
    InOrder (fresh.run (L := L) steps).2 (fresh.run (L := L) steps).1 :=
  (sound_fresh.run steps).inOrder

/-- A frame that is passed in the middle of a write follows; one that comes after the closing does
not. -/
example :
    (fresh.run (L := Unit) [.send (.text "a"), .begin, .send (.text "b"), .close,
      .send (.text "late"), .finish none, .begin, .finish none, .drop, .begin,
      .finish none]).1.connection.written = [.frame (.text "a"), .frame (.text "b"), .close] := by
  decide

end Relay

end Livecast
