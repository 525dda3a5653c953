import Livecast.Proofs.Session.Interleaving
import Livecast.Proofs.Session.Playback

/-!
# Media on their way into a file

What is presented to a recorder is in its file, in the hands of its writing task, or in its queue,
in this order.  A task that ends without a failure has nothing left in its hands and nothing in its
queue, so that the file has everything.

## Main Definitions

* `Recorder.Advances` - what a step of the writing task does
* `Recording` - the law of conservation of a recorder

## Main Statements

* `Recorder.step?_advances` - a step of the task does nothing else
* `Recording.present`, `Recording.release`, `Recording.step` - everything that can happen to a
  recorder conserves the media
* `Recording.eq_of_ended` - a task that has ended without a failure has written everything
* `Recording.outcome` - what one event of a session brings to its recorder
-/

namespace Livecast

theorem Disk.write?_conserves {d next : Disk} {bytes rest : Bytes}
    (h : d.write? bytes = some (next, rest)) : next.data ++ rest = d.data ++ bytes := by
  unfold write? at h
  simp only at h
  split at h
  · simp at h
  · obtain ⟨rfl, rfl⟩ := Prod.mk.inj (Option.some.inj h)
    simp

/-! ## The steps of the task -/

namespace Recorder

variable {s next : Recorder}

/-- What a step of the task does. -/
inductive Advances (s : Recorder) : Recorder → Prop
  /-- Some of what it has in hand is written. -/
  | writes {b : UInt8} {left rest : Bytes} {disk : Disk} (task : s.task = .writing (b :: left))
      (taken : s.disk.write? (b :: left) = some (disk, rest)) :
      Advances s { s with disk := disk, task := .writing rest }
  /-- The write is refused. -/
  | fails {b : UInt8} {left : Bytes} (task : s.task = .writing (b :: left))
      (refused : s.disk.write? (b :: left) = none) :
      Advances s { s with task := .ended false, queue := s.queue.dropReceiver }
  /-- It takes the next segment. -/
  | takes {chunk : Bytes} {rest : List Bytes} (task : s.task = .writing [])
      (items : s.queue.items = chunk :: rest) :
      Advances s { s with queue := { s.queue with items := rest }, task := .writing chunk }
  /-- It flushes, since no more can come. -/
  | finishes (task : s.task = .writing []) (items : s.queue.items = [])
      (released : s.queue.sending = false) :
      Advances s { s with task := .ended true, disk := s.disk.flush,
                          queue := s.queue.dropReceiver }

theorem step?_advances (now : s.step? = some next) : Advances s next := by
  unfold step? at now
  cases task : s.task with
  | ended complete => simp [task] at now
  | writing left =>
      cases left with
      | cons b left =>
          cases wrote : s.disk.write? (b :: left) with
          | none =>
              simp only [task, wrote, Option.some.injEq] at now
              exact now ▸ .fails task wrote
          | some result =>
              simp only [task, wrote, Option.some.injEq] at now
              exact now ▸ .writes task wrote
      | nil =>
          cases items : s.queue.items with
          | cons chunk rest =>
              simp only [task, items, Option.some.injEq] at now
              exact now ▸ .takes task items
          | nil =>
              cases sending : s.queue.sending with
              | true => simp [task, items, sending] at now
              | false =>
                  simp only [task, items, sending, Bool.false_eq_true, if_false,
                    Option.some.injEq] at now
                  exact now ▸ .finishes task items sending

end Recorder

/-! ## Nothing gets lost -/

/-- **The law of conservation** of a recorder that was given the media `total`; as long as it is
`held` more can come. -/
inductive Recording (total : Bytes) (held : Bool) (s : Recorder) : Prop where
  /-- The task works. -/
  | writing {left : Bytes} {items : List Bytes} (task : s.task = .writing left)
      (queue : s.queue = ⟨items, held, true⟩)
      (conserved : s.disk.data ++ left ++ items.flatten = total)
  /-- The task has ended with its work done. -/
  | complete (released : held = false) (task : s.task = .ended true)
      (conserved : s.disk.data = total)
  /-- A write has failed. -/
  | failed (task : s.task = .ended false) (conserved : s.disk.data <+: total)

namespace Recording

variable {total : Bytes} {held : Bool} {s : Recorder}

theorem ofDisk (disk : Disk) : Recording disk.data true (.ofDisk disk) :=
  .writing rfl rfl (by simp [Recorder.ofDisk])

/-- **What is presented comes last.** -/
theorem present (h : Recording total true s) (chunk : Bytes) :
    Recording (total ++ chunk) true (s.present chunk) := by
  unfold Recorder.present
  cases h with
  | @writing left items task queue conserved =>
      have listens : s.queue.accepts = true := by rw [queue]; rfl
      have queue' : s.queue.send chunk = ⟨items ++ [chunk], true, true⟩ := by rw [queue]; rfl
      rw [if_pos listens]
      exact .writing task queue' (by simp [← conserved])
  | complete released => simp at released
  | failed task conserved =>
      have longer : s.disk.data <+: total ++ chunk := conserved.trans (List.prefix_append _ _)
      split
      · exact .failed task longer
      · exact .failed task longer

/-- Whoever releases a recorder, or drops it, takes nothing away from it. -/
theorem release (h : Recording total held s) : Recording total false s.release := by
  cases h with
  | writing task queue conserved =>
      exact .writing task (by rw [Recorder.release, queue]; rfl) conserved
  | complete released task conserved => exact .complete rfl task conserved
  | failed task conserved => exact .failed task conserved

/-- **Every step of the task conserves the media.** -/
theorem step (h : Recording total held s) {next : Recorder} (now : s.step? = some next) :
    Recording total held next := by
  cases h with
  | @writing left items working queue conserved =>
      cases Recorder.step?_advances now with
      | writes task taken =>
          obtain rfl := WritingTask.writing.inj (working.symm.trans task)
          refine .writing rfl queue ?_
          rw [Disk.write?_conserves taken, conserved]
      | fails task =>
          obtain rfl := WritingTask.writing.inj (working.symm.trans task)
          exact .failed rfl ⟨_, by simpa using conserved⟩
      | takes task front =>
          obtain rfl := WritingTask.writing.inj (working.symm.trans task)
          obtain rfl : items = _ := (congrArg Mailbox.items queue).symm.trans front
          exact .writing rfl (by rw [queue]) (by simpa using conserved)
      | finishes task front released =>
          obtain rfl := WritingTask.writing.inj (working.symm.trans task)
          obtain rfl : items = _ := (congrArg Mailbox.items queue).symm.trans front
          obtain rfl : held = _ := (congrArg Mailbox.sending queue).symm.trans released
          exact .complete rfl rfl (by simpa [Disk.flush] using conserved)
  | complete _ task | failed task => simp [Recorder.step?, task] at now

/-- **A task that has ended without a failure has written everything.** -/
theorem eq_of_ended (h : Recording total held s) (task : s.task = .ended true) :
    s.disk.data = total ∧ held = false := by
  cases h with
  | writing working => simp [working] at task
  | complete released _ conserved => exact ⟨conserved, released⟩
  | failed broken => simp [broken] at task

/-! ## What one event of the session does to the recorder -/

variable {m next : Machine MeteredLink} {a : Answers} {r : Response MeteredLink}
  {calls : List (Call MeteredLink)}

/-- Of all that a session does, only what it presents and the end of playback reach the
recorder. -/
theorem foldl_played_eq (h : ∀ c ∈ calls, c.presentation? = none ∧ c ≠ .playerReleased)
    (s : Recorder) : calls.foldl (fun s c => (Activity.call c).played s) s = s := by
  induction calls with
  | nil => rfl
  | cons c rest ih =>
      obtain ⟨⟨unseen, unreleased⟩, later⟩ := List.forall_mem_cons.mp h
      rw [List.foldl_cons]
      cases c with
      | presented update => simp [Call.presentation?] at unseen
      | playerReleased => exact absurd rfl unreleased
      | _ => exact ih later

theorem foldl_played_announce (m : Machine MeteredLink) (n : Notice) (s : Recorder) :
    (m.announce n).foldl (fun s c => (Activity.call c).played s) s = s := by
  refine foldl_played_eq (fun c hc => ?_) s
  obtain ⟨i, -, rfl⟩ := List.mem_map.mp hc
  cases n <;> exact ⟨rfl, by simp [Notice.call]⟩

/-- However often it is released, a session that presents nothing more leaves it what it has. -/
theorem closing (h : Recording total held s) (unseen : presentations calls = []) :
    Recording total false
      (calls.foldl (fun s c => (Activity.call c).played s) s).release := by
  induction calls generalizing held s with
  | nil => exact h.release
  | cons c rest ih =>
      obtain ⟨first, later⟩ := List.append_eq_nil_iff.mp (presentations_cons c rest ▸ unseen)
      rw [List.foldl_cons]
      cases c with
      | presented update => simp [Call.presentation?] at first
      | playerReleased => exact ih h.release later
      | _ => exact ih h later

/-- **What the session receives comes to the recorder**, and nothing else does; once the session has
closed nothing more can come. -/
theorem outcome (h : Recording total true s) (outcome : Machine.Outcome m a r next calls)
    (watches : m.id.role = .watch) (unclosed : m.state ≠ .closed) :
    Recording (total ++ r.payload?.toList.flatten) (next.state ≠ .closed)
      ((if next.state = .closed then Recorder.release else id)
        (calls.foldl (fun s c => (Activity.call c).played s) s)) := by
  cases outcome with
  | established =>
      simpa [Response.payload?, Machine.startup, watches, foldl_played_announce] using h
  | startRefused _ hrole | overlooked hrole | unrecorded hrole => simp [watches] at hrole
  | failed | closed | refused =>
      simp only [Response.payload?, Option.toList_none, List.flatten_nil, List.append_nil,
        Machine.ended_state, if_true, ne_eq, not_true_eq_false, decide_false]
      exact h.closing (by simp [Call.presentation?])
  | @received data =>
      simpa [Response.payload?, Activity.played, unclosed] using h.present data
  | warned => simpa [Response.payload?, unclosed, foldl_played_announce] using h
  | _ => simpa [Response.payload?, unclosed, Activity.played] using h

end Recording

end Livecast
