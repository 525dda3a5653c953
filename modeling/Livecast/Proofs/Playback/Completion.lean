import Livecast.Proofs.Playback.Recording
import Mathlib.Data.List.TakeDrop

/-!
# When a file has everything

The task of a recorder ends after the recorder has been released, and whoever waits for it wants to
find everything in the file that was presented before.  That is so as long as the place it writes to
takes what it is given.  A place may also refuse a write, or keep what it has taken to itself until
it is flushed, and then fail to flush.  The task ends in these cases too, and those who wait for it
are not told.

## Main Definitions

* `Filing` - a recorder, and how much of what its disk has taken is in the file
* `Filing.Deed`, `Filing.Trouble` - what can happen to them, and what the task runs into
* `Filing.step`, `Filing.run` - one thing that happens, and a whole schedule
* `Filing.presented` - what was presented before the recorder was released
* `Filed` - the law of the file

## Main Statements

* `Recorder.isEnded_settle` - a recorder that has been released ends
* `Filing.Sound.step` - whatever happens next, the media are where they belong
* `Filing.run_filed` - every schedule obeys the law
* `Filing.incomplete_when_full` - a task that has ended, and a file that lacks something

## Design Notes

A place is whatever takes bytes in order: how many it takes may change from write to write, and what
it has taken comes to the file sooner or later, and no later than with a flush that succeeds.  So a
file written to at once and one behind a buffer are both such places.
-/

namespace Livecast

namespace Recorder

variable {s next : Recorder}

/-! ## The task ends -/

/-- A task that has nothing to do although no more can come has ended. -/
theorem isEnded_of_step?_eq_none (idle : s.step? = none) (released : s.queue.sending = false) :
    s.isEnded = true := by
  unfold step? at idle
  unfold isEnded
  cases task : s.task with
  | ended complete => rfl
  | writing left =>
      cases left with
      | cons b left => cases wrote : s.disk.write? (b :: left) <;> simp [task, wrote] at idle
      | nil => cases items : s.queue.items <;> simp [task, items, released] at idle

theorem step?_of_isEnded (ended : s.isEnded = true) : s.step? = none := by
  unfold isEnded at ended
  unfold step?
  cases task : s.task with
  | ended complete => rfl
  | writing left => simp [task] at ended

theorem isEnded_stepUpTo (fuel : Nat) (ended : s.isEnded = true) :
    (stepUpTo fuel s).isEnded = true := by
  cases fuel with
  | zero => exact ended
  | succ fuel =>
      rw [stepUpTo, step?_of_isEnded ended]
      exact ended

/-- A write leaves less than it was given. -/
theorem length_of_write? {d disk : Disk} {b : UInt8} {left rest : Bytes}
    (taken : d.write? (b :: left) = some (disk, rest)) : rest.length < (b :: left).length := by
  unfold Disk.write? at taken
  simp only at taken
  split at taken
  · cases taken
  · next some =>
      obtain ⟨-, rfl⟩ := Prod.mk.inj (Option.some.inj taken)
      rw [List.length_drop]
      simp only [List.length_cons] at some ⊢
      omega

/-- The more is in hand the more work there is, whatever waits in the queue. -/
theorem foldl_length_lt (items : List Bytes) {n m : Nat} (less : n < m) :
    items.foldl (fun total chunk => total + chunk.length + 1) n <
      items.foldl (fun total chunk => total + chunk.length + 1) m := by
  induction items generalizing n m with
  | nil => exact less
  | cons chunk rest ih => exact ih (Nat.succ_lt_succ (Nat.add_lt_add_right less chunk.length))

theorem workload_of_writing (left : Bytes) (task : s.task = .writing left) :
    s.workload =
      s.queue.items.foldl (fun total chunk => total + chunk.length + 1) (left.length + 1) := by
  rw [workload, task]

theorem workload_pos {left : Bytes} (task : s.task = .writing left) : 0 < s.workload := by
  rw [workload_of_writing left task]
  exact Nat.zero_lt_of_lt (foldl_length_lt _ (Nat.lt_succ_self left.length))

/-- Every step ends the task or leaves less to do. -/
theorem Advances.isEnded_or_workload_lt (h : Advances s next) :
    next.isEnded = true ∨ next.workload < s.workload := by
  cases h with
  | @writes b left rest disk task taken =>
      right
      have less := length_of_write? taken
      rw [workload_of_writing _ task, workload_of_writing rest rfl]
      exact foldl_length_lt _ (Nat.succ_lt_succ less)
  | fails => exact .inl rfl
  | @takes chunk rest task items =>
      right
      rw [workload_of_writing _ task, workload_of_writing chunk rfl, items, List.foldl_cons]
      refine foldl_length_lt rest ?_
      simp only [List.length_nil]
      omega
  | finishes => exact .inl rfl

theorem Advances.sending_eq (h : Advances s next) : next.queue.sending = s.queue.sending := by
  cases h <;> rfl

/-- **A recorder that has been released ends**: its task gets through with everything. -/
theorem isEnded_settle (released : s.queue.sending = false) : s.settle.isEnded = true := by
  have enough : ∀ (fuel : Nat) (s : Recorder), s.queue.sending = false → s.workload ≤ fuel →
      (stepUpTo fuel s).isEnded = true := by
    intro fuel
    induction fuel with
    | zero =>
        intro s released bound
        cases task : s.task with
        | ended => simp [stepUpTo, isEnded, task]
        | writing left => exact absurd (workload_pos task) (Nat.not_lt.mpr bound)
    | succ fuel ih =>
        intro s released bound
        rw [stepUpTo]
        cases now : s.step? with
        | none => exact isEnded_of_step?_eq_none now released
        | some next =>
            have step := step?_advances now
            rcases step.isEnded_or_workload_lt with ended | less
            · exact isEnded_stepUpTo fuel ended
            · exact ih next (step.sending_eq.trans released) (by omega)
  exact enough _ s released (Nat.le_refl _)

end Recorder

/-! ## Recordings -/

@[simp] theorem Recorder.task_present (s : Recorder) (chunk : Bytes) :
    (s.present chunk).task = s.task := by
  unfold present
  split <;> rfl

@[simp] theorem Recorder.disk_present (s : Recorder) (chunk : Bytes) :
    (s.present chunk).disk = s.disk := by
  unfold present
  split <;> rfl

namespace Recording

variable {total : Bytes} {held : Bool} {s next : Recorder}

/-- What is presented to a recorder that has been released is ignored. -/
theorem present_of_released (h : Recording total false s) (chunk : Bytes) :
    Recording total false (s.present chunk) := by
  cases h with
  | writing task queue conserved =>
      have ignores : ¬s.queue.accepts = true := by simp [queue, Mailbox.accepts]
      rw [Recorder.present, if_neg ignores]
      exact (Recording.writing task queue conserved).release
  | complete released task conserved =>
      exact .complete rfl (by rw [s.task_present, task]) (by rw [s.disk_present, conserved])
  | failed task conserved =>
      exact .failed (by rw [s.task_present, task]) (by rw [s.disk_present]; exact conserved)

/-- The room that there is does not matter to what has been written. -/
theorem change (h : Recording total held s) (room atOnce : Option Nat) :
    Recording total held { s with disk := { s.disk with room := room, atOnce := atOnce } } := by
  cases h with
  | writing task queue conserved => exact .writing task queue conserved
  | complete released task conserved => exact .complete released task conserved
  | failed task conserved => exact .failed task conserved

/-- A task whose write is refused still has something in hand. -/
theorem lacks (h : Recording total held s) (now : s.step? = some next)
    (failed : next.task = .ended false) : next.disk.data.length < total.length := by
  cases h with
  | @writing left items working queue conserved =>
      cases Recorder.step?_advances now with
      | fails task =>
          obtain rfl := WritingTask.writing.inj (working.symm.trans task)
          rw [← conserved]
          simp only [List.length_append, List.length_cons]
          omega
      | writes | takes | finishes => simp at failed
  | complete _ task | failed task => simp [Recorder.step?, task] at now

end Recording

/-- Only a task that works does a step. -/
theorem Recorder.Advances.exists_writing {s next : Recorder} (h : Advances s next) :
    ∃ left, s.task = .writing left := by
  cases h with
  | writes task | fails task | takes task | finishes task => exact ⟨_, task⟩

/-! ## A recorder and the place behind it -/

/-- A recorder, and how much of what its disk has taken is in the file. -/
structure Filing where
  /-- The recorder. -/
  recorder : Recorder
  /-- How many of the bytes that were taken have come to the file. -/
  arrived : Nat

namespace Filing

/-- What can happen to a recorder and to the place that it writes to. -/
inductive Deed where
  /-- A segment is presented. -/
  | present (chunk : Bytes)
  /-- The recorder is released. -/
  | release
  /-- The recorder is dropped. -/
  | drop
  /-- The task goes on; a flush, if this is one, succeeds or fails. -/
  | work (flushes : Bool)
  /-- From now on the place has another amount of room, and takes another amount at once. -/
  | change (room atOnce : Option Nat)
  /-- More of the bytes that were taken come to the file. -/
  | arrive (n : Nat)

/-- What the task can run into; nobody but the log is told. -/
inductive Trouble where
  /-- A write was refused. -/
  | write
  /-- The flush failed. -/
  | flush
deriving DecidableEq

/-- A recorder over an empty file. -/
def fresh (room atOnce : Option Nat) : Filing := ⟨.ofDisk ⟨[], 0, room, atOnce⟩, 0⟩

/-- What is in the file. -/
def output (f : Filing) : Bytes := f.recorder.disk.data.take f.arrived

/-- The task goes on. -/
def work (f : Filing) (flushes : Bool) : Filing × Option Trouble :=
  match f.recorder.step? with
  | none => (f, none)
  | some next =>
    match next.task with
    | .writing _ => ({ f with recorder := next }, none)
    | .ended false => ({ f with recorder := next }, some .write)
    | .ended true =>
      if flushes then (⟨next, next.disk.data.length⟩, none)
      else ({ f with recorder := next }, some .flush)

/-- One thing that happens, and what the task runs into. -/
def step (f : Filing) : Deed → Filing × Option Trouble
  | .present chunk => ({ f with recorder := f.recorder.present chunk }, none)
  | .release => ({ f with recorder := f.recorder.release }, none)
  | .drop => ({ f with recorder := f.recorder.release }, none)
  | .work flushes => f.work flushes
  | .change room atOnce =>
    let disk := { f.recorder.disk with room := room, atOnce := atOnce }
    ({ f with recorder := { f.recorder with disk := disk } }, none)
  | .arrive n => ({ f with arrived := f.arrived + n }, none)

/-- A schedule: one thing happens after the other. -/
def run (f : Filing) : List Deed → Filing × List Trouble
  | [] => (f, [])
  | d :: rest =>
    let (next, trouble) := f.step d
    let (last, more) := next.run rest
    (last, trouble.toList ++ more)

/-- After this nothing more can be presented. -/
def Deed.releases : Deed → Bool
  | .release | .drop => true
  | _ => false

/-- What is presented. -/
def Deed.chunk : Deed → Bytes
  | .present chunk => chunk
  | _ => []

/-- What was presented before the recorder was released. -/
def presented (deeds : List Deed) : Bytes :=
  (deeds.takeWhile fun d => !d.releases).flatMap Deed.chunk

/-! ## What is where -/

/-- Where the media `total` are, and what the task has run into; as long as the recorder is `held`
more can come. -/
structure Sound (total : Bytes) (held : Bool) (troubles : List Trouble) (f : Filing) : Prop where
  /-- The recorder conserves them. -/
  recording : Recording total held f.recorder
  /-- A task that works has not run into anything. -/
  working : ∀ left, f.recorder.task = .writing left → troubles = []
  /-- A task that has ended with its work done has flushed, or the flush has failed. -/
  flushed : f.recorder.task = .ended true →
    troubles = [] ∧ f.recorder.disk.data.length ≤ f.arrived ∨ troubles = [.flush]
  /-- If a write was refused, something has not been taken. -/
  refused : f.recorder.task = .ended false →
    troubles = [.write] ∧ f.recorder.disk.data.length < total.length

theorem sound_fresh (room atOnce : Option Nat) : Sound [] true [] (fresh room atOnce) where
  recording := Recording.ofDisk ⟨[], 0, room, atOnce⟩
  working _ _ := rfl
  flushed ended := nomatch ended
  refused ended := nomatch ended

namespace Sound

variable {total : Bytes} {held : Bool} {troubles : List Trouble} {f : Filing}

/-- What is presented comes last, unless the recorder has been released. -/
theorem present (h : Sound total held troubles f) (chunk : Bytes) :
    Sound (total ++ if held then chunk else []) held troubles
      { f with recorder := f.recorder.present chunk } := by
  constructor
  case recording =>
    cases held with
    | true => exact h.recording.present chunk
    | false => simpa using h.recording.present_of_released chunk
  case working => simpa using h.working
  case flushed => simpa using h.flushed
  case refused =>
    simp only [Recorder.task_present, Recorder.disk_present, List.length_append]
    intro ended
    obtain ⟨only, less⟩ := h.refused ended
    exact ⟨only, by omega⟩

theorem release (h : Sound total held troubles f) :
    Sound total false troubles { f with recorder := f.recorder.release } :=
  ⟨h.recording.release, h.working, h.flushed, h.refused⟩

theorem change (h : Sound total held troubles f) (room atOnce : Option Nat) :
    Sound total held troubles (f.step (.change room atOnce)).1 :=
  ⟨h.recording.change room atOnce, h.working, h.flushed, h.refused⟩

theorem arrive (h : Sound total held troubles f) (n : Nat) :
    Sound total held troubles { f with arrived := f.arrived + n } := by
  refine ⟨h.recording, h.working, fun ended => ?_, h.refused⟩
  exact (h.flushed ended).imp_left fun ⟨smooth, all⟩ => ⟨smooth, Nat.le_add_right_of_le all⟩

/-- **Every step of the task leaves the media where they belong**: it goes on with its work, or ends
in one of three ways. -/
theorem work (h : Sound total held troubles f) (flushes : Bool) :
    Sound total held (troubles ++ (f.work flushes).2.toList) (f.work flushes).1 := by
  unfold Filing.work
  split
  · simpa using h
  · next next now =>
      have recording := h.recording.step now
      obtain ⟨left, task⟩ := (Recorder.step?_advances now).exists_writing
      obtain rfl := h.working left task
      split
      · next going =>
          exact ⟨recording, fun _ _ => rfl, by simp [going], by simp [going]⟩
      · next failed =>
          have less := h.recording.lacks now failed
          exact ⟨recording, by simp [failed], by simp [failed], fun _ => ⟨rfl, less⟩⟩
      · next done =>
          split
          · exact ⟨recording, by simp [done], fun _ => .inl ⟨rfl, Nat.le_refl _⟩, by simp [done]⟩
          · exact ⟨recording, by simp [done], fun _ => .inr rfl, by simp [done]⟩

/-- **Whatever happens next**, the media are where they belong. -/
theorem step (h : Sound total held troubles f) (d : Deed) :
    Sound (total ++ if held then d.chunk else []) (held && !d.releases)
      (troubles ++ (f.step d).2.toList) (f.step d).1 := by
  cases d with
  | present chunk => simpa [Filing.step, Deed.chunk, Deed.releases] using h.present chunk
  | release | drop => simpa [Filing.step, Deed.chunk, Deed.releases] using h.release
  | work flushes => simpa [Filing.step, Deed.chunk, Deed.releases] using h.work flushes
  | change room atOnce =>
      simpa [Filing.step, Deed.chunk, Deed.releases] using h.change room atOnce
  | arrive n => simpa [Filing.step, Deed.chunk, Deed.releases] using h.arrive n

/-- **Every schedule** leaves the media where they belong. -/
theorem run (h : Sound total held troubles f) (deeds : List Deed) :
    Sound (total ++ if held then presented deeds else []) (held && !deeds.any Deed.releases)
      (troubles ++ (f.run deeds).2) (f.run deeds).1 := by
  induction deeds generalizing total held troubles f with
  | nil => simpa [presented, Filing.run] using h
  | cons d rest ih =>
      have more := ih (h.step d)
      rw [List.append_assoc, List.append_assoc] at more
      have media : ((if held then d.chunk else []) ++
          if (held && !d.releases) = true then presented rest else []) =
            if held then presented (d :: rest) else [] := by
        cases held with
        | false => rfl
        | true => cases d <;> simp [presented, Deed.chunk, Deed.releases]
      have left : (held && !d.releases && !rest.any Deed.releases) =
          (held && !(d :: rest).any Deed.releases) := by
        rw [List.any_cons, Bool.not_or, Bool.and_assoc]
      rw [media, left] at more
      exact more

end Sound

end Filing

/-! ## The law of the file -/

open Filing in
/-- **The law of the file**, after some deeds and what the task has run into. -/
structure Filed (deeds : List Deed) (troubles : List Trouble) (f : Filing) : Prop where
  /-- The file holds a beginning of what was presented before the release, and nothing else. -/
  begins : f.output <+: presented deeds
  /-- Once the task has ended it holds all of that exactly if no write was refused and the flush did
  not fail, unless the place had put everything into the file by itself. -/
  complete : f.recorder.isEnded = true →
    (f.output = presented deeds ↔
      .write ∉ troubles ∧ (.flush ∈ troubles → f.recorder.disk.data.length ≤ f.arrived))
  /-- The task runs into one thing at most, and ends with it. -/
  trouble_once : troubles.length ≤ 1 ∧ (troubles ≠ [] → f.recorder.isEnded = true)
  /-- If it runs into nothing it does not end before the release. -/
  released : f.recorder.isEnded = true → troubles = [] → deeds.any Deed.releases = true
  /-- After the release it ends. -/
  ends : deeds.any Deed.releases = true → f.recorder.settle.isEnded = true

theorem Recorder.isEnded_iff {s : Recorder} :
    s.isEnded = true ↔ ∃ complete, s.task = .ended complete := by
  unfold isEnded
  cases s.task <;> simp

theorem Recording.begins {total : Bytes} {held : Bool} {s : Recorder} (h : Recording total held s) :
    s.disk.data <+: total := by
  cases h with
  | writing _ _ conserved => exact ⟨_, by rw [← conserved, List.append_assoc]⟩
  | complete _ _ conserved => exact conserved ▸ List.prefix_rfl
  | failed _ conserved => exact conserved

namespace Filing

theorem Sound.filed {deeds : List Deed} {troubles : List Trouble} {f : Filing}
    (h : Sound (presented deeds) (!deeds.any Deed.releases) troubles f) :
    Filed deeds troubles f := by
  constructor
  case begins => exact (List.take_prefix _ _).trans h.recording.begins
  case complete =>
    intro ended
    obtain ⟨complete, task⟩ := Recorder.isEnded_iff.mp ended
    cases complete with
    | true =>
        obtain ⟨all, -⟩ := h.recording.eq_of_ended task
        have whole : f.output = presented deeds ↔ f.recorder.disk.data.length ≤ f.arrived := by
          rw [output, ← all, List.take_eq_self_iff]
        rw [whole]
        rcases h.flushed task with ⟨rfl, arrived⟩ | rfl
        · simpa using arrived
        · simp
    | false =>
        obtain ⟨rfl, less⟩ := h.refused task
        have lacks : f.output ≠ presented deeds := by
          intro whole
          have short : f.output.length ≤ f.recorder.disk.data.length := List.length_take_le' _ _
          rw [whole] at short
          omega
        simp [lacks]
  case trouble_once =>
    cases task : f.recorder.task with
    | writing left => simp [h.working left task]
    | ended complete =>
        have ended : f.recorder.isEnded = true := Recorder.isEnded_iff.mpr ⟨complete, task⟩
        refine ⟨?_, fun _ => ended⟩
        cases complete with
        | true => rcases h.flushed task with ⟨rfl, -⟩ | rfl <;> simp
        | false => simp [(h.refused task).1]
  case released =>
    intro ended smooth
    obtain ⟨complete, task⟩ := Recorder.isEnded_iff.mp ended
    cases complete with
    | true => simpa using (h.recording.eq_of_ended task).2
    | false => simp [(h.refused task).1] at smooth
  case ends =>
    intro released
    have recording := h.recording
    rw [released] at recording
    cases recording with
    | writing _ queue => exact Recorder.isEnded_settle (by rw [queue]; rfl)
    | complete _ task | failed task =>
        exact Recorder.isEnded_stepUpTo _ (Recorder.isEnded_iff.mpr ⟨_, task⟩)

/-- **Every schedule obeys the law of the file**: whatever is presented, whenever the recorder is
released or dropped, whenever the task goes on, and whatever the place makes of it. -/
theorem run_filed (room atOnce : Option Nat) (deeds : List Deed) :
    Filed deeds ((fresh room atOnce).run deeds).2 ((fresh room atOnce).run deeds).1 := by
  have sound := (sound_fresh room atOnce).run deeds
  simp only [List.nil_append, Bool.true_and, if_true] at sound
  exact sound.filed

/-- The place has room for one byte, and two are presented: the task has ended, and one byte is
missing.  A place that fails to flush can lose both. -/
theorem incomplete_when_full :
    let full := ((fresh (some 1) none).run [.present [1, 2], .release, .work true, .work true,
      .work true, .arrive 2]).1
    let unflushed := ((fresh none none).run [.present [1, 2], .release, .work true, .work true,
      .work false]).1
    full.recorder.isEnded = true ∧ full.output = [1] ∧
      unflushed.recorder.isEnded = true ∧ unflushed.output = [] ∧
      presented [.present [1, 2], .release] = [1, 2] := by
  decide

end Filing

end Livecast
