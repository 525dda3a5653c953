import Livecast.Files.Volume
import Livecast.Proofs.Text.Utf8

/-!
# What is written to a file is read from it

A path is followed through folders only, and a file is written where no folder stands.  So what is
written is never in the way of the path that it was written to: the path still leads to the same
place, and what it leads to is what was written.

## Main Statements

* `Volume.follow_put` - a file in the place of anything but a folder changes no way
* `Volume.write_cases` - what a writing has done
* `Volume.readText_write` - a text that was written is read
-/

namespace Livecast

namespace Volume

variable {v w : Volume} {p : Path} {place : Place}

/-! ## Ways through a volume -/

theorem lookup_filter_ne {other : Place} (h : other ≠ place) (contents : List (Place × Content)) :
    (contents.filter (·.1 ≠ place)).lookup other = contents.lookup other := by
  induction contents with
  | nil => rfl
  | cons held rest ih =>
      obtain ⟨here, content⟩ := held
      by_cases same : here = place
      · have passed : (other == here) = false := by simp [same, h]
        rw [List.filter_cons_of_neg (by simp [same]), ih, List.lookup_cons, passed]
      · rw [List.filter_cons_of_pos (by simp [same]), List.lookup_cons, List.lookup_cons, ih]

/-- Nothing else is changed by what is put at a place. -/
theorem at?_put_of_ne {other : Place} (h : other ≠ place) (content : Content) :
    (v.put place content).at? other = v.at? other := by
  by_cases root : other = []
  · rw [at?, at?, if_pos root, if_pos root]
  · have passed : (other == place) = false := by simp [h]
    rw [at?, at?, if_neg root, if_neg root, put, List.lookup_cons, passed]
    exact lookup_filter_ne h v.contents

/-- A way that leads somewhere leads there wherever the folders that it passes are still there. -/
theorem follow_mono (folders : ∀ place, v.at? place = some .folder → w.at? place = some .folder)
    {start goal : Place} {steps : List String} (way : v.follow start steps = .ok goal) :
    w.follow start steps = .ok goal := by
  induction steps generalizing start with
  | nil => exact way
  | cons step rest ih =>
      rw [follow] at way
      split at way
      · contradiction
      · contradiction
      · next here =>
          rw [follow, folders start here]
          dsimp only at way ⊢
          by_cases stays : (step = "" || step = ".") = true
          · rw [if_pos stays] at way ⊢
            exact ih way
          · rw [if_neg stays] at way ⊢
            by_cases up : step = ".."
            · rw [if_pos up] at way ⊢
              exact ih way
            · rw [if_neg up] at way ⊢
              by_cases long : maxName < step.utf8ByteSize
              · rw [if_pos long] at way
                cases way
              · rw [if_neg long] at way ⊢
                exact ih way

/-- **A way leads where it led**, whatever is put in the place of anything but a folder: it passes
folders only. -/
theorem follow_put (h : v.at? place ≠ some .folder) (content : Content) {start goal : Place}
    {steps : List String} (way : v.follow start steps = .ok goal) :
    (v.put place content).follow start steps = .ok goal := by
  refine follow_mono (fun other here => ?_) way
  have differs : other ≠ place := by
    rintro rfl
    exact h here
  rw [at?_put_of_ne differs, here]

/-! ## Writing -/

/-- Steps are kept as they are if there is no empty one at their end. -/
theorem splitEnd_eq {steps kept : List String} (h : splitEnd steps = (kept, false)) :
    kept = steps := by
  obtain ⟨rfl, bound⟩ := Prod.mk.inj h
  have all : ¬ ((steps.reverse.dropWhile (·.isEmpty)).reverse.length < steps.length) := by
    simpa using bound
  have suffix := List.dropWhile_suffix (l := steps.reverse) (·.isEmpty)
  have whole : steps.reverse.dropWhile (·.isEmpty) = steps.reverse := by
    refine suffix.eq_of_length_le ?_
    simpa using all
  rw [whole, List.reverse_reverse]

/-- A success has come about by a success of the first part. -/
theorem bind_ok {α β : Type} {x : Except FileError α} {f : α → Except FileError β} {b : β}
    (h : (x >>= f) = .ok b) : ∃ a, x = .ok a ∧ f a = .ok b := by
  cases x with
  | error e => cases h
  | ok a => exact ⟨a, rfl, h⟩

/-- A place for a new entry, without a slash behind it, is where the path leads. -/
theorem target_cases {place : Place} (h : v.target p = .ok (some (place, false))) :
    checkPath p = .ok () ∧ v.follow (v.origin p) (steps p) = .ok place := by
  rw [target] at h
  obtain ⟨⟨⟩, valid, h⟩ := bind_ok h
  refine ⟨valid, ?_⟩
  dsimp only at h
  split at h
  · cases h
  · split at h
    · -- the last step names nothing, so there is no such place
      obtain ⟨here, -, h⟩ := bind_ok h
      split at h <;> cases h
    · obtain ⟨goal, way, h⟩ := bind_ok h
      obtain ⟨rfl, slash⟩ := Prod.mk.inj (Option.some.inj (Except.ok.inj h))
      rw [← way]
      exact congrArg _ (splitEnd_eq (Prod.ext rfl slash)).symm

/-- What a writing has done: the path led to a place where no folder stands, and the bytes are put
there. -/
theorem write_cases {bytes : Bytes} (h : v.write p bytes = .ok w) :
    ∃ place, checkPath p = .ok () ∧ v.follow (v.origin p) (steps p) = .ok place ∧
      v.at? place ≠ some .folder ∧ w = v.put place (.file bytes) := by
  rw [write] at h
  obtain ⟨target, found, h⟩ := bind_ok h
  match target with
  | none => cases h
  | some (place, true) => cases h
  | some (place, false) =>
      obtain ⟨valid, way⟩ := target_cases found
      refine ⟨place, valid, way, ?_⟩
      dsimp only at h
      split at h
      · cases h
      · next free => exact ⟨free, (Except.ok.inj h).symm⟩

/-- A file that holds the UTF-8 form of a text is read as this text. -/
theorem readText_of_readBytes {s : String} (h : v.readBytes p = .ok (.ofText s)) :
    v.readText p = .ok s := by
  simp only [readText, h, bind, Except.bind, Bytes.text?_ofText]
  rfl

/-- **A text that was written is read.** -/
theorem readText_write {s : String} (h : v.write p (.ofText s) = .ok w) :
    w.readText p = .ok s := by
  obtain ⟨place, valid, way, free, rfl⟩ := write_cases h
  have inside : place ≠ [] := by
    rintro rfl
    exact free rfl
  have still := follow_put free (.file (.ofText s)) way
  have there := v.at?_put inside (.file (.ofText s))
  have found : (v.put place (.file (.ofText s))).find p = .ok (.file (.ofText s)) := by
    have same : (v.put place (.file (.ofText s))).origin p = v.origin p := rfl
    simp only [find, valid, same, still, there, bind, Except.bind]
    rfl
  apply readText_of_readBytes
  rw [readBytes, found]
  rfl

end Volume

end Livecast
