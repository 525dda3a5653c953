import Livecast.Api.Records
import Livecast.Proofs.Keyring.Keeping
import Livecast.Proofs.Text.Numeral

/-!
# Reading brings lists of targets into normal form

A list may be given in many ways: with blanks, signs, leading zeros, words behind its numbers and
parts that are skipped.  Whatever is given, reading leaves a list whose numbers are all positive
words, and which passes the stream on if it has no targets.  Every list of that form is the reading
of some text, namely of its own written form.  So a list that has been read once does not change
when it is stored or sent, and read again.

## Main Definitions

* `Resolution.Figures`, `ResolutionList.Description` - what a target and a list say, in numbers
* `ResolutionList.Description.WellFormed` - the normal form
* `ResolutionList.Arrived` - the lists that the program is given
* `ResolutionList.Lasting` - a list comes back from wherever it goes

## Main Statements

* `ResolutionList.wellFormed_iff_decode` - the lists in normal form are those that are read
* `ResolutionList.decode_normalises` - reading brings lists into normal form, and they stay in it
-/

namespace Livecast

namespace Resolution

/-- What a target says, in numbers of any size. -/
structure Figures where
  /-- Picture width in pixels. -/
  width : Nat
  /-- Picture height in pixels. -/
  height : Nat
  /-- Frames per second, if they are set. -/
  fps : Option Nat
  /-- Limit of the bit rate in kbit/s, if it is set. -/
  bitrate : Option Nat
deriving DecidableEq

/-- The numbers of a target. -/
def figures (r : Resolution) : Figures :=
  ⟨r.width.toNat, r.height.toNat, r.fps.map Positive.toNat, r.bitrate.map Positive.toNat⟩

/-- All numbers that are set are those of positive words. -/
structure Figures.WellFormed (f : Figures) : Prop where
  /-- The width is in the range of positive words. -/
  width : Positive.InRange f.width
  /-- So is the height. -/
  height : Positive.InRange f.height
  /-- The frame rate is not set or in that range. -/
  fps : ∀ n ∈ f.fps, Positive.InRange n
  /-- So is the bit rate. -/
  bitrate : ∀ n ∈ f.bitrate, Positive.InRange n

/-- A rate that is set is in the range. -/
theorem inRange_of_mem_rate {rate : Option Positive} :
    ∀ n ∈ rate.map Positive.toNat, Positive.InRange n := by
  intro n hn
  obtain ⟨p, -, rfl⟩ := Option.map_eq_some_iff.mp hn
  exact p.inRange_toNat

/-- The numbers of a target are well formed unless it lacks a size. -/
theorem wellFormed_figures_iff (r : Resolution) :
    r.figures.WellFormed ↔ r.width ≠ 0 ∧ r.height ≠ 0 := by
  constructor
  · intro formed
    exact ⟨(Positive.inRange_word_iff _).mp formed.width,
      (Positive.inRange_word_iff _).mp formed.height⟩
  · rintro ⟨hw, hh⟩
    exact
      { width := (Positive.inRange_word_iff _).mpr hw
        height := (Positive.inRange_word_iff _).mpr hh
        fps := inRange_of_mem_rate
        bitrate := inRange_of_mem_rate }

/-- A rate in the range is that of some word, or not set. -/
theorem exists_rate {rate : Option Nat} (h : ∀ n ∈ rate, Positive.InRange n) :
    ∃ p : Option Positive, p.map Positive.toNat = rate := by
  cases rate with
  | none => exact ⟨none, rfl⟩
  | some n =>
      obtain ⟨p, rfl⟩ := Positive.exists_toNat (h n rfl)
      exact ⟨some p, rfl⟩

/-- Well-formed numbers are those of a target. -/
theorem exists_figures {f : Figures} (h : f.WellFormed) : ∃ r : Resolution, r.figures = f := by
  obtain ⟨width, height, fps, bitrate⟩ := f
  obtain ⟨w, rfl⟩ := Positive.exists_toNat h.width
  obtain ⟨t, rfl⟩ := Positive.exists_toNat h.height
  obtain ⟨p, rfl⟩ := exists_rate h.fps
  obtain ⟨q, rfl⟩ := exists_rate h.bitrate
  exact ⟨⟨w.val, t.val, p, q⟩, rfl⟩

end Resolution

namespace ResolutionList

/-! ## The normal form -/

/-- What a list says, which need not be what any list says. -/
structure Description where
  /-- The stream is also passed on as it comes in. -/
  passesThrough : Bool
  /-- The numbers of the targets, in order. -/
  targets : List Resolution.Figures
deriving DecidableEq

/-- What a list says. -/
def description (l : ResolutionList) : Description :=
  ⟨l.passesThrough, l.entries.map Resolution.figures⟩

/-- The normal form of a list. -/
structure Description.WellFormed (d : Description) : Prop where
  /-- All numbers that are set are those of positive words. -/
  targets : ∀ f ∈ d.targets, f.WellFormed
  /-- A list without targets passes the stream on. -/
  passesThrough : d.targets = [] → d.passesThrough = true

/-- A list is in normal form unless one of its targets lacks a size. -/
theorem wellFormed_description_iff (l : ResolutionList) :
    l.description.WellFormed ↔ ∀ r ∈ l.entries, r.width ≠ 0 ∧ r.height ≠ 0 := by
  constructor
  · intro formed r hr
    exact r.wellFormed_figures_iff.mp (formed.targets _ (List.mem_map_of_mem hr))
  · intro sized
    refine ⟨?_, fun none => l.passesThrough_of_nil (List.map_eq_nil_iff.mp none)⟩
    intro f hf
    obtain ⟨r, hr, rfl⟩ := List.mem_map.mp hf
    exact r.wellFormed_figures_iff.mpr (sized r hr)

/-- Well-formed numbers are those of some targets. -/
theorem exists_entries {fs : List Resolution.Figures} (h : ∀ f ∈ fs, f.WellFormed) :
    ∃ rs : List Resolution, rs.map Resolution.figures = fs := by
  induction fs with
  | nil => exact ⟨[], rfl⟩
  | cons f rest ih =>
      obtain ⟨first, later⟩ := List.forall_mem_cons.mp h
      obtain ⟨r, rfl⟩ := Resolution.exists_figures first
      obtain ⟨rs, rfl⟩ := ih later
      exact ⟨r :: rs, rfl⟩

/-- Whatever is in normal form is what some list says. -/
theorem exists_description {d : Description} (h : d.WellFormed) :
    ∃ l : ResolutionList, l.description = d := by
  obtain ⟨passes, targets⟩ := d
  obtain ⟨rs, rfl⟩ := exists_entries h.targets
  exact ⟨⟨passes, rs, fun none => h.passesThrough (List.map_eq_nil_iff.mpr none)⟩, rfl⟩

/-- **A list comes back from its written form exactly if it is in normal form.** -/
theorem decode_text_eq_iff_wellFormed (l : ResolutionList) :
    decode l.text = l ↔ l.description.WellFormed := by
  rw [decode_text_eq_iff, wellFormed_description_iff]

/-- Whatever is read is in normal form. -/
theorem wellFormed_decode (s : String) : (decode s).description.WellFormed := by
  rw [wellFormed_description_iff]
  exact fun r hr => r.hasSize_iff.mp (hasSize_of_mem_decode hr)

/-- **The lists in normal form are those that are read from some text.** -/
theorem wellFormed_iff_decode (d : Description) :
    d.WellFormed ↔ ∃ s, (decode s).description = d := by
  constructor
  · intro formed
    obtain ⟨l, rfl⟩ := exists_description formed
    exact ⟨l.text, congrArg description (l.decode_text_eq_iff_wellFormed.mpr formed)⟩
  · rintro ⟨s, rfl⟩
    exact wellFormed_decode s

/-! ## Where lists come from, and where they go -/

/-- The lists that the program is given. -/
inductive Arrived : ResolutionList → Prop
  /-- A list is given on the command line. -/
  | argument (s : String) : Arrived (decode s)
  /-- The server tells the public state of a channel. -/
  | state (s : Api.ChannelState) : Arrived s.targets
  /-- The server tells how a channel has been changed. -/
  | credentials (c : Api.ChannelCredentials) : Arrived (decode c.resolutions)
  /-- A list is read from JSON. -/
  | json {node : Json.Node} {l : ResolutionList} (read : ofJson node = .ok l) : Arrived l
  /-- A channel has been stored, in whatever document. -/
  | document {s : String} {cs : List StoredChannel} {c : StoredChannel}
      (read : Keyring.channelsOf? s = some cs) (stored : c ∈ cs) : Arrived c.resolutions

/-- A list comes back as it is from wherever it goes. -/
structure Lasting (l : ResolutionList) : Prop where
  /-- It comes back from its written form. -/
  text : decode l.text = l
  /-- It comes back from JSON. -/
  json : Json.readText ofJson (Json.Value.string l.text).compact = .ok l
  /-- It is what the server is told of a channel that is to have it. -/
  sent : ∀ id record previews,
    decode (Api.ChannelDraft.ofSettings id record l previews).resolutions = l
  /-- A channel that has it comes back from its table. -/
  stored : ∀ c : StoredChannel, c.resolutions = l → StoredChannel.ofToml? c.table = some c

/-- **Every list that arrives has been read.** -/
theorem Arrived.wellFormed {l : ResolutionList} (h : Arrived l) : l.description.WellFormed := by
  cases h with
  | argument s => exact wellFormed_decode s
  | state s => exact wellFormed_decode s.resolutions
  | credentials c => exact wellFormed_decode c.resolutions
  | @json node l read =>
      rw [ofJson] at read
      cases text : node.text with
      | error e =>
          rw [text] at read
          cases read
      | ok s =>
          rw [text] at read
          obtain rfl := Except.ok.inj read
          exact wellFormed_decode s
  | document read stored =>
      exact (wellFormed_description_iff _).mpr (Keyring.sized_of_channelsOf? read _ stored)

/-- A list in normal form comes back from wherever it goes. -/
theorem lasting_of_wellFormed {l : ResolutionList} (h : l.description.WellFormed) :
    l.Lasting := by
  have same : decode l.text = l := l.decode_text_eq_iff_wellFormed.mpr h
  refine ⟨same, ?_, fun _ _ _ => same, ?_⟩
  · rw [readText_ofJson, same]
  · rintro c rfl
    rw [c.ofToml?_table, c.reread_eq_iff.mpr ((wellFormed_description_iff _).mp h)]

/-- A channel that is put into the file is found there, among the channels that were there. -/
theorem Arrived.channels_put {keyring : Keyring} {v w : Volume} {c : StoredChannel}
    (h : Arrived c.resolutions) (put : keyring.put v c = (w, .ok ())) :
    keyring.channels w = Keyring.replaceOrAdd c (keyring.channels v) := by
  have sized : ∀ d ∈ Keyring.replaceOrAdd c (keyring.channels v), d.Sized := by
    intro d hd
    rcases Keyring.mem_replaceOrAdd hd with rfl | held
    · exact (wellFormed_description_iff _).mp h.wellFormed
    · exact keyring.sized_channels v d held
  exact (Keyring.holds_keep sized put).channels_eq

/-- **Reading brings lists into normal form, and they stay in it.**  What is read from a text is the
reading of its own written form, and what can be read is everything in normal form.  So every list
that arrives, from the command line, the server or a stored channel, comes back from wherever it is
sent or stored; and when a channel with it is put into the file, the file holds this channel and the
channels that it held. -/
theorem decode_normalises :
    (∀ s : String, (decode s).description.WellFormed ∧ decode (decode s).text = decode s) ∧
    (∀ d : Description, d.WellFormed ↔ ∃ s, (decode s).description = d) ∧
    (∀ l : ResolutionList, Arrived l → Lasting l) ∧
    ∀ (keyring : Keyring) (v w : Volume) (c : StoredChannel), Arrived c.resolutions →
      keyring.put v c = (w, .ok ()) →
        keyring.channels w = Keyring.replaceOrAdd c (keyring.channels v) := by
  refine ⟨fun s => ⟨wellFormed_decode s, ?_⟩, wellFormed_iff_decode, ?_, ?_⟩
  · exact (decode_text_eq_iff_wellFormed _).mpr (wellFormed_decode s)
  · exact fun l arrived => lasting_of_wellFormed arrived.wellFormed
  · exact fun keyring v w c arrived put => arrived.channels_put put

end ResolutionList

end Livecast
