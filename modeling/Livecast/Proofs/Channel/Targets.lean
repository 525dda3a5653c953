import Livecast.Json.Texts
import Livecast.Proofs.Text.JsonString
import Livecast.Proofs.Text.Written
import Mathlib.Data.List.TakeWhile

/-!
# Which lists of targets survive their written form

A target is written with its sizes, and its rates behind their marks.  The reader cuts the text at
the same places, so it finds again what was written.  It refuses, however, a size of zero, which a
target that is built and not read may have.  So what comes back from the written form of a list are
its targets without those.

## Main Definitions

* `Resolution.hasSize` - neither size is zero

## Main Statements

* `Resolution.ofEntry_chars` - the reader takes what is written, unless a size is zero
* `ResolutionList.decode_text` - what the written form of a list stands for
* `ResolutionList.survives_wire` - the lists that come back from their written form and from JSON
-/

namespace Livecast

open Livecast.Text

namespace Resolution

/-- Neither size is zero. -/
def hasSize (r : Resolution) : Bool := r.width ≠ 0 && r.height ≠ 0

theorem hasSize_iff (r : Resolution) : r.hasSize = true ↔ r.width ≠ 0 ∧ r.height ≠ 0 := by
  simp [hasSize]

/-- The integer at the start of a written number is that number. -/
theorem integerPrefix?_digits {n : Nat} (h : n ≤ maxSigned) :
    integerPrefix? (digits n) = some (n : Int) := by
  have run : (digits n).takeWhile Char.isDigit = digits n :=
    List.takeWhile_eq_self_iff.mpr (digits_all (fun _ hc => hc) n)
  have start : trimStart (digits n) = digits n :=
    trimStart_eq_self fun c hc =>
      isBlank_of_isDigit (digits_all (fun _ h => h) n c (List.mem_of_mem_head? hc))
  unfold integerPrefix?
  rw [start]
  split
  · next r hr => exact absurd hr (digits_head_ne (by decide))
  · next r hr => exact absurd hr (digits_head_ne (by decide))
  · rw [run, readInt?_digits h]

/-! ## Cutting a written target -/

/-- A rate is cut off at its mark, if the mark does not occur before it. -/
theorem cutAt?_rateChars {mark : Char} {before : List Char} (h : ∀ c ∈ before, c ≠ mark)
    (rate : Option Positive) :
    cutAt? (· = mark) (before ++ rateChars mark rate) =
      rate.map fun p => (before, digits p.toNat) := by
  have unmarked : ∀ c ∈ before, decide (c = mark) = false := fun c hc => by simp [h c hc]
  cases rate with
  | none =>
      rw [rateChars, List.append_nil]
      exact cutAt?_eq_none unmarked
  | some p => exact cutAt?_append unmarked (by simp)

/-- The size of a target, as it is written. -/
def sizeChars (r : Resolution) : List Char :=
  digits r.width.toNat ++ 'x' :: digits r.height.toNat

theorem chars_eq (r : Resolution) :
    r.chars = r.sizeChars ++ rateChars '-' r.fps ++ rateChars '~' r.bitrate := by
  simp [chars, sizeChars]

/-- What holds of digits and of the cross holds of a written size. -/
theorem sizeChars_all {q : Char → Prop} (hdigit : ∀ c, c.isDigit = true → q c) (hcross : q 'x')
    (r : Resolution) : ∀ c ∈ r.sizeChars, q c := by
  intro c hc
  rcases List.mem_append.mp hc with hc | hc
  · exact digits_all hdigit _ c hc
  · rcases List.mem_cons.mp hc with rfl | hc
    · exact hcross
    · exact digits_all hdigit _ c hc

/-- What holds of digits and of its mark holds of a written rate. -/
theorem rateChars_all {q : Char → Prop} {mark : Char} (hdigit : ∀ c, c.isDigit = true → q c)
    (hmark : q mark) (rate : Option Positive) : ∀ c ∈ rateChars mark rate, q c := by
  intro c hc
  cases rate with
  | none => simp [rateChars] at hc
  | some p =>
      rcases List.mem_cons.mp hc with rfl | hc
      · exact hmark
      · exact digits_all hdigit _ c hc

/-- What holds of digits, of the cross and of both marks holds of a written target. -/
theorem chars_all {q : Char → Prop} (hdigit : ∀ c, c.isDigit = true → q c) (hcross : q 'x')
    (hfps : q '-') (hbitrate : q '~') (r : Resolution) : ∀ c ∈ r.chars, q c := by
  intro c hc
  rw [chars_eq] at hc
  rcases List.mem_append.mp hc with hc | hc
  · rcases List.mem_append.mp hc with hc | hc
    · exact sizeChars_all hdigit hcross r c hc
    · exact rateChars_all hdigit hfps r.fps c hc
  · exact rateChars_all hdigit hbitrate r.bitrate c hc

/-- **A written target is cut where it was put together.** -/
theorem split_chars (r : Resolution) :
    split r.chars =
      (r.sizeChars, r.fps.map (digits ·.toNat), r.bitrate.map (digits ·.toNat)) := by
  have noDash : ∀ c ∈ r.sizeChars, c ≠ '-' :=
    sizeChars_all (fun _ h => ne_of_isDigit h (by decide)) (by decide) r
  have noTilde : ∀ c ∈ r.sizeChars ++ rateChars '-' r.fps, c ≠ '~' := by
    intro c hc
    rcases List.mem_append.mp hc with hc | hc
    · exact sizeChars_all (fun _ h => ne_of_isDigit h (by decide)) (by decide) r c hc
    · exact rateChars_all (fun _ h => ne_of_isDigit h (by decide)) (by decide) r.fps c hc
  have atTilde := cutAt?_rateChars noTilde r.bitrate
  have atDash := cutAt?_rateChars noDash r.fps
  have unrated (mark : Char) : rateChars mark none = [] := rfl
  rw [chars_eq]
  simp only [split, atTilde]
  cases r.bitrate with
  | none =>
      simp only [Option.map_none, unrated, List.append_nil, atDash]
      cases r.fps with
      | none => simp only [Option.map_none, unrated, List.append_nil]
      | some fps => rfl
  | some bitrate =>
      simp only [Option.map_some, atDash]
      cases r.fps with
      | none => simp only [Option.map_none, unrated, List.append_nil]
      | some fps => rfl

/-- A rate is read as it was written. -/
theorem bind_integerPrefix? (rate : Option Positive) :
    ((rate.map (digits ·.toNat)).bind fun t => (integerPrefix? t).bind Positive.ofInt?) = rate := by
  cases rate with
  | none => rfl
  | some p =>
      have number := integerPrefix?_digits (Positive.toNat_le_maxSigned p.val)
      rw [Option.map_some, Option.bind_some, Positive.toNat, number, Option.bind_some]
      exact p.ofInt?_toNat

/-- **The reader takes what is written**, unless a size is zero. -/
theorem ofEntry_chars (r : Resolution) :
    ofEntry r.chars = if r.hasSize then .ok r else .error (.nonPositive r.text) := by
  have size (w : UInt32) : readInt? (trim (digits w.toNat)) = some (w.toNat : Int) := by
    rw [trim_digits]
    exact readInt?_digits (Positive.toNat_le_maxSigned w)
  have cross : cutAt? isCross r.sizeChars =
      some (digits r.width.toNat, digits r.height.toNat) :=
    cutAt?_append
      (digits_all (fun c hc => by
        rw [isCross, not_separator (by decide) c hc, not_separator (by decide) c hc]
        rfl) _)
      (by decide)
  simp only [ofEntry, split_chars, cross, size, Positive.ofInt?_word, bind_integerPrefix?]
  by_cases zero : r.width = 0
  · simp [hasSize, zero, Positive.ofWord?, text]
  · by_cases flat : r.height = 0
    · simp [hasSize, zero, flat, Positive.ofWord?, text]
    · simp [hasSize, zero, flat, Positive.ofWord?]

/-- What is read as a target has a size. -/
theorem hasSize_of_ofEntry {t : List Char} {r : Resolution} (h : ofEntry t = .ok r) :
    r.hasSize = true := by
  unfold ofEntry at h
  dsimp only at h
  split at h
  · cases h
  · split at h
    · split at h
      · next w height _ _ =>
          obtain rfl := Except.ok.inj h
          exact (hasSize_iff _).mpr ⟨w.ne_zero, height.ne_zero⟩
      · cases h
    · cases h

/-- A written target begins and ends with a number, so that it needs no trimming. -/
theorem trim_chars (r : Resolution) : trim r.chars = r.chars := by
  have last : ∃ front n, r.chars = front ++ digits n := by
    rw [chars_eq]
    cases r.bitrate with
    | some bitrate => exact ⟨r.sizeChars ++ rateChars '-' r.fps ++ ['~'], bitrate.toNat, by
        simp [rateChars]⟩
    | none =>
        cases r.fps with
        | some fps => exact ⟨r.sizeChars ++ ['-'], fps.toNat, by simp [rateChars]⟩
        | none => exact ⟨digits r.width.toNat ++ ['x'], r.height.toNat, by
            simp [rateChars, sizeChars]⟩
  obtain ⟨front, n, hlast⟩ := last
  have first : r.chars = digits r.width.toNat ++ ('x' :: digits r.height.toNat ++
      rateChars '-' r.fps ++ rateChars '~' r.bitrate) := by
    simp [chars]
  exact trim_between first hlast

end Resolution

namespace ResolutionList

/-! ## Reading the parts of a written list -/

/-- A written target is no other word, and it is read as a target unless a size is zero. -/
theorem Part.ofChars_chars (r : Resolution) :
    Part.ofChars r.chars = if r.hasSize then .entry r else .rejected (.nonPositive r.text) := by
  have named : r.chars.map Char.toUpper ≠ passthroughWord := by
    intro same
    have cross : 'x' ∈ r.chars := by simp [Resolution.chars]
    have upper : 'X' ∈ passthroughWord := same ▸ List.mem_map_of_mem cross
    exact absurd upper (by decide)
  rw [Part.ofChars, if_neg named, Resolution.ofEntry_chars]
  cases r.hasSize <;> rfl

/-- The parts of a written list, in order. -/
def written (l : ResolutionList) : List (List Char) :=
  (if l.passesThrough then [passthroughWord] else []) ++ l.entries.map Resolution.chars

theorem chars_eq (l : ResolutionList) : l.chars = List.intercalate [','] l.written := by
  cases passes : l.passesThrough <;> simp [chars, written, passes]

/-- A list always has something to say. -/
theorem written_ne_nil (l : ResolutionList) : l.written ≠ [] := by
  cases passes : l.passesThrough with
  | true => simp [written, passes]
  | false =>
      have some_entry : l.entries ≠ [] := by
        intro none
        rw [l.passesThrough_of_nil none] at passes
        contradiction
      simpa [written, passes] using some_entry

/-- Each part of a written list is either the word for passing through or a written target. -/
theorem written_cases {l : ResolutionList} {part : List Char} (h : part ∈ l.written) :
    part = passthroughWord ∨ ∃ r ∈ l.entries, part = r.chars := by
  rcases List.mem_append.mp h with h | h
  · left
    cases passes : l.passesThrough <;> simp [passes] at h
    exact h
  · right
    obtain ⟨r, hr, rfl⟩ := List.mem_map.mp h
    exact ⟨r, hr, rfl⟩

/-- **What the parts of a written list say** is what was written. -/
theorem parts_chars (l : ResolutionList) :
    parts l.chars = (if l.passesThrough then [.passthrough] else []) ++
      l.entries.map fun r => Part.ofChars r.chars := by
  have cut : pieces (· = ',') l.chars = l.written := by
    rw [chars_eq]
    refine pieces_intercalate (by simp) l.written_ne_nil fun part hpart => ?_
    rcases written_cases hpart with rfl | ⟨r, -, rfl⟩
    · simp [passthroughWord]
    · exact Resolution.chars_all (not_separator (by decide)) (by decide) (by decide) (by decide) r
  have trimmed : l.written.map trim = l.written := by
    have alone : ∀ part ∈ l.written, trim part = id part := by
      intro part hpart
      rcases written_cases hpart with rfl | ⟨r, -, rfl⟩
      · decide
      · exact r.trim_chars
    rw [List.map_congr_left alone, List.map_id]
  have spoken : l.written.filter (fun part => !part.isEmpty) = l.written := by
    refine List.filter_eq_self.mpr fun part hpart => ?_
    rcases written_cases hpart with rfl | ⟨r, -, rfl⟩
    · rfl
    · simp [Resolution.chars, digits_ne_nil]
  have word : Part.ofChars passthroughWord = .passthrough := by decide
  rw [parts, cut, trimmed, spoken, written, List.map_append, List.map_map]
  cases l.passesThrough with
  | true => rw [if_pos rfl, if_pos rfl, List.map_cons, List.map_nil, word]; rfl
  | false => rfl

/-! ## The list that comes back -/

/-- The targets of a list that the reader does not refuse. -/
def sized (l : ResolutionList) : List Resolution := l.entries.filter Resolution.hasSize

/-- **What the written form of a list stands for**: its targets without those that lack a size.  The
stream is passed on if the list says so, or if no target is left. -/
theorem decode_text (l : ResolutionList) : decode l.text = ofEntries l.passesThrough l.sized := by
  have said : parts l.text.toList = (if l.passesThrough then [.passthrough] else []) ++
      l.entries.map fun r => Part.ofChars r.chars := by
    rw [text, String.toList_ofList, parts_chars]
  have entry : Part.entry? ∘ (fun r => Part.ofChars r.chars) = Option.guard Resolution.hasSize := by
    funext r
    rw [Function.comp_apply, Part.ofChars_chars, Option.guard]
    cases r.hasSize <;> rfl
  have silent (r : Resolution) : decide (Part.ofChars r.chars = .passthrough) = false := by
    rw [Part.ofChars_chars]
    cases r.hasSize <;> rfl
  have passes : (parts l.text.toList).any (· = .passthrough) = l.passesThrough := by
    rw [said, List.any_append, List.any_map]
    have none : l.entries.any ((fun part => decide (part = .passthrough)) ∘
        fun r => Part.ofChars r.chars) = false :=
      List.any_eq_false.mpr fun r _ => by simp [silent r]
    rw [none, Bool.or_false]
    cases l.passesThrough <;> rfl
  have entries : (parts l.text.toList).filterMap Part.entry? = l.sized := by
    rw [said, List.filterMap_append, List.filterMap_map, entry, List.filterMap_eq_filter]
    cases l.passesThrough <;> rfl
  rw [decode, ofChars, passes, entries]

/-- The reader gives no target without a size. -/
theorem hasSize_of_mem_decode {s : String} {r : Resolution} (h : r ∈ (decode s).entries) :
    r.hasSize = true := by
  obtain ⟨part, hpart, said⟩ := List.mem_filterMap.mp h
  obtain ⟨t, -, rfl⟩ := List.mem_map.mp hpart
  rw [Part.ofChars] at said
  split at said
  · cases said
  · split at said
    · next read =>
        obtain rfl := Option.some.inj said
        exact Resolution.hasSize_of_ofEntry read
    · cases said

/-- **A list comes back from its written form exactly if none of its targets lacks a size.** -/
theorem decode_text_eq_iff (l : ResolutionList) :
    decode l.text = l ↔ ∀ r ∈ l.entries, r.width ≠ 0 ∧ r.height ≠ 0 := by
  have sizes : l.sized = l.entries ↔ ∀ r ∈ l.entries, r.width ≠ 0 ∧ r.height ≠ 0 := by
    simp only [sized, List.filter_eq_self, Resolution.hasSize_iff]
  rw [decode_text, ← sizes]
  constructor
  · intro same
    exact congrArg entries same
  · intro same
    have passes : (l.passesThrough || l.entries.isEmpty) = l.passesThrough := by
      cases empty : l.entries.isEmpty with
      | false => exact Bool.or_false _
      | true => rw [l.passesThrough_of_nil (List.isEmpty_iff.mp empty)]; rfl
    rw [same]
    cases l
    simpa [ofEntries] using passes

/-- The JSON string of a list stands for what its written form stands for. -/
theorem readText_ofJson (l : ResolutionList) :
    Json.readText ofJson (Json.Value.string l.text).compact = .ok (decode l.text) :=
  Json.readText_string ofJson l.text

/-- **Which lists survive the wire.**  Whatever list is built, its written form and its JSON string
stand for the list of its targets that have a size, passed on as it was, and so the list itself
comes back from either exactly if none of its targets has a width or a height of zero. -/
theorem survives_wire (l : ResolutionList) :
    decode l.text = ofEntries l.passesThrough (l.entries.filter Resolution.hasSize) ∧
      Json.readText ofJson (Json.Value.string l.text).compact = .ok (decode l.text) ∧
      (decode l.text = l ↔ ∀ r ∈ l.entries, r.width ≠ 0 ∧ r.height ≠ 0) ∧
      (Json.readText ofJson (Json.Value.string l.text).compact = .ok l ↔
        ∀ r ∈ l.entries, r.width ≠ 0 ∧ r.height ≠ 0) := by
  have json := l.readText_ofJson
  have same := l.decode_text_eq_iff
  refine ⟨l.decode_text, json, same, ?_⟩
  rw [json, ← same, Except.ok.injEq]

/-- A list that is built from a target without a width comes back as a list without any target. -/
theorem zero_width_lost :
    decode (ofEntries false [.ofSize 0 720]).text = passthrough ∧
      decode (ofEntries false [.ofSize 0 720]).text ≠ ofEntries false [.ofSize 0 720] := by
  rw [decode_text]
  decide

end ResolutionList

end Livecast
