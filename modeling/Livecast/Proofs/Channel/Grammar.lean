import Livecast.Proofs.Channel.Normalisation
import Livecast.Proofs.Text.Integer

/-!
# The texts that are read as a target

A target is written as a width and a height with a cross between them, and behind them perhaps a
frame rate and a bit rate, each behind its mark.  The reader cuts a text at the marks first and
reads numbers only then.  So it takes the sizes strictly and the rates leniently, and a minus sign
never belongs to a size: it is the mark of the frame rate.

## Main Definitions

* `Resolution.Parts` - the parts of an entry, and `Resolution.Parts.Of`, how they make it up
* `Resolution.NamesSize`, `Resolution.IsRate` - what the size and the rates of an entry say
* `Resolution.Parts.Says` - what an entry says as a whole

## Main Statements

* `Resolution.integerPrefix?_eq_some_iff` - the integer that a text is found to begin with
* `Resolution.Parts.of_iff` - an entry is put together in one way, and cut there
* `Resolution.parse_exact` - the texts that are read as a target, and as which
* `Resolution.parse_sizes` - what becomes of two integers with a cross between them
-/

namespace Livecast.Resolution

open Livecast.Text

/-! ## The integer at the start of a text -/

theorem integerPrefix?_eq (t : List Char) :
    integerPrefix? t = readInt? (signedRun (trimStart t)) := by
  unfold integerPrefix?
  split
  · next r same => rw [same, signedRun]
  · next r same => rw [same, signedRun]
  · next unsigned unsigned' => rw [signedRun] <;> assumption

/-- **The integer that a text is found to begin with** is the one that it begins with, if that fits
a signed word. -/
theorem integerPrefix?_eq_some_iff {t : List Char} {i : Int} :
    integerPrefix? t = some i ↔ BeginsWith t i ∧ FitsSigned i := by
  rw [integerPrefix?_eq, readInt?_eq_some_iff]
  refine and_congr_left fun _ => ?_
  constructor
  · intro spelled
    obtain ⟨front, whole, blank⟩ := exists_trimStart t
    obtain ⟨rest, run, stop⟩ := exists_signedRun (trimStart t)
    exact ⟨front, signedRun (trimStart t), rest, by rw [← run, ← whole], spelled, blank, stop⟩
  · rintro ⟨front, word, rest, rfl, spelled, blank, stop⟩
    rw [trimStart_append_of_blank blank, spelled.trimStart_append, signedRun_append spelled stop]
    exact spelled

/-- A rate is set to a positive word exactly if its text begins with the word's number. -/
theorem bind_integerPrefix?_eq_some_iff {t : List Char} {p : Positive} :
    (integerPrefix? t).bind Positive.ofInt? = some p ↔ BeginsWith t p.toNat := by
  have room : FitsSigned p.toNat := by
    have bound := p.inRange_toNat.2
    constructor <;> omega
  rw [Option.bind_eq_some_iff]
  simp only [Positive.ofInt?_eq_some_iff, exists_eq_right, integerPrefix?_eq_some_iff]
  exact and_iff_left room

/-! ## The parts of an entry -/

/-- The parts of an entry. -/
structure Parts where
  /-- The text of the width and the height. -/
  size : List Char
  /-- The text of the frame rate, if there is its mark. -/
  fps : Option (List Char)
  /-- The text of the bit rate, if there is its mark. -/
  bitrate : Option (List Char)

/-- A text behind its mark, if there is one. -/
def marked (mark : Char) : Option (List Char) → List Char
  | none => []
  | some t => mark :: t

/-- **How an entry is put together**: its size reaches up to the first mark.  A `-` before the first
`~` is the mark of the frame rate, and the first `~` is the mark of the bit rate. -/
structure Parts.Of (p : Parts) (entry : List Char) : Prop where
  /-- The entry consists of the parts. -/
  whole : entry = p.size ++ marked '-' p.fps ++ marked '~' p.bitrate
  /-- No mark stands in the size. -/
  size : ∀ c ∈ p.size, c ≠ '-' ∧ c ≠ '~'
  /-- No tilde stands in the frame rate. -/
  fps : ∀ t ∈ p.fps, ∀ c ∈ t, c ≠ '~'

/-- A text is cut at its first mark, if there is one. -/
theorem cutAt?_marked {mark : Char} {before : List Char} (unmarked : ∀ c ∈ before, c ≠ mark)
    (t : Option (List Char)) :
    cutAt? (· = mark) (before ++ marked mark t) = t.map (before, ·) := by
  have none : ∀ c ∈ before, decide (c = mark) = false := fun c hc => decide_eq_false (unmarked c hc)
  cases t with
  | none =>
      rw [marked, List.append_nil]
      exact cutAt?_eq_none none
  | some t => exact cutAt?_append none (decide_eq_true rfl)

theorem exists_marked (mark : Char) (t : List Char) :
    ∃ before behind, t = before ++ marked mark behind ∧ ∀ c ∈ before, c ≠ mark := by
  cases cut : cutAt? (· = mark) t with
  | none =>
      have unmarked := cutAt?_eq_none_iff.mp cut
      exact ⟨t, none, (List.append_nil t).symm, fun c hc => of_decide_eq_false (unmarked c hc)⟩
  | some parts =>
      obtain ⟨before, behind⟩ := parts
      obtain ⟨c, whole, isMark, unmarked⟩ := cutAt?_eq_some_iff.mp cut
      obtain rfl : c = mark := of_decide_eq_true isMark
      exact ⟨before, some behind, whole, fun c hc => of_decide_eq_false (unmarked c hc)⟩

namespace Parts

variable {p q : Parts} {entry : List Char}

/-- Every entry has parts. -/
theorem exists_of (entry : List Char) : ∃ p : Parts, p.Of entry := by
  obtain ⟨front, bitrate, whole, noTilde⟩ := exists_marked '~' entry
  obtain ⟨size, fps, rfl, noDash⟩ := exists_marked '-' front
  refine ⟨⟨size, fps, bitrate⟩, whole, fun c hc => ⟨noDash c hc, ?_⟩, ?_⟩
  · exact noTilde c (List.mem_append_left _ hc)
  · rintro t rfl c hc
    exact noTilde c (List.mem_append_right _ (List.mem_cons_of_mem _ hc))

/-- An entry is cut where it is put together. -/
theorem Of.split_eq (h : p.Of entry) : split entry = (p.size, p.fps, p.bitrate) := by
  have noTilde : ∀ c ∈ p.size ++ marked '-' p.fps, c ≠ '~' := by
    intro c hc
    rcases List.mem_append.mp hc with hc | hc
    · exact (h.size c hc).2
    · cases fps : p.fps with
      | none => simp [fps, marked] at hc
      | some t =>
          rw [fps, marked] at hc
          rcases List.mem_cons.mp hc with rfl | hc
          · decide
          · exact h.fps t fps c hc
  have atTilde := cutAt?_marked noTilde p.bitrate
  have atDash := cutAt?_marked (fun c hc => (h.size c hc).1) p.fps
  have unmarked (mark : Char) : marked mark none = [] := rfl
  rw [h.whole]
  simp only [split, atTilde]
  cases p.bitrate with
  | none =>
      simp only [Option.map_none, unmarked, List.append_nil, atDash]
      cases p.fps with
      | none => simp only [Option.map_none, unmarked, List.append_nil]
      | some fps => rfl
  | some bitrate =>
      simp only [Option.map_some, atDash]
      cases p.fps with
      | none => simp only [Option.map_none, unmarked, List.append_nil]
      | some fps => rfl

/-- **An entry is put together in one way.** -/
theorem Of.eq (h : p.Of entry) (h' : q.Of entry) : q = p := by
  have same := h'.split_eq.symm.trans h.split_eq
  obtain ⟨size, rates⟩ := Prod.mk.inj same
  obtain ⟨fps, bitrate⟩ := Prod.mk.inj rates
  cases p
  cases q
  congr

end Parts

/-! ## What the parts say -/

/-- A text names a width and a height: they stand before and behind its first cross, in either case.
Each is spelled as the number of a positive word, and blanks may stand around it. -/
structure NamesSize (t : List Char) (w h : Nat) : Prop where
  /-- It is put together from two spellings and a cross. -/
  parts : ∃ width cross height, t = width ++ cross :: height ∧ isCross cross = true ∧
    (∀ c ∈ width, isCross c = false) ∧ SpellsWithin width w ∧ SpellsWithin height h
  /-- The width is in the range of positive words. -/
  width_inRange : Positive.InRange w
  /-- So is the height. -/
  height_inRange : Positive.InRange h

/-- A rate is set to the integer that its text begins with, if that is the number of a positive
word, and else it is not set. -/
def IsRate (t : Option (List Char)) (rate : Option Nat) : Prop :=
  ∀ n, rate = some n ↔ Positive.InRange n ∧ ∃ text, t = some text ∧ BeginsWith text n

/-- **What an entry says**, by its parts. -/
structure Parts.Says (p : Parts) (f : Figures) : Prop where
  /-- The size names the width and the height. -/
  size : NamesSize p.size f.width f.height
  /-- The frame rate is as it says. -/
  fps : IsRate p.fps f.fps
  /-- So is the bit rate. -/
  bitrate : IsRate p.bitrate f.bitrate

/-- The rate that a text is read as. -/
def readRate? (t : Option (List Char)) : Option Positive :=
  t.bind fun text => (integerPrefix? text).bind Positive.ofInt?

theorem isRate_readRate? (t : Option (List Char)) :
    IsRate t ((readRate? t).map Positive.toNat) := by
  intro n
  rw [Option.map_eq_some_iff]
  simp only [readRate?, Option.bind_eq_some_iff (x := t), bind_integerPrefix?_eq_some_iff]
  constructor
  · rintro ⟨p, ⟨text, rfl, begins⟩, rfl⟩
    exact ⟨p.inRange_toNat, text, rfl, begins⟩
  · rintro ⟨inRange, text, rfl, begins⟩
    obtain ⟨p, rfl⟩ := Positive.exists_toNat inRange
    exact ⟨p, ⟨text, rfl, begins⟩, rfl⟩

/-- **A rate is read as its text says.** -/
theorem readRate?_eq_iff {t : Option (List Char)} {rate : Option Positive} :
    rate = readRate? t ↔ IsRate t (rate.map Positive.toNat) := by
  have read := isRate_readRate? t
  constructor
  · rintro rfl
    exact read
  · intro said
    have same : rate.map Positive.toNat = (readRate? t).map Positive.toNat :=
      Option.ext fun n => (said n).trans (read n).symm
    refine Option.map_injective (fun p q numbers => ?_) same
    exact Option.some.inj (p.ofInt?_toNat.symm.trans (numbers ▸ q.ofInt?_toNat))

/-! ## What is read -/

variable {p : Parts} {entry : List Char} {r : Resolution}

/-- **The entries that are read as a target, by where they are cut.** -/
theorem ofEntry_eq_ok_iff_cut (h : p.Of entry) :
    ofEntry entry = .ok r ↔ ∃ width height w t,
      cutAt? isCross p.size = some (width, height) ∧
        (readInt? (trim width)).bind Positive.ofInt? = some w ∧
        (readInt? (trim height)).bind Positive.ofInt? = some t ∧
        r = ⟨w.val, t.val, readRate? p.fps, readRate? p.bitrate⟩ := by
  simp only [ofEntry, h.split_eq]
  cases cutAt? isCross p.size with
  | none => simp
  | some sides =>
      obtain ⟨width, height⟩ := sides
      simp only [Option.some.injEq, Prod.mk.injEq, and_assoc, exists_and_left, exists_eq_left']
      cases readInt? (trim width) with
      | none => simp
      | some i =>
          cases readInt? (trim height) with
          | none => simp
          | some j =>
              simp only [Option.bind_some]
              cases Positive.ofInt? i with
              | none => simp
              | some w =>
                  cases Positive.ofInt? j with
                  | none => simp
                  | some t => simp [readRate?, eq_comm]

/-- Sizes that are spelled are read, as positive words. -/
theorem namesSize_iff {t : List Char} {m n : Nat} :
    NamesSize t m n ↔ ∃ (w h : Positive) (width height : List Char), w.toNat = m ∧ h.toNat = n ∧
      cutAt? isCross t = some (width, height) ∧
        (readInt? (trim width)).bind Positive.ofInt? = some w ∧
        (readInt? (trim height)).bind Positive.ofInt? = some h := by
  simp only [Positive.bind_readInt?_trim_eq_some_iff, cutAt?_eq_some_iff]
  constructor
  · rintro ⟨⟨width, cross, height, rfl, isCross, uncrossed, wide, high⟩, hm, hn⟩
    obtain ⟨w, rfl⟩ := Positive.exists_toNat hm
    obtain ⟨h, rfl⟩ := Positive.exists_toNat hn
    exact ⟨w, h, width, height, rfl, rfl, ⟨cross, rfl, isCross, uncrossed⟩, wide, high⟩
  · rintro ⟨w, h, width, height, rfl, rfl, ⟨cross, rfl, isCross, uncrossed⟩, wide, high⟩
    exact ⟨⟨width, cross, height, rfl, isCross, uncrossed, wide, high⟩, w.inRange_toNat,
      h.inRange_toNat⟩

/-- **The entries that are read as a target** are those that say what the target is. -/
theorem ofEntry_eq_ok_iff (h : p.Of entry) : ofEntry entry = .ok r ↔ p.Says r.figures := by
  rw [ofEntry_eq_ok_iff_cut h]
  constructor
  · rintro ⟨width, height, w, t, cut, wide, high, rfl⟩
    exact
      { size := namesSize_iff.mpr ⟨w, t, width, height, rfl, rfl, cut, wide, high⟩
        fps := isRate_readRate? p.fps
        bitrate := isRate_readRate? p.bitrate }
  · rintro ⟨size, fps, bitrate⟩
    obtain ⟨w, t, width, height, sameWidth, sameHeight, cut, wide, high⟩ := namesSize_iff.mp size
    refine ⟨width, height, w, t, cut, wide, high, ?_⟩
    have hw : w.val = r.width := UInt32.toNat_inj.mp sameWidth
    have ht : t.val = r.height := UInt32.toNat_inj.mp sameHeight
    rw [← readRate?_eq_iff.mpr fps, ← readRate?_eq_iff.mpr bitrate, hw, ht]

/-- **Which texts are read as a target, and as which.**  A text without the blanks around it has one
way to be put together from a size and perhaps two rates behind their marks.  It is read exactly if
the size names a width and a height, whatever the rates are; and then as the target with this width
and height, and with each rate that its text begins with, if that is the number of a positive
word. -/
theorem parse_exact (s : String) :
    ∃ p : Parts, (∀ q : Parts, q.Of (trim s.toList) ↔ q = p) ∧
      ((∃ r, parse s = .ok r) ↔ ∃ w h, NamesSize p.size w h) ∧
      ∀ r, parse s = .ok r ↔ p.Says r.figures := by
  obtain ⟨p, parts⟩ := Parts.exists_of (trim s.toList)
  have read (r : Resolution) : parse s = .ok r ↔ p.Says r.figures := ofEntry_eq_ok_iff parts
  refine ⟨p, fun q => ⟨parts.eq, by rintro rfl; exact parts⟩, ⟨?_, ?_⟩, read⟩
  · rintro ⟨r, accepted⟩
    exact ⟨_, _, ((read r).mp accepted).size⟩
  · rintro ⟨w, h, size⟩
    obtain ⟨v, rfl⟩ := Positive.exists_toNat size.width_inRange
    obtain ⟨u, rfl⟩ := Positive.exists_toNat size.height_inRange
    exact ⟨⟨v.val, u.val, readRate? p.fps, readRate? p.bitrate⟩, (read _).mpr
      ⟨size, isRate_readRate? p.fps, isRate_readRate? p.bitrate⟩⟩

/-- Blanks, signs, words behind the numbers and a second mark do not keep a text from being read. -/
example : parse " 1280X +0720 - 60fps ~ 3000-4~5 " =
    .ok (((ofSize 1280 720).atRate 60).cappedAt 3000) := by
  decide

/-! ## Sizes of either sign -/

/-- Two integers with a cross between them. -/
def sizeText (w h : Int64) : String := intText w.toInt ++ "x" ++ intText h.toInt

/-- An integer is a positive word, by its bounds. -/
def IsWord (i : Int64) : Prop := 1 ≤ i ∧ i ≤ 4294967295

theorem toList_intText_of_neg {i : Int} (h : i < 0) :
    (intText i).toList = '-' :: digits i.natAbs := by
  rw [intText, if_pos h, String.toList_ofList]

theorem toList_intText_of_nonneg {i : Int} (h : 0 ≤ i) : (intText i).toList = digits i.natAbs := by
  rw [intText, if_neg (Int.not_lt.mpr h), natText, String.toList_ofList]

theorem mem_intText {i : Int} {c : Char} (hc : c ∈ (intText i).toList) :
    c = '-' ∨ c.isDigit = true := by
  rcases Int.lt_or_le i 0 with negative | natural
  · rw [toList_intText_of_neg negative] at hc
    exact (List.mem_cons.mp hc).imp id fun hc => digits_all (fun _ h => h) _ c hc
  · rw [toList_intText_of_nonneg natural] at hc
    exact .inr (digits_all (fun _ h => h) _ c hc)

section

variable (w h : Int64)

theorem toList_sizeText :
    (sizeText w h).toList = (intText w.toInt).toList ++ 'x' :: (intText h.toInt).toList := by
  simp [sizeText]

/-- There is nothing to trim, so what is read is the text itself. -/
theorem parse_sizeText : parse (sizeText w h) = ofEntry (sizeText w h).toList := by
  have inked : ∀ c ∈ (sizeText w h).toList, isBlank c = false := by
    intro c hc
    have number {i : Int} (hc : c ∈ (intText i).toList) : isBlank c = false := by
      rcases mem_intText hc with rfl | digit
      · decide
      · exact isBlank_of_isDigit digit
    rw [toList_sizeText] at hc
    rcases List.mem_append.mp hc with hc | hc
    · exact number hc
    · rcases List.mem_cons.mp hc with rfl | hc
      · decide
      · exact number hc
  rw [parse, trim_eq_self (fun c hc => inked c (List.mem_of_mem_head? hc))
    fun c hc => inked c (List.mem_of_getLast? hc)]

/-- A number in front of a cross is what is before the cross. -/
theorem cutAt?_digits (n : Nat) (t : List Char) :
    cutAt? isCross (digits n ++ 'x' :: t) = some (digits n, t) := by
  refine cutAt?_append (digits_all (fun c hc => ?_) n) (by decide)
  rw [isCross, not_separator (by decide) c hc, not_separator (by decide) c hc]
  rfl

/-- No mark stands in a number. -/
theorem unmarked_digits (n : Nat) : ∀ c ∈ digits n, c ≠ '-' ∧ c ≠ '~' :=
  digits_all (fun _ h => ⟨ne_of_isDigit h (by decide), ne_of_isDigit h (by decide)⟩) n

/-- The sign of a width is taken for the mark of a frame rate, so that there is no size. -/
theorem parse_negative_width {w : Int64} (negative : w.toInt < 0) :
    parse (sizeText w h) = .error (.format (sizeText w h)) := by
  have parts : Parts.Of ⟨[], some (digits w.toInt.natAbs ++ 'x' :: (intText h.toInt).toList), none⟩
      (sizeText w h).toList := by
    refine ⟨?_, by simp, ?_⟩
    · rw [toList_sizeText, toList_intText_of_neg negative]
      simp [marked]
    · rintro t ⟨⟩ c hc
      rcases List.mem_append.mp hc with hc | hc
      · exact (unmarked_digits _ c hc).2
      · rcases List.mem_cons.mp hc with rfl | hc
        · decide
        · rcases mem_intText hc with rfl | digit
          · decide
          · exact ne_of_isDigit digit (by decide)
  simp only [parse_sizeText, ofEntry, parts.split_eq, cutAt?, String.ofList_toList]

/-- The sign of a height is taken for that mark as well, so that there is no height. -/
theorem parse_negative_height {w h : Int64} (natural : 0 ≤ w.toInt) (negative : h.toInt < 0) :
    parse (sizeText w h) = .error (.number (sizeText w h)) := by
  have parts : Parts.Of ⟨digits w.toInt.natAbs ++ ['x'], some (digits h.toInt.natAbs), none⟩
      (sizeText w h).toList := by
    refine ⟨?_, ?_, ?_⟩
    · rw [toList_sizeText, toList_intText_of_nonneg natural, toList_intText_of_neg negative]
      simp [marked]
    · intro c hc
      rcases List.mem_append.mp hc with hc | hc
      · exact unmarked_digits _ c hc
      · obtain rfl := List.mem_singleton.mp hc
        decide
    · rintro t ⟨⟩ c hc
      exact (unmarked_digits _ c hc).2
  have height : readInt? (trim []) = none := by decide
  simp only [parse_sizeText, ofEntry, parts.split_eq, cutAt?_digits, height, String.ofList_toList]
  cases readInt? (trim (digits w.toInt.natAbs)) <;> rfl

/-- Without a sign both numbers are read. -/
theorem parse_natural {w h : Int64} (wide : 0 ≤ w.toInt) (high : 0 ≤ h.toInt) :
    parse (sizeText w h) = match Positive.ofInt? w.toInt, Positive.ofInt? h.toInt with
      | some p, some q => .ok (ofSize p.val q.val)
      | _, _ => .error (.nonPositive (sizeText w h)) := by
  have parts : Parts.Of ⟨digits w.toInt.natAbs ++ 'x' :: digits h.toInt.natAbs, none, none⟩
      (sizeText w h).toList := by
    refine ⟨?_, ?_, by simp⟩
    · rw [toList_sizeText, toList_intText_of_nonneg wide, toList_intText_of_nonneg high]
      simp [marked]
    · intro c hc
      rcases List.mem_append.mp hc with hc | hc
      · exact unmarked_digits _ c hc
      · rcases List.mem_cons.mp hc with rfl | hc
        · decide
        · exact unmarked_digits _ c hc
  have read {i : Int64} (natural : 0 ≤ i.toInt) :
      readInt? (trim (digits i.toInt.natAbs)) = some i.toInt := by
    have bound := i.toInt_lt
    rw [trim_digits, readInt?_digits (by simp only [maxSigned]; omega)]
    exact congrArg some (Int.natAbs_of_nonneg natural)
  simp only [parse_sizeText, ofEntry, parts.split_eq, cutAt?_digits, read wide, read high,
    String.ofList_toList]
  rfl

/-- An integer is the number of a positive word exactly if it is within the bounds of those. -/
theorem isSome_ofInt?_iff (i : Int64) : (Positive.ofInt? i.toInt).isSome = true ↔ IsWord i := by
  have bounds : IsWord i ↔ 1 ≤ i.toInt ∧ i.toInt ≤ 4294967295 := by
    rw [IsWord, Int64.le_iff_toInt_le, Int64.le_iff_toInt_le]
    rfl
  rw [bounds, Option.isSome_iff_exists]
  simp only [Positive.ofInt?_eq_some_iff]
  constructor
  · rintro ⟨p, same⟩
    have inRange := p.inRange_toNat
    constructor
    · exact same ▸ Int.ofNat_le.mpr inRange.1
    · exact same ▸ Int.ofNat_le.mpr inRange.2
  · rintro ⟨low, high⟩
    obtain ⟨p, same⟩ := Positive.exists_toNat (n := i.toInt.toNat) ⟨by omega, by omega⟩
    exact ⟨p, by omega⟩

end

/-- **What becomes of two integers with a cross between them.**  The text is found to lack the form
of a target if the width is negative, and to hold something that is no number if only the height is,
since the sign is the mark of a frame rate.  If neither is negative, the sizes are found not to be
positive unless both are positive words, and else the text is read.  Every fault carries the
text. -/
theorem parse_sizes (w h : Int64) :
    (parse (sizeText w h) = .error (.format (sizeText w h)) ↔ w < 0) ∧
      (parse (sizeText w h) = .error (.number (sizeText w h)) ↔ 0 ≤ w ∧ h < 0) ∧
      (parse (sizeText w h) = .error (.nonPositive (sizeText w h)) ↔
        0 ≤ w ∧ 0 ≤ h ∧ ¬(IsWord w ∧ IsWord h)) ∧
      ((∃ r, parse (sizeText w h) = .ok r) ↔ IsWord w ∧ IsWord h) := by
  have negative (i : Int64) : i < 0 ↔ i.toInt < 0 := by
    rw [Int64.lt_iff_toInt_lt, Int64.toInt_zero]
  have natural (i : Int64) : 0 ≤ i ↔ 0 ≤ i.toInt := by
    rw [Int64.le_iff_toInt_le, Int64.toInt_zero]
  have unsigned {i : Int64} (word : IsWord i) : 0 ≤ i.toInt := by
    have low := Int64.le_iff_toInt_le.mp word.1
    exact Int.le_trans (by decide) low
  simp only [negative, natural]
  rcases Int.lt_or_le w.toInt 0 with hw | hw
  · have noWord : ¬IsWord w := fun word => Int.not_lt.mpr (unsigned word) hw
    simp [parse_negative_width h hw, hw, noWord, Int.not_le.mpr hw]
  · rcases Int.lt_or_le h.toInt 0 with hh | hh
    · have noWord : ¬IsWord h := fun word => Int.not_lt.mpr (unsigned word) hh
      simp [parse_negative_height hw hh, hw, hh, noWord]
    · rw [parse_natural hw hh, ← isSome_ofInt?_iff w, ← isSome_ofInt?_iff h]
      cases Positive.ofInt? w.toInt with
      | none => simp [hw, hh]
      | some p =>
          cases Positive.ofInt? h.toInt with
          | none => simp [hw, hh]
          | some q => simp [hw, hh]

/-- A width or a height below zero is not found to be one: neither text is refused because of a size
that is not positive. -/
theorem negative_size_misread :
    sizeText (-5) 10 = "-5x10" ∧ parse "-5x10" = .error (.format "-5x10") ∧
      parse "-5x10" ≠ .error (.nonPositive "-5x10") ∧
      sizeText 5 (-10) = "5x-10" ∧ parse "5x-10" = .error (.number "5x-10") ∧
      parse "5x-10" ≠ .error (.nonPositive "5x-10") := by
  have five : intText 5 = "5" ∧ intText (-5) = "-5" := by
    simp [intText, natText, digits, digitChar]
  have ten : intText 10 = "10" ∧ intText (-10) = "-10" := by
    simp [intText, natText, digits, digitChar]
  have wide : sizeText (-5) 10 = intText (-5) ++ "x" ++ intText 10 := rfl
  have high : sizeText 5 (-10) = intText 5 ++ "x" ++ intText (-10) := rfl
  rw [five.2, ten.1] at wide
  rw [five.1, ten.2] at high
  exact ⟨wide, by decide, by decide, high, by decide, by decide⟩

end Livecast.Resolution
