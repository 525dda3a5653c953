import Livecast.Previews
import Livecast.Proofs.Text.LetterCase
import Livecast.Resolution

/-!
# The texts of preview settings

Settings are either off or three positive words, and both are read as they are written.  Other texts
are read as well: blanks may stand around the numbers, the cross may be a capital letter, and the
numbers may have a sign and leading zeros.  But nothing else is, and there is nothing between
settings that are on and settings that are off.

## Main Definitions

* `Previews.HasForm` - a text names a width, a height and a delay

## Main Statements

* `Previews.decode_text` - the written form of settings stands for these settings
* `Previews.ofChars_eq_enabled_iff` - the texts that turn previews on, by where they are cut
* `Previews.decode_exact` - the texts that turn previews on, and to what
-/

namespace Livecast.Previews

open Livecast.Text
open Livecast.Resolution (isCross)

/-- A written word is read as this word. -/
theorem word?_digits (p : Positive) : word? (digits p.toNat) = some p := by
  rw [word?, trim_digits]
  exact p.bind_readInt?_digits

/-- A size, as it is written. -/
def sizeChars (w h : Positive) : List Char := digits w.toNat ++ 'x' :: digits h.toNat

theorem trim_sizeChars (w h : Positive) : trim (sizeChars w h) = sizeChars w h := by
  have last : sizeChars w h = digits w.toNat ++ ['x'] ++ digits h.toNat := by simp [sizeChars]
  exact trim_between rfl last

/-- A size is cut at its cross. -/
theorem cutAt?_sizeChars (w h : Positive) :
    cutAt? (· = 'x') (sizeChars w h) = some (digits w.toNat, digits h.toNat) :=
  cutAt?_append (digits_all (not_separator (by decide)) _) (by simp)

/-- Settings are cut behind their size. -/
theorem cutAt?_chars (w h d : Positive) :
    cutAt? (· = ',') (enabled w h d).chars = some (sizeChars w h, digits d.toNat) := by
  have digit : ∀ c : Char, c.isDigit = true → decide (c = ',') = false :=
    not_separator (by decide)
  refine cutAt?_append (fun c hc => ?_) (by simp)
  rcases List.mem_append.mp hc with hc | hc
  · exact digits_all digit _ c hc
  · rcases List.mem_cons.mp hc with rfl | hc
    · decide
    · exact digits_all digit _ c hc

/-- **The written form of settings stands for these settings.** -/
theorem decode_text (p : Previews) : decode p.text = p := by
  rw [decode, text, String.toList_ofList]
  cases p with
  | disabled => decide
  | enabled w h d =>
      have first : (enabled w h d).chars =
          digits w.toNat ++ ('x' :: digits h.toNat ++ ',' :: digits d.toNat) := by simp [chars]
      have last : (enabled w h d).chars = sizeChars w h ++ [','] ++ digits d.toNat := by
        simp [chars, sizeChars]
      have trimmed : trim (enabled w h d).chars = (enabled w h d).chars := trim_between first last
      have lower : (enabled w h d).chars.map Char.toLower = (enabled w h d).chars := by
        simp [chars, map_toLower_digits]
      simp only [ofChars, trimmed, lower, cutAt?_chars, trim_sizeChars, cutAt?_sizeChars,
        word?_digits]

/-! ## Capital letters -/

theorem toLower_eq_comma_iff (c : Char) : c.toLower = ',' ↔ c = ',' := toLower_eq_iff (by decide) c

theorem toLower_eq_cross_iff (c : Char) : c.toLower = 'x' ↔ c = 'x' ∨ c = 'X' := by
  refine forall_toLower (P := fun c d => d = 'x' ↔ c = 'x' ∨ c = 'X') (by decide) ?_ c
  intro c large
  refine ⟨Or.inl, fun cross => cross.resolve_right ?_⟩
  rintro rfl
  exact absurd large (by decide)

/-- A character that a spelling with blanks around it may hold. -/
def inSpelling (c : Char) : Bool := c = '+' || c.isDigit || isBlank c

theorem inSpelling_toLower (c : Char) :
    (inSpelling c.toLower = true → c.toLower = c) ∧ (inSpelling c = true → c.toLower = c) :=
  forall_toLower
    (P := fun c d => (inSpelling d = true → d = c) ∧ (inSpelling c = true → d = c)) (by decide)
    (fun _ _ => ⟨fun _ => rfl, fun _ => rfl⟩) c

theorem inSpelling_of_spellsWithin {t : List Char} {n : Nat} (h : SpellsWithin t n) :
    ∀ c ∈ t, inSpelling c = true := by
  refine h.forall_mem (by decide) (fun c digit => ?_) fun c blank => ?_
  · simp [inSpelling, digit]
  · simp [inSpelling, blank]

/-- A spelling has no letters, so that it has one case. -/
theorem spellsWithin_map_toLower {t : List Char} {n : Nat} :
    SpellsWithin (t.map Char.toLower) n ↔ SpellsWithin t n := by
  have same (h : ∀ c ∈ t, c.toLower = c) : t.map Char.toLower = t := by
    rw [List.map_congr_left (g := id) h, List.map_id]
  constructor
  · intro spelled
    have caseless := same fun c hc => (inSpelling_toLower c).1
      (inSpelling_of_spellsWithin spelled _ (List.mem_map_of_mem hc))
    rwa [caseless] at spelled
  · intro spelled
    have caseless := same fun c hc => (inSpelling_toLower c).2
      (inSpelling_of_spellsWithin spelled c hc)
    rwa [caseless]

/-! ## Where the texts are cut -/

/-- The texts that are read as a word. -/
theorem word?_eq_some_iff {t : List Char} {p : Positive} :
    word? t = some p ↔ SpellsWithin t p.toNat :=
  Positive.bind_readInt?_trim_eq_some_iff

theorem word?_map_toLower (t : List Char) : word? (t.map Char.toLower) = word? t := by
  ext p
  rw [word?_eq_some_iff, word?_eq_some_iff, spellsWithin_map_toLower]

theorem word?_trimStart (t : List Char) : word? (trimStart t) = word? t := by
  rw [word?, word?, trim_trimStart]

theorem word?_trimEnd (t : List Char) : word? (trimEnd t) = word? t := by
  rw [word?, word?, trim_trimEnd]

/-- The comma is found in the text as it is. -/
theorem cutAt?_comma (t : List Char) :
    cutAt? (· = ',') ((trim t).map Char.toLower) =
      (cutAt? (· = ',') t).map
        (Prod.map (fun size => (trimStart size).map Char.toLower)
          fun delay => (trimEnd delay).map Char.toLower) := by
  have comma : (fun c : Char => decide (c.toLower = ',')) = (fun c => decide (c = ',')) :=
    funext fun c => decide_eq_decide.mpr (toLower_eq_comma_iff c)
  rw [cutAt?_map, comma, cutAt?_trim (by simp; decide), Option.map_map]
  rfl

theorem isCross_iff (c : Char) : isCross c = true ↔ c = 'x' ∨ c = 'X' := by
  simp [isCross]

/-- The cross is found in the size as it is. -/
theorem cutAt?_cross (size : List Char) :
    cutAt? (· = 'x') (trim ((trimStart size).map Char.toLower)) =
      (cutAt? isCross size).map
        (Prod.map (fun width => (trimStart width).map Char.toLower)
          fun height => (trimEnd height).map Char.toLower) := by
  have cross : (fun c : Char => decide (c.toLower = 'x')) = isCross := by
    funext c
    rw [Bool.eq_iff_iff, decide_eq_true_iff, toLower_eq_cross_iff, isCross_iff]
  have inked : ∀ c, isCross c = true → isBlank c = false := by
    intro c hc
    rcases (isCross_iff c).mp hc with rfl | rfl
    · decide
    · decide
  rw [trim_map_toLower, trim_trimStart, cutAt?_map, cross, cutAt?_trim inked, Option.map_map]
  rfl

/-- **The texts that turn previews on, by where they are cut**: at the first comma, and before it at
the first cross. -/
theorem ofChars_eq_enabled_iff {t : List Char} {w h d : Positive} :
    ofChars t = enabled w h d ↔ ∃ size delay width height,
      cutAt? (· = ',') t = some (size, delay) ∧ cutAt? isCross size = some (width, height) ∧
        word? width = some w ∧ word? height = some h ∧ word? delay = some d := by
  rw [ofChars, cutAt?_comma]
  -- the reader cuts the trimmed text in lower case, which is a cut of the text itself
  cases cutAt? (· = ',') t with
  | none => simp
  | some parts =>
      obtain ⟨size, delay⟩ := parts
      simp only [Option.map_some, Prod.map_apply, cutAt?_cross, Option.some.injEq, Prod.mk.injEq,
        and_assoc, exists_and_left, exists_eq_left']
      cases cutAt? isCross size with
      | none => simp
      | some sides =>
          obtain ⟨width, height⟩ := sides
          simp only [Option.map_some, Prod.map_apply, word?_map_toLower, word?_trimStart,
            word?_trimEnd, Option.some.injEq, Prod.mk.injEq, and_assoc, exists_and_left,
            exists_eq_left']
          cases word? width <;> cases word? height <;> cases word? delay <;> simp

/-! ## What the texts say -/

/-- A text names a width, a height and a delay: it has the form `W x H , D` with a cross in either
case.  There `W`, `H` and `D` spell the numbers of positive words, and blanks may stand around
each. -/
structure HasForm (t : List Char) (w h d : Nat) : Prop where
  /-- It is put together from three spellings, a cross and a comma. -/
  parts : ∃ width cross height delay, t = width ++ cross :: (height ++ ',' :: delay) ∧
    (cross = 'x' ∨ cross = 'X') ∧ SpellsWithin width w ∧ SpellsWithin height h ∧
    SpellsWithin delay d
  /-- The width is in the range of positive words. -/
  width_inRange : Positive.InRange w
  /-- So is the height. -/
  height_inRange : Positive.InRange h
  /-- And so is the delay. -/
  delay_inRange : Positive.InRange d

/-- No separator stands in a spelling. -/
theorem not_separator_of_spellsWithin {t : List Char} {n : Nat} (h : SpellsWithin t n) :
    (∀ c ∈ t, decide (c = ',') = false) ∧ ∀ c ∈ t, isCross c = false := by
  have each (c : Char) (hc : inSpelling c = true) :
      decide (c = ',') = false ∧ isCross c = false := by
    constructor
    · refine decide_eq_false ?_
      rintro rfl
      exact absurd hc (by decide)
    · refine Bool.eq_false_iff.mpr fun cross => ?_
      rcases (isCross_iff c).mp cross with rfl | rfl
      · exact absurd hc (by decide)
      · exact absurd hc (by decide)
  exact ⟨fun c hc => (each c (inSpelling_of_spellsWithin h c hc)).1,
    fun c hc => (each c (inSpelling_of_spellsWithin h c hc)).2⟩

/-- **The texts that turn previews on** are those that name a width, a height and a delay. -/
theorem ofChars_eq_enabled_iff_hasForm {t : List Char} {w h d : Positive} :
    ofChars t = enabled w h d ↔ HasForm t w.toNat h.toNat d.toNat := by
  simp only [ofChars_eq_enabled_iff, word?_eq_some_iff]
  constructor
  · rintro ⟨size, delay, width, height, comma, cross, spelled⟩
    obtain ⟨c, rfl, isComma, -⟩ := cutAt?_eq_some_iff.mp comma
    obtain ⟨x, rfl, crossed, -⟩ := cutAt?_eq_some_iff.mp cross
    obtain rfl : c = ',' := of_decide_eq_true isComma
    exact ⟨⟨width, x, height, delay, by simp, (isCross_iff x).mp crossed, spelled⟩,
      w.inRange_toNat, h.inRange_toNat, d.inRange_toNat⟩
  · rintro ⟨⟨width, x, height, delay, rfl, cross, hw, hh, hd⟩, -, -, -⟩
    -- as no spelling holds a separator, the first ones in the text are those of its form
    have inked : decide (x = ',') = false := by
      rcases cross with rfl | rfl
      · decide
      · decide
    have noComma : ∀ c ∈ width ++ x :: height, decide (c = ',') = false := by
      intro c hc
      rcases List.mem_append.mp hc with hc | hc
      · exact (not_separator_of_spellsWithin hw).1 c hc
      · rcases List.mem_cons.mp hc with rfl | hc
        · exact inked
        · exact (not_separator_of_spellsWithin hh).1 c hc
    refine ⟨width ++ x :: height, delay, width, height, ?_, ?_, hw, hh, hd⟩
    · rw [← List.cons_append, ← List.append_assoc]
      exact cutAt?_append noComma (by decide)
    · exact cutAt?_append (not_separator_of_spellsWithin hw).2 ((isCross_iff x).mpr cross)

/-- Settings that are on are named by exactly the texts of their form. -/
theorem hasForm_iff {t : List Char} {w h d : Nat} :
    HasForm t w h d ↔ ∃ p q r : Positive, p.toNat = w ∧ q.toNat = h ∧ r.toNat = d ∧
      ofChars t = enabled p q r := by
  constructor
  · intro form
    obtain ⟨p, rfl⟩ := Positive.exists_toNat form.width_inRange
    obtain ⟨q, rfl⟩ := Positive.exists_toNat form.height_inRange
    obtain ⟨r, rfl⟩ := Positive.exists_toNat form.delay_inRange
    exact ⟨p, q, r, rfl, rfl, rfl, ofChars_eq_enabled_iff_hasForm.mpr form⟩
  · rintro ⟨p, q, r, rfl, rfl, rfl, read⟩
    exact ofChars_eq_enabled_iff_hasForm.mp read

/-- Three words turn previews on unless one of them is zero. -/
theorem ofWords_eq_enabled_iff {w h d : UInt32} {p q r : Positive} :
    ofWords w h d = enabled p q r ↔ w = p.val ∧ h = q.val ∧ d = r.val := by
  constructor
  · intro on
    rw [ofWords] at on
    split at on
    · next hw hh hd =>
        obtain ⟨rfl, rfl, rfl⟩ := enabled.inj on
        exact ⟨Positive.ofWord?_eq_some_iff.mp hw, Positive.ofWord?_eq_some_iff.mp hh,
          Positive.ofWord?_eq_some_iff.mp hd⟩
    · cases on
  · rintro ⟨rfl, rfl, rfl⟩
    have found (p : Positive) : Positive.ofWord? p.val = some p :=
      Positive.ofWord?_eq_some_iff.mpr rfl
    simp only [ofWords, found]

/-- The written form of three words has their form unless one of them is zero. -/
theorem hasForm_text_iff (w h d : UInt32) :
    HasForm (ofWords w h d).text.toList w.toNat h.toNat d.toNat ↔ w ≠ 0 ∧ h ≠ 0 ∧ d ≠ 0 := by
  have read : ofChars (ofWords w h d).text.toList = ofWords w h d := decode_text _
  simp only [hasForm_iff, read, ofWords_eq_enabled_iff]
  constructor
  · rintro ⟨p, q, r, -, -, -, rfl, rfl, rfl⟩
    exact ⟨p.ne_zero, q.ne_zero, r.ne_zero⟩
  · rintro ⟨hw, hh, hd⟩
    exact ⟨⟨w, hw⟩, ⟨h, hh⟩, ⟨d, hd⟩, rfl, rfl, rfl, rfl, rfl, rfl⟩

/-- A text turns previews on exactly if it has the form of some settings. -/
theorem areEnabled_decode_iff (s : String) :
    (decode s).areEnabled = true ↔ ∃ w h d, HasForm s.toList w h d := by
  constructor
  · intro on
    cases read : decode s with
    | disabled =>
        rw [read] at on
        cases on
    | enabled p q r => exact ⟨_, _, _, ofChars_eq_enabled_iff_hasForm.mp read⟩
  · rintro ⟨w, h, d, form⟩
    obtain ⟨p, q, r, -, -, -, read⟩ := hasForm_iff.mp form
    rw [decode, read]
    rfl

/-- **Which texts turn previews on, and to what.**  Settings of any three words, and settings that
are off, are read as they are written.  A text turns previews on exactly if it has the form of a
width, a height and a delay, and these are then the settings; every other text turns previews off,
with a width, a height and a delay of zero. -/
theorem decode_exact :
    (∀ w h d : UInt32, decode (ofWords w h d).text = ofWords w h d ∧
      (HasForm (ofWords w h d).text.toList w.toNat h.toNat d.toNat ↔ w ≠ 0 ∧ h ≠ 0 ∧ d ≠ 0)) ∧
    decode disabled.text = disabled ∧
    ∀ s : String,
      ((decode s).areEnabled = true ↔ ∃ w h d, HasForm s.toList w h d) ∧
      (∀ w h d, HasForm s.toList w h d →
        (decode s).width.toNat = w ∧ (decode s).height.toNat = h ∧ (decode s).delay.toNat = d) ∧
      ((decode s).areEnabled = false →
        decode s = disabled ∧ (decode s).width = 0 ∧ (decode s).height = 0 ∧
          (decode s).delay = 0) := by
  refine ⟨fun w h d => ⟨decode_text _, hasForm_text_iff w h d⟩, decode_text _,
    fun s => ⟨areEnabled_decode_iff s, ?_, ?_⟩⟩
  · intro w h d form
    obtain ⟨p, q, r, rfl, rfl, rfl, read⟩ := hasForm_iff.mp form
    rw [decode, read]
    exact ⟨rfl, rfl, rfl⟩
  · intro off
    cases read : decode s with
    | disabled => exact ⟨rfl, rfl, rfl, rfl⟩
    | enabled p q r =>
        rw [read] at off
        cases off

end Livecast.Previews
