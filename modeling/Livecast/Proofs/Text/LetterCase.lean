import Livecast.Proofs.Text.Integer
import Mathlib

/-!
# Capital letters

Only letters of ASCII have a lower-case form, so what is claimed of a character and its lower-case
form is checked for these and otherwise holds of a character and itself.  Blanks, digits, signs and
separators are no letters: a text is trimmed, cut and read as a number in the same places whatever
the case of its letters.

## Main Definitions

* `SameLetters` - two texts differ in the case of their letters at most

## Main Statements

* `forall_toLower` - what holds of the characters of ASCII and of every other character
* `trim_map_toLower`, `pieces_map_toLower`, `cutAt?_map_toLower` - trimming and cutting
* `readInt?_map_toLower` - reading integers
-/

namespace Livecast.Text

/-- Two texts differ in the case of their letters at most. -/
def SameLetters (s t : String) : Prop := s.toList.map Char.toLower = t.toList.map Char.toLower

/-! ## Characters -/

theorem forall_toLower {P : Char → Char → Prop}
    (ascii : ∀ n : Fin 128, P (Char.ofNat n) (Char.ofNat n).toLower)
    (beyond : ∀ c : Char, 128 ≤ c.toNat → P c c) (c : Char) : P c c.toLower := by
  by_cases small : c.toNat < 128
  · have checked := ascii ⟨c.toNat, small⟩
    rwa [Char.ofNat_toNat] at checked
  · have caseless : c.toLower = c := by
      refine dif_neg fun upper => ?_
      have high : c.val.toNat ≤ 90 := UInt32.le_iff_toNat_le.mp upper.2
      have large : 128 ≤ c.val.toNat := Nat.not_lt.mp small
      omega
    rw [caseless]
    exact beyond c (Nat.not_lt.mp small)

theorem isBlank_toLower (c : Char) : isBlank c.toLower = isBlank c :=
  forall_toLower (P := fun c d => isBlank d = isBlank c) (by decide) (fun _ _ => rfl) c

theorem isDigit_toLower (c : Char) : c.toLower.isDigit = c.isDigit :=
  forall_toLower (P := fun c d => d.isDigit = c.isDigit) (by decide) (fun _ _ => rfl) c

/-- Texts that are the same in capital letters are the same in small ones. -/
theorem map_toUpper_eq_iff {s t : List Char} :
    s.map Char.toUpper = t.map Char.toUpper ↔ s.map Char.toLower = t.map Char.toLower := by
  constructor
  · intro same
    simpa [Function.comp_def] using congrArg (List.map Char.toLower) same
  · intro same
    simpa [Function.comp_def] using congrArg (List.map Char.toUpper) same

/-- A character that is no letter is the lower-case form of no other one. -/
theorem toLower_eq_iff {d : Char}
    (ascii : ∀ n : Fin 128, (Char.ofNat n).toLower = d ↔ Char.ofNat n = d) (c : Char) :
    c.toLower = d ↔ c = d :=
  forall_toLower (P := fun c lower => lower = d ↔ c = d) ascii (fun _ _ => Iff.rfl) c

/-! ## Trimming and cutting -/

theorem trimStart_map_toLower (t : List Char) :
    trimStart (t.map Char.toLower) = (trimStart t).map Char.toLower := by
  have blank : isBlank ∘ Char.toLower = isBlank := funext isBlank_toLower
  rw [trimStart, List.dropWhile_map, blank, trimStart]

theorem trim_map_toLower (t : List Char) :
    trim (t.map Char.toLower) = (trim t).map Char.toLower := by
  have blank : isBlank ∘ Char.toLower = isBlank := funext isBlank_toLower
  simp only [trim, trimEnd, trimStart, dropEndWhile, List.dropWhile_map, ← List.map_reverse, blank]

section

variable {p : Char → Bool} (hp : ∀ c : Char, p c.toLower = p c) (t : List Char)
include hp

/-- A separator that is no letter is found where it is. -/
theorem cutAt?_map_toLower : cutAt? p (t.map Char.toLower) =
    (cutAt? p t).map (Prod.map (List.map Char.toLower) (List.map Char.toLower)) := by
  rw [cutAt?_map, funext hp]

theorem pieces_map_toLower :
    pieces p (t.map Char.toLower) = (pieces p t).map (List.map Char.toLower) := by
  induction t with
  | nil => rfl
  | cons c rest ih =>
      by_cases separator : p c = true
      · simp [pieces, hp, separator, ih]
      · obtain ⟨piece, more, cut⟩ := List.exists_cons_of_ne_nil (pieces_ne_nil p rest)
        simp [pieces, hp, separator, ih, cut]

end

/-! ## Numbers -/

/-- A character that the spelling of an integer may hold. -/
def isNumeric (c : Char) : Bool := c = '-' || c = '+' || c.isDigit

theorem isNumeric_toLower (c : Char) : isNumeric c.toLower = isNumeric c :=
  forall_toLower (P := fun c d => isNumeric d = isNumeric c) (by decide) (fun _ _ => rfl) c

theorem toLower_of_isNumeric {c : Char} (h : isNumeric c = true) : c.toLower = c :=
  forall_toLower (P := fun c d => isNumeric c = true → d = c) (by decide) (fun _ _ _ => rfl) c h

theorem isNumeric_of_isDigit {c : Char} (h : c.isDigit = true) : isNumeric c = true := by
  simp [isNumeric, h]

theorem map_toLower_of_isNumeric {t : List Char} (h : ∀ c ∈ t, isNumeric c = true) :
    t.map Char.toLower = t := by
  rw [List.map_congr_left fun c hc => toLower_of_isNumeric (h c hc), List.map_id']

theorem SpellsInteger.isNumeric {t : List Char} {i : Int} (h : SpellsInteger t i) :
    ∀ c ∈ t, isNumeric c = true := by
  cases h with
  | number spelled => exact spelled.forall_mem rfl fun _ => isNumeric_of_isDigit
  | minus digits =>
      exact List.forall_mem_cons.mpr
        ⟨rfl, fun c hc => isNumeric_of_isDigit ((isDigits_iff.mp digits).2 c hc)⟩

/-- A spelling has no letters, so that it has one case. -/
theorem spellsInteger_map_toLower {t : List Char} {i : Int} :
    SpellsInteger (t.map Char.toLower) i ↔ SpellsInteger t i := by
  constructor
  · intro spelled
    have caseless := map_toLower_of_isNumeric fun c hc =>
      (isNumeric_toLower c).symm.trans (spelled.isNumeric _ (List.mem_map_of_mem hc))
    rwa [caseless] at spelled
  · intro spelled
    rwa [map_toLower_of_isNumeric spelled.isNumeric]

/-- **Reading an integer does not depend on the case of letters.** -/
theorem readInt?_map_toLower (t : List Char) : readInt? (t.map Char.toLower) = readInt? t := by
  ext i
  rw [readInt?_eq_some_iff, readInt?_eq_some_iff, spellsInteger_map_toLower]

theorem takeWhile_isDigit_map_toLower (t : List Char) :
    (t.map Char.toLower).takeWhile Char.isDigit = t.takeWhile Char.isDigit := by
  have digit : Char.isDigit ∘ Char.toLower = Char.isDigit := funext isDigit_toLower
  rw [List.takeWhile_map, digit]
  exact map_toLower_of_isNumeric fun _ hc => isNumeric_of_isDigit (List.mem_takeWhile_imp hc)

/-- A text without a sign begins with the run of digits there. -/
theorem signedRun_of_unsigned {t : List Char}
    (h : ∀ c, t.head? = some c → c ≠ '-' ∧ c ≠ '+') : signedRun t = t.takeWhile Char.isDigit := by
  rw [signedRun]
  · rintro r rfl
    exact (h '-' rfl).1 rfl
  · rintro r rfl
    exact (h '+' rfl).2 rfl

theorem signedRun_map_toLower (t : List Char) : signedRun (t.map Char.toLower) = signedRun t := by
  have other {c d : Char} (ascii : ∀ n : Fin 128, (Char.ofNat n).toLower = d ↔ Char.ofNat n = d)
      (h : c ≠ d) : c.toLower ≠ d := mt (toLower_eq_iff ascii c).mp h
  cases t with
  | nil => rfl
  | cons c r =>
      by_cases minus : c = '-'
      · subst minus
        exact congrArg ('-' :: ·) (takeWhile_isDigit_map_toLower r)
      · by_cases plus : c = '+'
        · subst plus
          exact congrArg ('+' :: ·) (takeWhile_isDigit_map_toLower r)
        · rw [signedRun_of_unsigned, signedRun_of_unsigned, takeWhile_isDigit_map_toLower]
          · rintro d ⟨⟩
            exact ⟨minus, plus⟩
          · rintro d ⟨⟩
            exact ⟨other (by decide) minus, other (by decide) plus⟩

end Livecast.Text
