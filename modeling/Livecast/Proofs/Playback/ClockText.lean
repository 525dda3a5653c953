import Livecast.Proofs.Playback.Double
import Livecast.Proofs.Text.Numeral

/-!
# Clock texts and what they stand for

Whole seconds have one clock text: minutes and seconds below an hour, and hours in front of them
from one hour up.  Minutes and seconds are two digits each, and hours are two digits unless they
need more.  Reading such a text gives the seconds back, whether the arithmetic on words of 64 bits
is checked or wraps: on any text the two differ only if the seconds do not fit a word.

A double below zero, or one that is no number or infinite, is shown as zero seconds.  Of every other
one the whole seconds are shown, up to the largest word.

## Main Definitions

* `PlaybackTime.ShortForm`, `PlaybackTime.LongForm` - the clock texts, and what they stand for
* `PlaybackTime.seconds` - the sum of hours, minutes and seconds, where nothing is too large

## Main Statements

* `Text.padded_eq_iff` - the digits that a number is padded to
* `PlaybackTime.shortForm_iff`, `PlaybackTime.longForm_iff` - each number of seconds has one clock
  text, in one of the two forms
* `PlaybackTime.seconds_parts_chars` - the numbers in a clock text are its seconds
* `PlaybackTime.parse?_eq`, `PlaybackTime.parse_eq` - reading with checks gives the seconds unless
  they do not fit a word, and reading without them gives the bits that fit
* `PlaybackTime.clock_round_trip` - showing and reading undo each other
-/

namespace Livecast

namespace Text

/-! ## Leading zeros -/

variable {t : List Char} {n width : ℕ}

/-- A digit is the one of its value. -/
theorem exists_digitChar {c : Char} (h : c.isDigit = true) : ∃ d < 10, c = digitChar d := by
  have bounds : 48 ≤ c.toNat ∧ c.toNat ≤ 57 := by
    simpa [Char.isDigit, UInt32.le_iff_toNat_le] using h
  refine ⟨c.toNat - 48, by omega, ?_⟩
  rw [digitChar, Nat.add_sub_cancel' bounds.1, Char.ofNat_toNat]

theorem digits_zero : digits 0 = ['0'] := by
  rw [digits]
  rfl

/-- **A run of digits without a zero in front is how its value is written.** -/
theorem digits_digitsValue (h : isDigits t = true) (lead : t.head? ≠ some '0') :
    digits (digitsValue t) = t := by
  induction t using List.reverseRecOn with
  | nil => simp [isDigits] at h
  | append_singleton run c ih =>
      have each := (isDigits_iff.mp h).2
      obtain ⟨d, small, rfl⟩ := exists_digitChar (each c (by simp))
      rw [digitsValue_concat, digitChar_toNat small, Nat.add_sub_cancel_left]
      rcases eq_or_ne run [] with rfl | nonempty
      · rw [digits, if_pos (by simpa using small)]
        simp
      · rw [List.head?_append_of_ne_nil _ nonempty] at lead
        have front : digits (digitsValue run) = run :=
          ih (isDigits_iff.mpr ⟨nonempty, fun c hc => each c (by simp [hc])⟩) lead
        have large : digitsValue run ≠ 0 := by
          intro zero
          rw [← front, zero, digits_zero] at lead
          exact lead rfl
        have tens : (10 * digitsValue run + d) / 10 = digitsValue run := by omega
        have ones : (10 * digitsValue run + d) % 10 = d := by omega
        rw [digits, if_neg (by omega), tens, ones, front]

/-- A run of digits is how its value is written, with zeros in front. -/
theorem exists_zeros (h : isDigits t = true) :
    ∃ k, t = List.replicate k '0' ++ digits (digitsValue t) := by
  induction t with
  | nil => simp [isDigits] at h
  | cons c run ih =>
      by_cases zero : c = '0'
      · subst zero
        have value : digitsValue ('0' :: run) = digitsValue run := rfl
        rcases eq_or_ne run [] with rfl | nonempty
        · exact ⟨0, digits_zero.symm⟩
        · obtain ⟨k, whole⟩ := ih
            (isDigits_iff.mpr ⟨nonempty, fun c hc => (isDigits_iff.mp h).2 c (by simp [hc])⟩)
          exact ⟨k + 1, by rw [value, List.replicate_succ, List.cons_append, ← whole]⟩
      · exact ⟨0, (digits_digitsValue h (by simpa using zero)).symm⟩

theorem digitsValue_zeros (k : ℕ) (t : List Char) :
    digitsValue (List.replicate k '0' ++ t) = digitsValue t := by
  induction k with
  | zero => rfl
  | succ k ih => exact ih

theorem length_padded : (padded width n).length = max width (digits n).length := by
  rw [padded, List.length_append, List.length_replicate]
  omega

/-- **The digits that a number is padded to** denote it and are wide enough, and if they are wider
they do not begin with a zero. -/
theorem padded_eq_iff (positive : 0 < width) : padded width n = t ↔
    isDigits t = true ∧ digitsValue t = n ∧ width ≤ t.length ∧
      (width < t.length → t.head? ≠ some '0') := by
  constructor
  · rintro rfl
    refine ⟨isDigits_iff.mpr ⟨by simp [padded, digits_ne_nil], fun c hc => ?_⟩, ?_, ?_, ?_⟩
    · rcases List.mem_append.mp hc with hc | hc
      · rw [List.eq_of_mem_replicate hc]
        rfl
      · exact digits_all (fun _ h => h) n c hc
    · rw [padded, digitsValue_zeros, digitsValue_digits]
    · rw [length_padded]
      exact le_max_left _ _
    · intro wide
      rw [length_padded] at wide
      have needed : width < (digits n).length := by omega
      have large : n ≠ 0 := by
        rintro rfl
        rw [digits_zero, List.length_singleton] at needed
        omega
      rw [padded, Nat.sub_eq_zero_of_le needed.le]
      exact head?_digits_ne_zero large
  · rintro ⟨run, rfl, wide, lead⟩
    obtain ⟨k, whole⟩ := exists_zeros run
    have long : t.length = k + (digits (digitsValue t)).length := by
      conv_lhs => rw [whole]
      simp
    have zeros : width - (digits (digitsValue t)).length = k := by
      rcases Nat.eq_zero_or_pos k with rfl | some
      · omega
      · have exactly : ¬width < t.length := by
          intro wider
          refine lead wider ?_
          rw [whole, List.head?_append_of_ne_nil _ (by simp; omega), List.head?_replicate,
            if_neg some.ne']
        omega
    rw [padded, zeros, ← whole]

theorem isDigits_padded (positive : 0 < width) : isDigits (padded width n) = true :=
  ((padded_eq_iff positive).mp rfl).1

theorem digitsValue_padded (positive : 0 < width) : digitsValue (padded width n) = n :=
  ((padded_eq_iff positive).mp rfl).2.1

/-- Numbers below a hundred are padded to two digits. -/
theorem length_padded_two (h : n < 100) : (padded 2 n).length = 2 := by
  have needed : (digits n).length ≤ 2 := by
    rw [digits]
    split
    · simp
    · rw [digits, if_pos (by omega)]
      simp
  rw [length_padded]
  omega

end Text

namespace PlaybackTime

open Livecast.Text

variable {t : String} {n v i j k : ℕ}

/-! ## The forms of clock texts -/

/-- Minutes or seconds: two digits of a number below sixty. -/
structure IsSixtieth (t : String) (n : ℕ) : Prop where
  /-- There are digits and nothing else. -/
  digits : isDigits t.toList = true
  /-- They denote the number. -/
  value : digitsValue t.toList = n
  /-- There are two of them. -/
  length : t.length = 2
  /-- The number is below sixty. -/
  below : n < 60

/-- Hours: at least two digits of a number above zero, and no zero in front of more than two. -/
structure IsHours (t : String) (n : ℕ) : Prop where
  /-- There are digits and nothing else. -/
  digits : isDigits t.toList = true
  /-- They denote the number. -/
  value : digitsValue t.toList = n
  /-- There are at least two of them. -/
  length : 2 ≤ t.length
  /-- More than two do not begin with a zero. -/
  lead : 2 < t.length → t.toList.head? ≠ some '0'
  /-- The number is above zero. -/
  positive : 0 < n

/-- A text has the form `MM:SS` and stands for a number of seconds. -/
def ShortForm (t : String) (v : ℕ) : Prop :=
  ∃ minutes seconds i j, t = minutes ++ ":" ++ seconds ∧
    IsSixtieth minutes i ∧ IsSixtieth seconds j ∧ v = i * 60 + j

/-- A text has the form `HH:MM:SS` and stands for a number of seconds. -/
def LongForm (t : String) (v : ℕ) : Prop :=
  ∃ hours minutes seconds k i j, t = hours ++ ":" ++ minutes ++ ":" ++ seconds ∧
    IsHours hours k ∧ IsSixtieth minutes i ∧ IsSixtieth seconds j ∧ v = k * 3600 + i * 60 + j

/-- Minutes and seconds are written with two digits. -/
theorem isSixtieth_iff : IsSixtieth t n ↔ n < 60 ∧ t = String.ofList (padded 2 n) := by
  constructor
  · rintro ⟨digits, value, two, below⟩
    have long : t.toList.length = 2 := String.length_toList.trans two
    refine ⟨below, String.toList_inj.mp ?_⟩
    rw [String.toList_ofList, (padded_eq_iff (by decide)).mpr
      ⟨digits, value, long.ge, fun wider => absurd long wider.ne'⟩]
  · rintro ⟨below, rfl⟩
    exact
      { digits := by rw [String.toList_ofList, isDigits_padded (by decide)]
        value := by rw [String.toList_ofList, digitsValue_padded (by decide)]
        length := by rw [String.length_ofList, length_padded_two (by omega)]
        below := below }

/-- Hours are written with two digits or as many as they need. -/
theorem isHours_iff : IsHours t n ↔ 0 < n ∧ t = String.ofList (padded 2 n) := by
  have written : padded 2 n = t.toList ↔ t = String.ofList (padded 2 n) := by
    rw [← String.toList_inj, String.toList_ofList, eq_comm]
  rw [← written, padded_eq_iff (by decide), String.length_toList]
  constructor
  · rintro ⟨digits, value, wide, lead, positive⟩
    exact ⟨positive, digits, value, wide, lead⟩
  · rintro ⟨positive, digits, value, wide, lead⟩
    exact ⟨digits, value, wide, lead, positive⟩

/-! ## Each number has one clock text -/

theorem chars_of_short (hi : i < 60) (hj : j < 60) :
    chars (i * 60 + j) = padded 2 i ++ ':' :: padded 2 j := by
  have hours : (i * 60 + j) / 3600 = 0 := by omega
  have minutes : (i * 60 + j) % 3600 / 60 = i := by omega
  have seconds : (i * 60 + j) % 60 = j := by omega
  simp only [chars, hours, minutes, seconds, Nat.lt_irrefl, if_false]

theorem chars_of_long (hk : 0 < k) (hi : i < 60) (hj : j < 60) :
    chars (k * 3600 + i * 60 + j) =
      padded 2 k ++ ':' :: (padded 2 i ++ ':' :: padded 2 j) := by
  have hours : (k * 3600 + i * 60 + j) / 3600 = k := by omega
  have minutes : (k * 3600 + i * 60 + j) % 3600 / 60 = i := by omega
  have seconds : (k * 3600 + i * 60 + j) % 60 = j := by omega
  simp only [chars, hours, minutes, seconds, hk, if_true]

/-- **The short form is the clock text below an hour.** -/
theorem shortForm_iff : ShortForm t v ↔ v < 3600 ∧ t = String.ofList (chars v) := by
  simp only [ShortForm, isSixtieth_iff]
  constructor
  · rintro ⟨_, _, i, j, rfl, ⟨hi, rfl⟩, ⟨hj, rfl⟩, rfl⟩
    refine ⟨by omega, ?_⟩
    rw [chars_of_short hi hj]
    simp [← String.toList_inj]
  · rintro ⟨below, rfl⟩
    obtain ⟨i, j, hi, hj, rfl⟩ : ∃ i j, i < 60 ∧ j < 60 ∧ v = i * 60 + j :=
      ⟨v / 60, v % 60, by omega, by omega, by omega⟩
    refine ⟨_, _, i, j, ?_, ⟨hi, rfl⟩, ⟨hj, rfl⟩, rfl⟩
    rw [chars_of_short hi hj]
    simp [← String.toList_inj]

/-- **The long form is the clock text from one hour up.** -/
theorem longForm_iff : LongForm t v ↔ 3600 ≤ v ∧ t = String.ofList (chars v) := by
  simp only [LongForm, isSixtieth_iff, isHours_iff]
  constructor
  · rintro ⟨_, _, _, k, i, j, rfl, ⟨hk, rfl⟩, ⟨hi, rfl⟩, ⟨hj, rfl⟩, rfl⟩
    refine ⟨by omega, ?_⟩
    rw [chars_of_long hk hi hj]
    simp [← String.toList_inj]
  · rintro ⟨above, rfl⟩
    obtain ⟨k, i, j, hk, hi, hj, rfl⟩ :
        ∃ k i j, 0 < k ∧ i < 60 ∧ j < 60 ∧ v = k * 3600 + i * 60 + j :=
      ⟨v / 3600, v % 3600 / 60, v % 60, by omega, by omega, by omega, by omega⟩
    refine ⟨_, _, _, k, i, j, ?_, ⟨hk, rfl⟩, ⟨hi, rfl⟩, ⟨hj, rfl⟩, rfl⟩
    rw [chars_of_long hk hi hj]
    simp [← String.toList_inj]

/-! ## Reading clock texts -/

theorem partValue_padded (h : n ≤ maxSeconds) : partValue (padded 2 n) = n := by
  have spelled : Spells (padded 2 n) n := by
    have plain := Spells.plain (show isDigits (padded 2 n) from isDigits_padded (by decide))
    rwa [digitsValue_padded (by decide)] at plain
  rw [partValue, spelled.trim_eq, readNat?_eq_some_iff.mpr ⟨spelled, h⟩, Option.getD_some]

/-- The parts of a clock text are its numbers. -/
theorem pieces_chars (v : ℕ) : pieces (· = ':') (trim (chars v)) =
    if 0 < v / 3600 then [padded 2 (v / 3600), padded 2 (v % 3600 / 60), padded 2 (v % 60)]
    else [padded 2 (v % 3600 / 60), padded 2 (v % 60)] := by
  have digit (n : ℕ) : ∀ c ∈ padded 2 n, c.isDigit = true :=
    (isDigits_iff.mp (isDigits_padded (by decide))).2
  have apart (n : ℕ) : ∀ c ∈ padded 2 n, decide (c = ':') = false :=
    fun c hc => not_separator (by decide) c (digit n c hc)
  have inked : ∀ c ∈ chars v, isBlank c = false := by
    intro c hc
    have member : c.isDigit = true ∨ c = ':' := by
      rw [chars] at hc
      split at hc <;> simp only [List.mem_append, List.mem_cons] at hc <;> grind
    rcases member with h | rfl
    · exact isBlank_of_isDigit h
    · decide
  rw [trim_eq_self (fun c hc => inked c (List.mem_of_mem_head? hc))
    fun c hc => inked c (List.mem_of_getLast? hc), chars]
  split
  · rw [pieces_append (by decide), pieces_append (by decide), pieces_of_none (apart _),
      pieces_of_none (apart _), pieces_of_none (apart _)]
    rfl
  · rw [pieces_append (by decide), pieces_of_none (apart _), pieces_of_none (apart _)]
    rfl

/-- The seconds of some numbers, in arithmetic where everything fits. -/
def seconds (numbers : List ℕ) : ℕ :=
  Id.run (inSeconds pure numbers)

theorem seconds_long (hours minutes rest : ℕ) (more : List ℕ) :
    seconds (hours :: minutes :: rest :: more) = hours * 3600 + minutes * 60 + rest := rfl

theorem seconds_short (minutes rest : ℕ) : seconds [minutes, rest] = minutes * 60 + rest := rfl

/-- **The clock text of a number of seconds is made of numbers with this sum.** -/
theorem seconds_parts_chars (h : v ≤ maxSeconds) : seconds (parts (chars v)) = v := by
  have fromHours := partValue_padded (n := v / 3600) (by omega)
  have fromMinutes := partValue_padded (n := v % 3600 / 60) (by omega)
  have rest := partValue_padded (n := v % 60) (by omega)
  rw [parts, pieces_chars]
  split_ifs with long
  · simp only [List.map_cons, fromHours, fromMinutes, rest, seconds_long]
    omega
  · simp only [List.map_cons, List.map_nil, fromMinutes, rest, seconds_short]
    omega

/-! ## Arithmetic on words -/

theorem checked?_of_le (h : n ≤ maxUnsigned) : checked? n = some n := if_pos h

theorem wrapped_of_le (h : n ≤ maxUnsigned) : wrapped n = n := Nat.mod_eq_of_lt (by omega)

theorem partValue_le (part : List Char) : partValue part ≤ maxUnsigned := by
  rw [partValue]
  cases read : readNat? maxSeconds (trim part) with
  | none => exact Nat.zero_le _
  | some n => exact (readNat?_eq_some_iff.mp read).2

/-- Each number in a text fits a word. -/
theorem le_of_mem_parts {chars : List Char} (h : n ∈ parts chars) : n ≤ maxUnsigned := by
  obtain ⟨part, -, rfl⟩ := List.mem_map.mp h
  exact partValue_le part

/-- A result that does not fit makes no larger one fit. -/
theorem checked?_bind (n : ℕ) {f : ℕ → ℕ} (grows : ∀ m, m ≤ f m) :
    ((checked? n).bind fun m => checked? (f m)) = checked? (f n) := by
  by_cases fits : n ≤ maxUnsigned
  · rw [checked?_of_le fits, Option.bind_some]
  · have larger := grows n
    rw [checked?, checked?, if_neg fits, if_neg (by omega), Option.bind_none]

/-- **Checked arithmetic gives the seconds of some numbers, unless they do not fit a word.** -/
theorem inSeconds_checked? {numbers : List ℕ} (fit : ∀ n ∈ numbers, n ≤ maxUnsigned) :
    inSeconds checked? numbers = checked? (seconds numbers) := by
  match numbers with
  | [] => rfl
  | [n] => exact (checked?_of_le (fit n (by simp))).symm
  | [minutes, rest] => exact checked?_bind _ fun m => Nat.le_add_right m _
  | hours :: minutes :: rest :: _ =>
      have total (h m s : ℕ) : ((checked? (h + m)).bind fun sum => checked? (sum + s)) =
          checked? (h + m + s) := checked?_bind _ fun sum => Nat.le_add_right sum s
      have sum (h m s : ℕ) :
          ((checked? m).bind fun m => checked? (h + m + s)) = checked? (h + m + s) :=
        checked?_bind m fun m => by omega
      simp only [inSeconds, seconds_long, Option.bind_eq_bind, total, sum]
      exact checked?_bind _ fun h => by omega

/-- **Wrapping arithmetic gives the seconds of some numbers but for whole words.** -/
theorem inSeconds_wrapped {numbers : List ℕ} (fit : ∀ n ∈ numbers, n ≤ maxUnsigned) :
    Id.run (inSeconds (fun n => pure (wrapped n)) numbers) = wrapped (seconds numbers) := by
  match numbers with
  | [] => rfl
  | [n] => exact (wrapped_of_le (fit n (by simp))).symm
  | [minutes, rest] => exact Nat.mod_add_mod _ _ _
  | hours :: minutes :: rest :: _ =>
      change wrapped (wrapped (wrapped (hours * 3600) + wrapped (minutes * 60)) + rest) = _
      simp only [seconds_long, wrapped, Nat.mod_add_mod, Nat.add_mod_mod]

/-- The largest word is too large for a number of hours. -/
example : inSeconds checked? [maxUnsigned, 0, 0] = none ∧
    Id.run (inSeconds (fun n => pure (wrapped n)) [maxUnsigned, 0, 0]) = maxUnsigned - 3599 := by
  decide

theorem parse?_eq (s : String) : parse? s = checked? (seconds (parts s.toList)) :=
  inSeconds_checked? fun _ => le_of_mem_parts

theorem parse_eq (s : String) : parse s = wrapped (seconds (parts s.toList)) :=
  inSeconds_wrapped fun _ => le_of_mem_parts

/-- **What is read with checks is read without them.** -/
theorem parse_of_parse? {s : String} (h : parse? s = some v) : parse s = v := by
  rw [parse?_eq, checked?, Option.ite_none_right_eq_some, Option.some_inj] at h
  obtain ⟨fits, rfl⟩ := h
  rw [parse_eq, wrapped_of_le fits]

/-! ## Both ways -/

/-- What is shown of a finite double that is not below zero. -/
theorem wholeSeconds_eq {x : Float} {v : ℚ} (h : value? x = some v) :
    wholeSeconds x = min ⌊v⌋₊ maxUnsigned := by
  rw [wholeSeconds, floorOfBits_eq h, maxSeconds]

/-- A clock text is the one that its number of seconds is shown as. -/
theorem render_eq_of_form {x : Float} (form : ShortForm t v ∨ LongForm t v)
    (small : v ≤ maxUnsigned) (value : value? x = some (v : ℚ)) : render x = t := by
  have shown : wholeSeconds x = v := by
    rw [wholeSeconds_eq value, Nat.floor_natCast, min_eq_left small]
  rcases form with form | form
  · rw [render, shown, (shortForm_iff.mp form).2]
  · rw [render, shown, (longForm_iff.mp form).2]

/-- What is shown of a number of seconds is read as this number. -/
theorem parse?_chars (small : v ≤ maxUnsigned) : parse? (String.ofList (chars v)) = some v := by
  rw [parse?_eq, String.toList_ofList, seconds_parts_chars small, checked?_of_le small]

/-- A clock text is read as its number of seconds. -/
theorem parse?_eq_of_form (form : ShortForm t v ∨ LongForm t v) (small : v ≤ maxUnsigned) :
    parse? t = some v := by
  have written : t = String.ofList (chars v) := by
    rcases form with form | form
    · exact (shortForm_iff.mp form).2
    · exact (longForm_iff.mp form).2
  rw [written, parse?_chars small]

/-- **Showing and reading undo each other.**  A finite double above zero stands for a number, of
which the whole seconds up to the largest word are shown: with minutes and seconds below an hour,
and with hours from there on.  They are what is read from the text that is shown, and nothing is
too large on the way.  Conversely a clock text, whose seconds are found among the doubles unless
there are more than `2 ^ 53`, is what is shown of the double for the seconds that are read from
it. -/
theorem clock_round_trip :
    (∀ x : Float, x.isFinite = true → 0 < x → ∃ v : ℚ, value? x = some v ∧ 0 < v ∧
      parse (render x) = min ⌊v⌋₊ maxUnsigned ∧
      parse? (render x) = some (min ⌊v⌋₊ maxUnsigned) ∧
      (min ⌊v⌋₊ maxUnsigned < 3600 → ShortForm (render x) (min ⌊v⌋₊ maxUnsigned)) ∧
      (3600 ≤ min ⌊v⌋₊ maxUnsigned → LongForm (render x) (min ⌊v⌋₊ maxUnsigned))) ∧
    ∀ (t : String) (v : ℕ), ShortForm t v ∨ LongForm t v → v ≤ 2 ^ 53 →
      parse t = v ∧ parse? t = some v ∧ value? (UInt64.ofNat (parse t)).toFloat = some (v : ℚ) ∧
        render (UInt64.ofNat (parse t)).toFloat = t ∧
        ∀ x : Float, value? x = some (v : ℚ) → render x = t := by
  constructor
  · intro x finite positive
    obtain ⟨v, value, above⟩ := (isFinite_and_pos_iff x).mp ⟨finite, positive⟩
    have shown : render x = String.ofList (chars (min ⌊v⌋₊ maxUnsigned)) := by
      rw [render, wholeSeconds_eq value]
    have small : min ⌊v⌋₊ maxUnsigned ≤ maxUnsigned := min_le_right _ _
    have read : parse? (render x) = some (min ⌊v⌋₊ maxUnsigned) := by
      rw [shown, parse?_chars small]
    exact ⟨v, value, above, parse_of_parse? read, read,
      fun below => shortForm_iff.mpr ⟨below, shown⟩, fun above => longForm_iff.mpr ⟨above, shown⟩⟩
  · intro t v form small
    have fits : v ≤ maxUnsigned := small.trans (by decide)
    have read := parse?_eq_of_form form fits
    have exactly := value?_toFloat small
    rw [parse_of_parse? read]
    exact ⟨rfl, read, exactly, render_eq_of_form form fits exactly,
      fun x value => render_eq_of_form form fits value⟩

/-- The last second of an hour is shown without hours, and the next one with them. -/
example : chars 3599 = "59:59".toList ∧ chars 3600 = "01:00:00".toList := by
  simp [chars, padded, digits, digitChar]

end PlaybackTime

end Livecast
