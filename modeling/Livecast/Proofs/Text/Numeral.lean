import Livecast.Proofs.Text.Cutting
import Livecast.Proofs.Text.Written

/-!
# The texts that are read as a number

A positive word is spelled with digits, as many as one likes, and perhaps a plus sign in front of
them; blanks may stand around it.  The readers accept these spellings and no others, however many
zeros a spelling begins with, and each spelling has one value.

## Main Definitions

* `Spells` - a text is a number, with or without a plus sign
* `SpellsWithin` - the same with blanks around it
* `Positive.InRange` - the numbers of positive words

## Main Statements

* `readNat?_eq_some_iff` - the texts that are read as a natural number
* `readNat?_digits_eq_none` - the digits of a number beyond the bound are not
* `Positive.bind_readInt?_eq_some_iff`, `Positive.bind_readInt?_trim_eq_some_iff` - the texts that
  are read as a positive word
-/

namespace Livecast

namespace Text

/-- A text spells a number: it is a run of digits, or a plus sign and a run of digits. -/
inductive Spells : List Char → Nat → Prop
  | plain {run : List Char} (digits : isDigits run = true) : Spells run (digitsValue run)
  | plus {run : List Char} (digits : isDigits run = true) : Spells ('+' :: run) (digitsValue run)

/-- A text spells a number with blanks around it. -/
def SpellsWithin (t : List Char) (n : Nat) : Prop :=
  ∃ front word back, t = front ++ word ++ back ∧ Spells word n ∧
    (∀ c ∈ front, isBlank c = true) ∧ ∀ c ∈ back, isBlank c = true

variable {t : List Char} {n bound : Nat}

theorem isDigits_iff : isDigits t = true ↔ t ≠ [] ∧ ∀ c ∈ t, c.isDigit = true := by
  rw [isDigits, Bool.and_eq_true, List.all_eq_true, Bool.not_eq_true', ← Bool.not_eq_true,
    List.isEmpty_iff]

/-- No number but zero is written with a zero in front. -/
theorem head?_digits_ne_zero (h : n ≠ 0) : (digits n).head? ≠ some '0' := by
  induction n using Nat.strongRecOn with
  | _ n ih =>
    unfold digits
    split
    · next small =>
        intro same
        have value := digitChar_toNat small
        rw [Option.some.inj (List.head?_singleton.symm.trans same)] at value
        have zero : '0'.toNat = 48 := rfl
        omega
    · next large =>
        rw [List.head?_append, Option.or_of_isSome (by simp [digits_ne_nil])]
        exact ih (n / 10) (by omega) (by omega)

/-- What a spelling is made of. -/
theorem Spells.forall_mem {q : Char → Prop} (h : Spells t n) (hplus : q '+')
    (hdigit : ∀ c, c.isDigit = true → q c) : ∀ c ∈ t, q c := by
  cases h with
  | plain digits => exact fun c hc => hdigit c ((isDigits_iff.mp digits).2 c hc)
  | plus digits =>
      exact List.forall_mem_cons.mpr ⟨hplus, fun c hc => hdigit c ((isDigits_iff.mp digits).2 c hc)⟩

theorem SpellsWithin.forall_mem {q : Char → Prop} (h : SpellsWithin t n) (hplus : q '+')
    (hdigit : ∀ c, c.isDigit = true → q c) (hblank : ∀ c, isBlank c = true → q c) :
    ∀ c ∈ t, q c := by
  obtain ⟨front, word, back, rfl, spelled, blank, blank'⟩ := h
  intro c hc
  rcases List.mem_append.mp hc with hc | hc
  · rcases List.mem_append.mp hc with hc | hc
    · exact hblank c (blank c hc)
    · exact spelled.forall_mem hplus hdigit c hc
  · exact hblank c (blank' c hc)

/-- No character of a spelling is blank. -/
theorem Spells.not_blank (h : Spells t n) : ∀ c ∈ t, isBlank c = false :=
  h.forall_mem (by decide) fun _ hc => isBlank_of_isDigit hc

/-- A spelling needs no trimming. -/
theorem Spells.trim_eq (h : Spells t n) : trim t = t :=
  trim_eq_self (fun c hc => h.not_blank c (List.mem_of_mem_head? hc))
    fun c hc => h.not_blank c (List.mem_of_getLast? hc)

/-- **Blanks around a spelling are those that trimming takes off.** -/
theorem spellsWithin_iff : SpellsWithin t n ↔ Spells (trim t) n := by
  constructor
  · rintro ⟨front, word, back, rfl, spelled, blank, blank'⟩
    rw [trim_blanks blank word blank', spelled.trim_eq]
    exact spelled
  · intro spelled
    obtain ⟨front, back, whole, blank, blank'⟩ := exists_trim t
    exact ⟨front, trim t, back, whole, spelled, blank, blank'⟩

/-- **The texts that are read as a natural number** are its spellings, if it is within the bound. -/
theorem readNat?_eq_some_iff : readNat? bound t = some n ↔ Spells t n ∧ n ≤ bound := by
  have accepted (run : List Char) :
      (if isDigits run && digitsValue run ≤ bound then some (digitsValue run) else none) = some n ↔
        isDigits run = true ∧ digitsValue run = n ∧ n ≤ bound := by
    rw [Option.ite_none_right_eq_some, Bool.and_eq_true, decide_eq_true_iff, Option.some.injEq]
    constructor
    · rintro ⟨⟨digits, within⟩, rfl⟩
      exact ⟨digits, rfl, within⟩
    · rintro ⟨digits, rfl, within⟩
      exact ⟨⟨digits, within⟩, rfl⟩
  -- the sign is taken off first, so what is left must be digits: a second sign is none
  by_cases signed : ∃ run, t = '+' :: run
  · obtain ⟨run, rfl⟩ := signed
    have read : readNat? bound ('+' :: run) =
        if isDigits run && digitsValue run ≤ bound then some (digitsValue run) else none := rfl
    rw [read, accepted]
    constructor
    · rintro ⟨digits, rfl, within⟩
      exact ⟨.plus digits, within⟩
    · rintro ⟨spelled, within⟩
      cases spelled with
      | plain digits =>
          have sign := (isDigits_iff.mp digits).2 '+' (by simp)
          exact absurd sign (by decide)
      | plus digits => exact ⟨digits, rfl, within⟩
  · have read : readNat? bound t =
        if isDigits t && digitsValue t ≤ bound then some (digitsValue t) else none := by
      rw [readNat?]
      exact fun run same => signed ⟨run, same⟩
    rw [read, accepted]
    constructor
    · rintro ⟨digits, rfl, within⟩
      exact ⟨.plain digits, within⟩
    · rintro ⟨spelled, within⟩
      cases spelled with
      | plain digits => exact ⟨digits, rfl, within⟩
      | plus digits => exact absurd ⟨_, rfl⟩ signed

/-- The digits of a number that is too large are not read. -/
theorem readNat?_digits_eq_none (h : bound < n) : readNat? bound (digits n) = none := by
  rw [Option.eq_none_iff_forall_ne_some]
  intro m read
  obtain ⟨spelled, within⟩ := readNat?_eq_some_iff.mp read
  generalize written : digits n = word at spelled
  cases spelled with
  | plain =>
      rw [← written, digitsValue_digits] at within
      omega
  | plus => exact digits_head_ne (by decide) written

end Text

namespace Positive

open Livecast.Text

/-- The numbers of positive words. -/
def InRange (n : Nat) : Prop := 1 ≤ n ∧ n ≤ 4294967295

theorem inRange_toNat (p : Positive) : InRange p.toNat :=
  ⟨p.toNat_pos, Nat.le_of_lt_succ p.val.toNat_lt⟩

/-- A word is in the range unless it is zero. -/
theorem inRange_word_iff (w : UInt32) : InRange w.toNat ↔ w ≠ 0 := by
  constructor
  · rintro ⟨positive, -⟩ rfl
    exact absurd positive (by decide)
  · exact fun hw => inRange_toNat ⟨w, hw⟩

/-- A word is read as a positive word exactly if it is its value. -/
theorem ofWord?_eq_some_iff {w : UInt32} {p : Positive} : ofWord? w = some p ↔ w = p.val := by
  constructor
  · intro found
    rw [ofWord?] at found
    split at found
    · cases found
    · obtain rfl := Option.some.inj found
      rfl
  · rintro rfl
    exact dif_neg p.ne_zero

/-- An integer is read as a positive word exactly if it is its number. -/
theorem ofInt?_eq_some_iff {i : Int} {p : Positive} : ofInt? i = some p ↔ i = p.toNat := by
  constructor
  · intro found
    rw [ofInt?] at found
    split at found
    · next bounds =>
        have small : i.toNat < 2 ^ 32 := by omega
        have value : i.toNat = p.toNat := by
          rw [toNat, ← ofWord?_eq_some_iff.mp found, UInt32.toNat_ofNat_of_lt' small]
        omega
    · cases found
  · rintro rfl
    exact p.ofInt?_toNat

/-- Every number in the range is that of a positive word. -/
theorem exists_toNat {n : Nat} (h : InRange n) : ∃ p : Positive, p.toNat = n := by
  have word : (UInt32.ofNat n).toNat = n := UInt32.toNat_ofNat_of_lt' (Nat.lt_succ_of_le h.2)
  refine ⟨⟨UInt32.ofNat n, ?_⟩, word⟩
  intro zero
  rw [zero] at word
  have positive := h.1
  simp at word
  omega

/-- **The texts that are read as a positive word** are the spellings of its number. -/
theorem bind_readInt?_eq_some_iff {t : List Char} {p : Positive} :
    (readInt? t).bind ofInt? = some p ↔ Spells t p.toNat := by
  have room := toNat_le_maxSigned p.val
  rw [Option.bind_eq_some_iff]
  simp only [ofInt?_eq_some_iff, exists_eq_right]
  -- behind a minus sign no value is positive, and a text without one is read as a natural number
  by_cases signed : ∃ run, t = '-' :: run
  · obtain ⟨run, rfl⟩ := signed
    constructor
    · intro read
      have positive := p.toNat_pos
      rw [readInt?, Option.ite_none_right_eq_some] at read
      have value := Option.some.inj read.2
      omega
    · intro spelled
      have sign := spelled.forall_mem (q := (· ≠ '-')) (by decide)
        (fun _ hc => ne_of_isDigit hc (by decide)) '-' (by simp)
      exact absurd rfl sign
  · have unsigned : readInt? t = (readNat? maxSigned t).map Int.ofNat := by
      rw [readInt?]
      exact fun run same => signed ⟨run, same⟩
    have natural : (readNat? maxSigned t).map Int.ofNat = some (p.toNat : Int) ↔
        readNat? maxSigned t = some p.toNat := by
      rw [Option.map_eq_some_iff]
      constructor
      · rintro ⟨n, read, same⟩
        rw [read, Int.ofNat.inj same]
      · exact fun read => ⟨_, read, rfl⟩
    rw [unsigned, natural, readNat?_eq_some_iff]
    exact and_iff_left room

/-- The same with blanks around the spelling. -/
theorem bind_readInt?_trim_eq_some_iff {t : List Char} {p : Positive} :
    (readInt? (trim t)).bind ofInt? = some p ↔ SpellsWithin t p.toNat := by
  rw [bind_readInt?_eq_some_iff, spellsWithin_iff]

end Positive

end Livecast
