import Livecast.Proofs.Text.Numeral

/-!
# The texts that are read as an integer

An integer is spelled like a number, or with a minus sign and digits.  A text that goes on behind
its digits still begins with an integer, namely the one that all digits at its start belong to.

## Main Definitions

* `SpellsInteger` - a text is an integer
* `FitsSigned` - the integers that are read
* `BeginsWith` - a text is an integer, with blanks in front of it and whatever behind it

## Main Statements

* `readInt?_eq_some_iff` - the texts that are read as an integer
* `exists_signedRun`, `signedRun_append` - the integer at the start of a text is the longest run
-/

namespace Livecast.Text

/-- A text spells an integer: it spells a number, or it is a minus sign and a run of digits. -/
inductive SpellsInteger : List Char → Int → Prop
  | number {word : List Char} {n : Nat} (spelled : Spells word n) : SpellsInteger word n
  | minus {run : List Char} (digits : isDigits run = true) :
      SpellsInteger ('-' :: run) (-(digitsValue run : Int))

/-- The integers that fit a signed word of 64 bits. -/
def FitsSigned (i : Int) : Prop := -9223372036854775808 ≤ i ∧ i ≤ 9223372036854775807

/-- A text begins with an integer: blanks may stand in front of it, and its digits go on for as long
as there are any. -/
def BeginsWith (t : List Char) (i : Int) : Prop :=
  ∃ front word rest, t = front ++ (word ++ rest) ∧ SpellsInteger word i ∧
    (∀ c ∈ front, isBlank c = true) ∧ ∀ c, rest.head? = some c → c.isDigit = false

variable {t : List Char} {i : Int}

/-- A text that does not begin with a minus sign is read as a number. -/
theorem readInt?_of_unsigned (unsigned : ∀ run, t ≠ '-' :: run) :
    readInt? t = (readNat? maxSigned t).map Int.ofNat := by
  rw [readInt?]
  exact unsigned

/-- A spelling of a number does not begin with a minus sign. -/
theorem Spells.unsigned {n : Nat} (h : Spells t n) : ∀ run, t ≠ '-' :: run := by
  rintro run rfl
  have sign := h.forall_mem (q := (· ≠ '-')) (by decide)
    (fun _ hc => ne_of_isDigit hc (by decide)) '-' (by simp)
  exact sign rfl

/-- **The texts that are read as an integer** are its spellings, if it fits a signed word. -/
theorem readInt?_eq_some_iff : readInt? t = some i ↔ SpellsInteger t i ∧ FitsSigned i := by
  by_cases signed : ∃ run, t = '-' :: run
  · obtain ⟨run, rfl⟩ := signed
    rw [readInt?, Option.ite_none_right_eq_some, Bool.and_eq_true, decide_eq_true_iff,
      Option.some.injEq]
    constructor
    · rintro ⟨⟨digits, within⟩, rfl⟩
      exact ⟨.minus digits, by simp only [FitsSigned, maxSigned] at *; omega⟩
    · rintro ⟨spelled, within⟩
      cases spelled with
      | number spelled => exact absurd rfl (spelled.unsigned run)
      | minus digits =>
          exact ⟨⟨digits, by simp only [FitsSigned, maxSigned] at *; omega⟩, rfl⟩
  · have unsigned : ∀ run, t ≠ '-' :: run := fun run same => signed ⟨run, same⟩
    rw [readInt?_of_unsigned unsigned, Option.map_eq_some_iff]
    constructor
    · rintro ⟨n, read, rfl⟩
      obtain ⟨spelled, within⟩ := readNat?_eq_some_iff.mp read
      exact ⟨.number spelled, by
        simp only [FitsSigned, maxSigned, Int.ofNat_eq_natCast] at *; omega⟩
    · rintro ⟨spelled, within⟩
      cases spelled with
      | @number _ n spelled =>
          refine ⟨n, readNat?_eq_some_iff.mpr ⟨spelled, ?_⟩, rfl⟩
          simp only [FitsSigned, maxSigned] at *
          omega
      | minus => exact absurd rfl (unsigned _)

/-- The sign at the start of a text, if there is one, and the run of digits there. -/
def signedRun : List Char → List Char
  | '-' :: r => '-' :: r.takeWhile Char.isDigit
  | '+' :: r => '+' :: r.takeWhile Char.isDigit
  | r => r.takeWhile Char.isDigit

/-- The run goes on for as long as there are digits. -/
theorem exists_signedRun (t : List Char) :
    ∃ rest, t = signedRun t ++ rest ∧ ∀ c, rest.head? = some c → c.isDigit = false := by
  have stops (r : List Char) (c : Char) (h : (r.dropWhile Char.isDigit).head? = some c) :
      c.isDigit = false := by
    have passed := List.head?_dropWhile_not Char.isDigit r
    rw [h] at passed
    simpa using passed
  unfold signedRun
  split
  · next r => exact ⟨r.dropWhile Char.isDigit, by simp, stops r⟩
  · next r => exact ⟨r.dropWhile Char.isDigit, by simp, stops r⟩
  · exact ⟨t.dropWhile Char.isDigit, by simp, stops t⟩

/-- A spelling in front of something else than a digit is what the run is. -/
theorem signedRun_append (h : SpellsInteger t i) {rest : List Char}
    (stop : ∀ c, rest.head? = some c → c.isDigit = false) : signedRun (t ++ rest) = t := by
  have run {r : List Char} (digits : isDigits r = true) :
      (r ++ rest).takeWhile Char.isDigit = r :=
    (split_run (isDigits_iff.mp digits).2 stop).1
  cases h with
  | minus digits => rw [List.cons_append, signedRun, run digits]
  | number spelled =>
      cases spelled with
      | plus digits => rw [List.cons_append, signedRun, run digits]
      | plain digits =>
          have first (c : Char) (r : List Char) (sign : c.isDigit = false) :
              t ++ rest ≠ c :: r := by
            intro same
            obtain ⟨nonempty, each⟩ := isDigits_iff.mp digits
            obtain ⟨d, more, rfl⟩ := List.exists_cons_of_ne_nil nonempty
            obtain rfl : d = c := (List.cons.inj same).1
            have digit := each d (by simp)
            rw [sign] at digit
            contradiction
          rw [signedRun]
          · exact run digits
          · exact fun r => first '-' r (by decide)
          · exact fun r => first '+' r (by decide)

/-- A spelling of an integer begins with something that is not blank. -/
theorem SpellsInteger.trimStart_append (h : SpellsInteger t i) (rest : List Char) :
    trimStart (t ++ rest) = t ++ rest := by
  apply trimStart_eq_self
  intro c first
  cases h with
  | minus =>
      obtain rfl : '-' = c := by simpa using first
      decide
  | number spelled =>
      have nonempty : t ≠ [] := by
        cases spelled with
        | plus => exact List.cons_ne_nil _ _
        | plain digits => exact (isDigits_iff.mp digits).1
      rw [List.head?_append, Option.or_of_isSome (by simpa using nonempty)] at first
      exact spelled.not_blank c (List.mem_of_mem_head? first)

end Livecast.Text
