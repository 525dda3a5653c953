import Livecast.Positive
import Livecast.Text.Blank
import Livecast.Text.Cut
import Livecast.Text.Decimal

/-!
# Reading what was written between separators

A written list is cut again into what was written, as long as no part holds a separator.  Most parts
of the library's texts are numbers, and a digit is neither a separator nor a blank.

## Main Statements

* `pieces_intercalate` - the pieces of a list are its parts
* `digits_all`, `trim_between` - what holds of digits holds of a written number, and a text that
  begins and ends with a number needs no trimming
* `Positive.bind_readInt?_digits` - a written word is read as this word
-/

namespace Livecast.Text

/-! ## Parts -/

/-- **The pieces of a list are its parts**, if there is one and none of them holds a separator. -/
theorem pieces_intercalate {p : Char → Bool} {c : Char} (hc : p c = true)
    {parts : List (List Char)} (hne : parts ≠ []) (h : ∀ part ∈ parts, ∀ x ∈ part, p x = false) :
    pieces p (List.intercalate [c] parts) = parts := by
  induction parts with
  | nil => exact absurd rfl hne
  | cons part rest ih =>
      have first : pieces p part = [part] := pieces_of_none (h part (by simp))
      cases rest with
      | nil =>
          rw [List.intercalate_singleton]
          exact first
      | cons next more =>
          have later := ih (by simp) fun part hpart => h part (List.mem_cons_of_mem _ hpart)
          rw [List.intercalate_cons_cons, List.append_assoc, List.singleton_append,
            pieces_append hc, first, later, List.singleton_append]

/-! ## Digits -/

theorem isBlank_of_isDigit {c : Char} (h : c.isDigit = true) : isBlank c = false := by
  rw [Char.isDigit_iff_toNat] at h
  have low : 48 ≤ c.toNat := h.1
  have high : c.toNat ≤ 57 := h.2
  simp only [isBlank, blankRanges, List.any_cons, List.any_nil, Bool.or_false, Bool.or_eq_false_iff,
    Bool.and_eq_false_iff, decide_eq_false_iff_not]
  omega

theorem ne_of_isDigit {c d : Char} (h : c.isDigit = true) (hd : d.isDigit = false) : c ≠ d := by
  rintro rfl
  rw [h] at hd
  contradiction

/-- A digit is no separator. -/
theorem not_separator {d : Char} (hd : d.isDigit = false) (c : Char) (h : c.isDigit = true) :
    decide (c = d) = false :=
  decide_eq_false (ne_of_isDigit h hd)

/-- What holds of all digits holds of the characters of a written number. -/
theorem digits_all {q : Char → Prop} (hq : ∀ c, c.isDigit = true → q c) (n : Nat) :
    ∀ c ∈ digits n, q c :=
  fun c hc => hq c (List.all_eq_true.mp (digits_all_isDigit n) c hc)

/-- **A text that begins and ends with a number needs no trimming.** -/
theorem trim_between {t front back : List Char} {m n : Nat} (first : t = digits m ++ back)
    (last : t = front ++ digits n) : trim t = t := by
  apply trim_eq_self
  · intro c hc
    rw [first, List.head?_append, Option.or_of_isSome (by simp [digits_ne_nil])] at hc
    exact digits_all (fun _ h => isBlank_of_isDigit h) m c (List.mem_of_mem_head? hc)
  · intro c hc
    rw [last, List.getLast?_append, Option.or_of_isSome (by simp [digits_ne_nil])] at hc
    exact digits_all (fun _ h => isBlank_of_isDigit h) n c (List.mem_of_getLast? hc)

theorem trim_digits (n : Nat) : trim (digits n) = digits n :=
  trim_between (List.append_nil _).symm (List.nil_append _).symm

/-- Digits have no other case. -/
theorem map_toLower_digits (n : Nat) : (digits n).map Char.toLower = digits n := by
  have alone : ∀ c ∈ digits n, c.toLower = id c := by
    refine digits_all (fun c h => ?_) n
    rw [Char.isDigit_iff_toNat] at h
    have high : c.val.toNat ≤ 57 := h.2
    refine dif_neg fun upper => ?_
    have low : 65 ≤ c.val.toNat := UInt32.le_iff_toNat_le.mp upper.1
    omega
  rw [List.map_congr_left alone, List.map_id]

end Livecast.Text

/-! ## Positive words -/

namespace Livecast.Positive

open Livecast.Text

/-- A word other than zero is found again from its number. -/
theorem ofInt?_word (w : UInt32) : ofInt? (w.toNat : Int) = ofWord? w := by
  by_cases zero : w = 0
  · subst zero
    rfl
  · have found := ofInt?_toNat ⟨w, zero⟩
    rw [ofWord?, dif_neg zero]
    exact found

/-- A word of 32 bits fits a signed word of 64 bits. -/
theorem toNat_le_maxSigned (w : UInt32) : w.toNat ≤ maxSigned := by
  have bound := w.toNat_lt
  have room : (2 ^ 32 : Nat) ≤ maxSigned := by decide
  omega

/-- A written word is read as this word. -/
theorem bind_readInt?_digits (p : Positive) : (readInt? (digits p.toNat)).bind ofInt? = some p := by
  have number := readInt?_digits (toNat_le_maxSigned p.val)
  rw [toNat, number, Option.bind_some]
  exact p.ofInt?_toNat

end Livecast.Positive
