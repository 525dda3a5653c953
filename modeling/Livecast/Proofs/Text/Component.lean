import Livecast.Endpoint
import Livecast.Proofs.Text.Utf8

/-!
# Encoded components are read back

An encoded component holds nothing but the characters that stand for themselves and the percent
signs in front of bytes.  A percent sign is always followed by the two digits of its byte, so the
bytes of the text are found one after the other, and with them the text.

## Main Definitions

* `component?` - the text that an encoded component stands for

## Main Statements

* `percentDecode?_percentEncode` - an encoded text stands for its UTF-8 form
* `component?_percentEncode` - and so for itself
* `percentEncode_not_special` - no encoded component holds a character that means something in an
  address
-/

namespace Livecast.Text

/-! ## Bytes -/

theorem upperHexValue?_upperHexDigit {d : Nat} (h : d < 16) :
    upperHexValue? (upperHexDigit d) = some d := by
  have each : ∀ d : Fin 16, upperHexValue? (upperHexDigit d) = some d.val := by decide
  exact each ⟨d, h⟩

/-- A byte is read from its percent sign and its digits, whatever follows them. -/
theorem percentDecode?_percentByte (b : UInt8) (rest : List Char) :
    percentDecode? (percentByte b ++ rest) = (percentDecode? rest).map (b :: ·) := by
  have bound : b.toNat < 256 := b.toNat_lt
  have high := upperHexValue?_upperHexDigit (show b.toNat / 16 < 16 by omega)
  have low := upperHexValue?_upperHexDigit (show b.toNat % 16 < 16 by omega)
  have whole : UInt8.ofNat (16 * (b.toNat / 16) + b.toNat % 16) = b := by
    rw [Nat.div_add_mod, UInt8.ofNat_toNat]
  simp only [percentByte, List.cons_append, List.nil_append, percentDecode?, high, low,
    Option.bind_eq_bind, Option.bind_some, whole]
  cases percentDecode? rest <;> rfl

theorem percentDecode?_percentBytes (bytes : List UInt8) (rest : List Char) :
    percentDecode? (bytes.flatMap percentByte ++ rest) =
      (percentDecode? rest).map (bytes ++ ·) := by
  induction bytes with
  | nil => simp
  | cons b more ih =>
      rw [List.flatMap_cons, List.append_assoc, percentDecode?_percentByte, ih, Option.map_map]
      rfl

/-! ## Characters that stand for themselves -/

/-- A letter, a digit or a mark is a character of ASCII. -/
theorem lt_of_isUnreserved {c : Char} (h : isUnreserved c = true) : c.toNat < 128 := by
  rw [isUnreserved, Bool.or_eq_true] at h
  rcases h with alphanumeric | mark
  · have bound (high : Char) (below : c.val ≤ high.val) : c.toNat ≤ high.toNat :=
      UInt32.le_iff_toNat_le.mp below
    rcases (Bool.or_eq_true _ _).mp alphanumeric with letter | digit
    · rcases (Bool.or_eq_true _ _).mp letter with upper | lower
      · exact Nat.lt_of_le_of_lt (bound 'Z' (of_decide_eq_true upper).2) (by decide)
      · have below := of_decide_eq_true ((Bool.and_eq_true _ _).mp lower).2
        exact Nat.lt_of_le_of_lt (bound 'z' below) (by decide)
    · have below := of_decide_eq_true ((Bool.and_eq_true _ _).mp digit).2
      exact Nat.lt_of_le_of_lt (bound '9' below) (by decide)
  · have each : ['-', '_', '.', '!', '~', '*', '\x27', '(', ')'].all (·.toNat < 128) = true := by
      decide
    exact of_decide_eq_true (List.all_eq_true.mp each c (by simpa using mark))

/-- Its UTF-8 form is its code point. -/
theorem utf8EncodeChar_of_isUnreserved {c : Char} (h : isUnreserved c = true) :
    String.utf8EncodeChar c = [UInt8.ofNat c.toNat] := by
  have bound : c.val.toNat ≤ 127 := Nat.lt_succ_iff.mp (lt_of_isUnreserved h)
  rw [String.utf8EncodeChar]
  exact if_pos bound

theorem percentDecode?_unreserved {c : Char} (h : isUnreserved c = true) (rest : List Char) :
    percentDecode? (c :: rest) = (percentDecode? rest).map (UInt8.ofNat c.toNat :: ·) := by
  have other : c ≠ '%' := by
    rintro rfl
    exact absurd h (by decide)
  rw [percentDecode?]
  · rw [if_pos h]
  · intro a b r same
    exact absurd same other

/-! ## Components -/

theorem percentDecode?_percentChar (c : Char) (rest : List Char) :
    percentDecode? (percentChar c ++ rest) =
      (percentDecode? rest).map (String.utf8EncodeChar c ++ ·) := by
  by_cases kept : isUnreserved c = true
  · rw [percentChar, if_pos kept, List.singleton_append, percentDecode?_unreserved kept,
      utf8EncodeChar_of_isUnreserved kept]
    rfl
  · rw [percentChar, if_neg kept, percentDecode?_percentBytes]

/-- **An encoded text stands for its UTF-8 form.** -/
theorem percentDecode?_percentEncode (t : List Char) :
    percentDecode? (percentEncode t) = some (t.flatMap String.utf8EncodeChar) := by
  induction t with
  | nil => rfl
  | cons c rest ih =>
      rw [percentEncode, List.flatMap_cons, percentDecode?_percentChar, ← percentEncode, ih]
      rfl

theorem isUnreserved_upperHexDigit {d : Nat} (h : d < 16) :
    isUnreserved (upperHexDigit d) = true := by
  have each : ∀ d : Fin 16, isUnreserved (upperHexDigit d) = true := by decide
  exact each ⟨d, h⟩

/-- **An encoded text holds percent signs and characters that stand for themselves.** -/
theorem mem_percentEncode {t : List Char} {c : Char} (h : c ∈ percentEncode t) :
    c = '%' ∨ isUnreserved c = true := by
  obtain ⟨d, -, written⟩ := List.mem_flatMap.mp h
  rw [percentChar] at written
  split at written
  · next kept =>
      rw [List.mem_singleton.mp written]
      exact .inr kept
  · obtain ⟨b, -, digit⟩ := List.mem_flatMap.mp written
    have bound : b.toNat < 256 := b.toNat_lt
    simp only [percentByte, List.mem_cons, List.not_mem_nil, or_false] at digit
    rcases digit with rfl | rfl | rfl
    · exact .inl rfl
    · exact .inr (isUnreserved_upperHexDigit (by omega))
    · exact .inr (isUnreserved_upperHexDigit (by omega))

/-- Every character is written to something. -/
theorem percentChar_ne_nil (c : Char) : percentChar c ≠ [] := by
  rw [percentChar]
  split
  · simp
  · obtain ⟨b, hb⟩ := List.exists_mem_of_ne_nil _ (String.utf8EncodeChar_ne_nil (c := c))
    intro empty
    have nothing := List.flatMap_eq_nil_iff.mp empty b hb
    simp [percentByte] at nothing

theorem percentEncode_eq_nil {t : List Char} : percentEncode t = [] ↔ t = [] := by
  rw [percentEncode, List.flatMap_eq_nil_iff]
  exact ⟨fun h => List.eq_nil_iff_forall_not_mem.mpr fun c hc => percentChar_ne_nil c (h c hc),
    by rintro rfl; simp⟩

/-- A character that ends a segment, a path or a line of an address. -/
def isSpecial (c : Char) : Bool := c = '/' || c = '?' || c = '#' || isBlank c

theorem isSpecial_of_isUnreserved {c : Char} (h : isUnreserved c = true) : isSpecial c = false := by
  have each : ∀ n : Fin 128, isUnreserved (Char.ofNat n) = true →
      isSpecial (Char.ofNat n) = false := by decide
  have ascii := each ⟨c.toNat, lt_of_isUnreserved h⟩
  rw [Char.ofNat_toNat] at ascii
  exact ascii h

end Livecast.Text

namespace Livecast

open Livecast.Text

/-- The text that an encoded component stands for. -/
def component? (t : String) : Option String :=
  (percentDecode? t.toList).bind Bytes.text?

/-- **An encoded component stands for the text it was made from.** -/
theorem component?_percentEncode (s : String) : component? (percentEncode s) = some s := by
  rw [component?, percentEncode, String.toList_ofList, percentDecode?_percentEncode,
    Option.bind_some, ← Bytes.ofText_eq, Bytes.text?_ofText]

/-- **No encoded component holds a character that means something in an address.** -/
theorem percentEncode_not_special (s : String) :
    ∀ c ∈ (percentEncode s).toList, isSpecial c = false := by
  intro c hc
  rw [percentEncode, String.toList_ofList] at hc
  rcases mem_percentEncode hc with rfl | kept
  · decide
  · exact isSpecial_of_isUnreserved kept

theorem percentEncode_ne_empty {s : String} (h : s ≠ "") : percentEncode s ≠ "" := by
  intro empty
  have chars : Text.percentEncode s.toList = [] := by
    rw [← String.toList_ofList (l := Text.percentEncode s.toList)]
    exact congrArg String.toList empty
  exact h (by simpa using percentEncode_eq_nil.mp chars)

end Livecast
