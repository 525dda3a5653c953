import Livecast.Proofs.Text.Component

/-!
# What an encoded component looks like

A component is encoded byte by byte.  The bytes of letters, digits and nine marks are written as
these characters; every other byte of the UTF-8 form is a percent sign and two upper-case digits.
So nothing but these characters occurs in an encoded component, every reader finds the bytes again,
and a text is its own encoded form only if there was nothing to encode.

## Main Definitions

* `IsKept`, `IsUpperHex` - the characters that stand for themselves, and the digits of bytes
* `IsEncoded` - the texts that are made of them
* `byteChars` - what is written for a byte
* `percentDecode` - the bytes that any reader takes a text for

## Main Statements

* `percentEncode_eq_flatMap_byteChars` - an encoded text is written byte by byte
* `of_percentDecode?_eq_some` - what the strict reader accepts is made of these characters, and
  every reader reads it in the same way
* `percentEncode_eq_self_iff` - the texts that are their own encoded form
* `percentEncode_reversible` - all that encoding does
-/

namespace Livecast.Text

/-! ## The characters of an encoded component -/

/-- A character stands for itself: it is a letter or a digit of ASCII or one of nine marks. -/
def IsKept (c : Char) : Prop :=
  ('A' ≤ c ∧ c ≤ 'Z') ∨ ('a' ≤ c ∧ c ≤ 'z') ∨ ('0' ≤ c ∧ c ≤ '9') ∨
    c ∈ ['-', '_', '.', '!', '~', '*', '\x27', '(', ')']

instance (c : Char) : Decidable (IsKept c) := inferInstanceAs (Decidable (_ ∨ _ ∨ _ ∨ _))

theorem isDigit_iff {c : Char} : c.isDigit = true ↔ '0' ≤ c ∧ c ≤ '9' :=
  Bool.and_eq_true_iff.trans (and_congr decide_eq_true_iff decide_eq_true_iff)

theorem isUnreserved_iff {c : Char} : isUnreserved c = true ↔ IsKept c := by
  have upper : c.isUpper = true ↔ 'A' ≤ c ∧ c ≤ 'Z' := decide_eq_true_iff
  have lower : c.isLower = true ↔ 'a' ≤ c ∧ c ≤ 'z' :=
    Bool.and_eq_true_iff.trans (and_congr decide_eq_true_iff decide_eq_true_iff)
  have alphanumeric : c.isAlphanum = true ↔
      (c.isUpper = true ∨ c.isLower = true) ∨ c.isDigit = true :=
    Bool.or_eq_true_iff.trans (or_congr_left Bool.or_eq_true_iff)
  rw [isUnreserved, Bool.or_eq_true_iff, decide_eq_true_iff, alphanumeric, upper, lower,
    isDigit_iff, or_assoc, or_assoc, IsKept]

/-- An upper-case hexadecimal digit. -/
def IsUpperHex (c : Char) : Prop := ('0' ≤ c ∧ c ≤ '9') ∨ ('A' ≤ c ∧ c ≤ 'F')

/-- A text is made of characters that stand for themselves and of percent signs, each followed by
two upper-case digits. -/
inductive IsEncoded : List Char → Prop
  | nil : IsEncoded []
  | kept {c : Char} {rest : List Char} (hc : IsKept c) (hrest : IsEncoded rest) :
      IsEncoded (c :: rest)
  | byte {high low : Char} {rest : List Char} (hhigh : IsUpperHex high) (hlow : IsUpperHex low)
      (hrest : IsEncoded rest) : IsEncoded ('%' :: high :: low :: rest)

section

variable {c : Char} {n : Nat}

theorem upperHexValue?_cases (h : upperHexValue? c = some n) :
    (c.isDigit = true ∧ n = c.toNat - 48) ∨
      (¬c.isDigit = true ∧ ('A' ≤ c ∧ c ≤ 'F') ∧ n = c.toNat - 55) := by
  rw [upperHexValue?] at h
  split at h
  · next digit => exact .inl ⟨digit, (Option.some.inj h).symm⟩
  · next other =>
      rw [Option.ite_none_right_eq_some, Bool.and_eq_true, decide_eq_true_eq,
        decide_eq_true_eq] at h
      exact .inr ⟨other, h.1, (Option.some.inj h.2).symm⟩

theorem isUpperHex_of_upperHexValue? (h : upperHexValue? c = some n) : IsUpperHex c := by
  rcases upperHexValue?_cases h with ⟨digit, -⟩ | ⟨-, letter, -⟩
  · exact .inl (isDigit_iff.mp digit)
  · exact .inr letter

/-- An upper-case digit has the same value for those who read both cases. -/
theorem hexValue?_of_upperHexValue? (h : upperHexValue? c = some n) : hexValue? c = some n := by
  rw [hexValue?]
  rcases upperHexValue?_cases h with ⟨digit, rfl⟩ | ⟨other, letter, rfl⟩
  · rw [if_pos digit]
  · have notLower : ¬('a' ≤ c) := fun lower => absurd (Char.le_trans lower letter.2) (by decide)
    rw [if_neg other, if_neg (by simp [notLower]), if_pos (by simp [letter])]

end

/-! ## Readers -/

/-- The bytes that any reader takes a text for: a percent sign with two hexadecimal digits of either
case is a byte, and everything else stands for itself. -/
def percentDecode : List Char → Bytes
  | [] => []
  | '%' :: a :: b :: rest =>
    match hexValue? a, hexValue? b with
    | some high, some low => UInt8.ofNat (16 * high + low) :: percentDecode rest
    | _, _ => String.utf8EncodeChar '%' ++ percentDecode (a :: b :: rest)
  | c :: rest => String.utf8EncodeChar c ++ percentDecode rest

/-- **The strict reader accepts encoded texts only**, and every reader reads them the same way. -/
theorem of_percentDecode?_eq_some {t : List Char} {bytes : Bytes}
    (h : percentDecode? t = some bytes) : IsEncoded t ∧ percentDecode t = bytes := by
  fun_induction percentDecode? t generalizing bytes with
  | case1 => exact ⟨.nil, Option.some.inj h⟩
  | case2 a b rest ih =>
      simp only [Option.bind_eq_bind, Option.bind_eq_some_iff, Option.pure_def,
        Option.some.injEq] at h
      obtain ⟨high, hhigh, low, hlow, more, hmore, rfl⟩ := h
      obtain ⟨encoded, read⟩ := ih hmore
      refine ⟨.byte (isUpperHex_of_upperHexValue? hhigh) (isUpperHex_of_upperHexValue? hlow)
        encoded, ?_⟩
      simp only [percentDecode, hexValue?_of_upperHexValue? hhigh,
        hexValue?_of_upperHexValue? hlow, read]
  | case3 c rest other unreserved ih =>
      obtain ⟨more, hmore, rfl⟩ := Option.map_eq_some_iff.mp h
      obtain ⟨encoded, read⟩ := ih hmore
      refine ⟨.kept (isUnreserved_iff.mp unreserved) encoded, ?_⟩
      rw [percentDecode, utf8EncodeChar_of_isUnreserved unreserved, read]
      · rfl
      · exact other
  | case4 => contradiction

/-! ## Bytes -/

/-- What is written for a byte: its character, if it is of ASCII and stands for itself. -/
def byteChars (b : UInt8) : List Char :=
  if b.toNat < 128 ∧ IsKept (Char.ofNat b.toNat) then [Char.ofNat b.toNat] else percentByte b

theorem le_toNat_ofNat {n : Nat} (low : 128 ≤ n) (high : n < 256) :
    128 ≤ (UInt8.ofNat n).toNat := by
  rw [UInt8.toNat_ofNat_of_lt' high]
  exact low

/-- A byte of a character is its code point, or it is none of ASCII. -/
theorem toNat_of_mem_utf8EncodeChar {c : Char} {b : UInt8} (h : b ∈ String.utf8EncodeChar c) :
    b.toNat = c.toNat ∨ 128 ≤ b.toNat := by
  simp only [String.utf8EncodeChar] at h
  split at h
  · next ascii =>
      rw [List.mem_singleton.mp h]
      exact .inl (UInt8.toNat_ofNat_of_lt' (Nat.lt_of_le_of_lt ascii (by decide)))
  -- of the longer forms every byte has its highest bit
  · right
    split at h
    · simp only [List.mem_cons, List.not_mem_nil, or_false] at h
      rcases h with rfl | rfl <;> exact le_toNat_ofNat (by omega) (by omega)
    · split at h
      · simp only [List.mem_cons, List.not_mem_nil, or_false] at h
        rcases h with rfl | rfl | rfl <;> exact le_toNat_ofNat (by omega) (by omega)
      · simp only [List.mem_cons, List.not_mem_nil, or_false] at h
        rcases h with rfl | rfl | rfl | rfl <;> exact le_toNat_ofNat (by omega) (by omega)

theorem byteChars_of_kept {c : Char} (h : IsKept c) : byteChars (UInt8.ofNat c.toNat) = [c] := by
  have ascii : c.toNat < 128 := lt_of_isUnreserved (isUnreserved_iff.mpr h)
  have code : (UInt8.ofNat c.toNat).toNat = c.toNat :=
    UInt8.toNat_ofNat_of_lt' (Nat.lt_of_lt_of_le ascii (by decide))
  rw [byteChars, code, Char.ofNat_toNat, if_pos ⟨ascii, h⟩]

/-- No byte of a character that is encoded stands for itself. -/
theorem byteChars_of_not_kept {c : Char} {b : UInt8} (hc : ¬IsKept c)
    (h : b ∈ String.utf8EncodeChar c) : byteChars b = percentByte b := by
  rw [byteChars, if_neg]
  rintro ⟨ascii, kept⟩
  rcases toNat_of_mem_utf8EncodeChar h with same | beyond
  · rw [same, Char.ofNat_toNat] at kept
    exact hc kept
  · omega

/-- A character is encoded byte by byte. -/
theorem percentChar_eq (c : Char) :
    percentChar c = (String.utf8EncodeChar c).flatMap byteChars := by
  by_cases kept : IsKept c
  · have unreserved := isUnreserved_iff.mpr kept
    rw [percentChar, if_pos unreserved, utf8EncodeChar_of_isUnreserved unreserved,
      List.flatMap_singleton, byteChars_of_kept kept]
  · have reserved : ¬isUnreserved c = true := mt isUnreserved_iff.mp kept
    rw [percentChar, if_neg reserved, List.flatMap_def, List.flatMap_def,
      List.map_congr_left fun b hb => (byteChars_of_not_kept kept hb).symm]

/-- **A text is encoded byte by byte.** -/
theorem percentEncode_eq_flatMap_byteChars (t : List Char) :
    percentEncode t = (t.flatMap String.utf8EncodeChar).flatMap byteChars := by
  rw [percentEncode, List.flatMap_assoc]
  exact congrArg (t.flatMap ·) (funext percentChar_eq)

/-! ## What encoding changes -/

/-- A character that is encoded takes more room. -/
theorem two_le_length_percentChar {c : Char} (h : ¬IsKept c) : 2 ≤ (percentChar c).length := by
  have reserved : ¬isUnreserved c = true := mt isUnreserved_iff.mp h
  obtain ⟨b, more, bytes⟩ := List.exists_cons_of_ne_nil (String.utf8EncodeChar_ne_nil (c := c))
  rw [percentChar, if_neg reserved, bytes, List.flatMap_cons, List.length_append]
  have room : (percentByte b).length = 3 := rfl
  omega

/-- No text becomes shorter. -/
theorem length_le_length_percentEncode (t : List Char) : t.length ≤ (percentEncode t).length := by
  induction t with
  | nil => exact Nat.zero_le _
  | cons c rest ih =>
      have one : 0 < (percentChar c).length := List.length_pos_iff.mpr (percentChar_ne_nil c)
      rw [percentEncode, List.flatMap_cons, ← percentEncode, List.length_append, List.length_cons]
      omega

/-- **The texts that are their own encoded form** are those without a character to encode. -/
theorem percentEncode_eq_self_iff {t : List Char} :
    percentEncode t = t ↔ ∀ c ∈ t, IsKept c := by
  induction t with
  | nil => exact iff_of_true rfl (by simp)
  | cons c rest ih =>
      rw [percentEncode, List.flatMap_cons, ← percentEncode, List.forall_mem_cons]
      by_cases kept : IsKept c
      · rw [percentChar, if_pos (isUnreserved_iff.mpr kept), List.singleton_append,
          List.cons_inj_right, ih]
        exact (and_iff_right kept).symm
      -- the encoded character alone makes the text longer than it was
      · refine iff_of_false (fun same => ?_) fun all => kept all.1
        have lengths := congrArg List.length same
        have more := two_le_length_percentChar kept
        have least := length_le_length_percentEncode rest
        rw [List.length_append, List.length_cons] at lengths
        omega

end Livecast.Text

namespace Livecast

open Livecast.Text

/-- **All that encoding does.**  Every reader finds the UTF-8 form of a text in its encoded form.
Nothing but characters that stand for themselves, and percent signs with two upper-case digits, is
in it, and a byte is written as its character whenever that stands for itself.  A text is its own
encoded form exactly if all its characters stand for themselves, and two texts are encoded one after
the other. -/
theorem percentEncode_reversible (s t : String) :
    percentDecode (percentEncode s).toList = Bytes.ofText s ∧
      IsEncoded (percentEncode s).toList ∧
      (percentEncode s).toList = (Bytes.ofText s).flatMap byteChars ∧
      (percentEncode s = s ↔ ∀ c ∈ s.toList, IsKept c) ∧
      percentEncode (s ++ t) = percentEncode s ++ percentEncode t := by
  have chars : (percentEncode s).toList = Text.percentEncode s.toList := String.toList_ofList
  have read := percentDecode?_percentEncode s.toList
  rw [chars, Bytes.ofText_eq]
  obtain ⟨encoded, same⟩ := of_percentDecode?_eq_some read
  refine ⟨same, encoded, percentEncode_eq_flatMap_byteChars s.toList, ?_, ?_⟩
  · rw [← String.toList_inj, chars]
    exact percentEncode_eq_self_iff
  · rw [percentEncode, String.toList_append, percentEncode_append, String.ofList_append]
    rfl

/-- What looks like an encoded byte is encoded too, so no reader takes it for one. -/
example : percentEncode "%2F" = "%252F" ∧ percentDecode "%252F".toList = [0x25, 0x32, 0x46] := by
  decide

end Livecast
