import Livecast.Json.Record

/-!
# A text survives its JSON string

Every text has a JSON string, in which quotes, backslashes and control characters are escaped.  A
control character without an escape of its own is written by its number, which is no half of a
surrogate pair, so that what follows it cannot change what it means.

## Main Definitions

* `Json.StringPart.written` - the position of a string that a character is written to

## Main Statements

* `Json.readString?_stringChars` - the string of a text denotes this text
* `Json.readText_string` - so does the whole JSON text
-/

namespace Livecast.Json

open Livecast.Text

/-- The position of a string that a character is written to. -/
def StringPart.written (c : Char) : StringPart :=
  if c.toNat < 32 ∧ c ∉ ['\x08', '\t', '\n', '\x0c', '\r'] then .unit c.toNat else .char c

/-- A unit that is no half of a pair is a character, whatever follows it. -/
theorem joinParts?_unit {n : Nat} (h : n < 0xD800) (parts : List StringPart) :
    joinParts? (.unit n :: parts) = (joinParts? parts).map (Char.ofNat n :: ·) := by
  cases parts with
  | nil => simp [joinParts?, h]
  | cons part rest => cases part <;> simp [joinParts?, h]

/-- The positions of written characters denote them. -/
theorem joinParts?_written (t : List Char) : joinParts? (t.map .written) = some t := by
  induction t with
  | nil => rfl
  | cons c rest ih =>
      rw [List.map_cons, StringPart.written]
      split
      · next control =>
          rw [joinParts?_unit (by omega), ih, Option.map_some, Char.ofNat_toNat]
      · rw [joinParts?, ih, Option.map_some]

/-- A number of a byte is read from its four digits. -/
theorem hexNumber?_lowerHexDigits {n : Nat} (h : n < 256) :
    hexNumber? ['0', '0', lowerHexDigit (n / 16), lowerHexDigit (n % 16)] = some n := by
  have high : hexValue? (lowerHexDigit (n / 16)) = some (n / 16) :=
    hexValue?_lowerHexDigit (by omega)
  have low : hexValue? (lowerHexDigit (n % 16)) = some (n % 16) :=
    hexValue?_lowerHexDigit (by omega)
  rw [hexNumber?_byte high low]
  exact congrArg some (by omega)

/-- A position that was read and what follows it. -/
def withPart (part : StringPart) (t : List Char) : Option (List StringPart × List Char) :=
  (stringParts? t).map fun (parts, rest) => (part :: parts, rest)

theorem stringParts?_short {e c : Char} (h : shortEscape? e = some c) (he : e ≠ 'u')
    (t : List Char) : stringParts? ('\\' :: e :: t) = withPart (.char c) t := by
  rw [stringParts?]
  · simp only [h, withPart, Option.bind_eq_bind, Option.bind_some]
    cases stringParts? t <;> rfl
  · intro a b x y r same
    exact absurd same he

theorem stringParts?_control {n : Nat} (h : n < 32) (t : List Char) :
    stringParts? (['\\', 'u', '0', '0', lowerHexDigit (n / 16), lowerHexDigit (n % 16)] ++ t) =
      withPart (.unit n) t := by
  simp only [List.cons_append, List.nil_append]
  rw [stringParts?]
  simp only [hexNumber?_lowerHexDigits (Nat.lt_trans h (by decide : 32 < 256)), withPart,
    Option.bind_eq_bind, Option.bind_some]
  cases stringParts? t <;> rfl

theorem stringParts?_plain {c : Char} (hquote : c ≠ '"') (hslash : c ≠ '\\') (h : 32 ≤ c.toNat)
    (t : List Char) : stringParts? (c :: t) = withPart (.char c) t := by
  rw [stringParts?]
  · rw [if_neg (by simp [hslash]; omega)]
    rfl
  · exact hquote
  · intro a b x y r same
    exact absurd same hslash
  · intro e r same
    exact absurd same hslash

/-- The characters that are escaped with a letter. -/
def letterEscaped : List Char := ['"', '\\', '\x08', '\t', '\n', '\x0c', '\r']

/-- **An escaped character is one position of a string.** -/
theorem stringParts?_escape (c : Char) (t : List Char) :
    stringParts? (escape c ++ t) = withPart (.written c) t := by
  by_cases letter : c ∈ letterEscaped
  · have short : ∃ e, escape c = ['\\', e] ∧ shortEscape? e = some c ∧ e ≠ 'u' ∧
        StringPart.written c = .char c := by
      simp only [letterEscaped, List.mem_cons, List.not_mem_nil, or_false] at letter
      rcases letter with rfl | rfl | rfl | rfl | rfl | rfl | rfl
      all_goals exact ⟨_, rfl, by decide, by decide, rfl⟩
    obtain ⟨e, escaped, read, he, written⟩ := short
    rw [escaped, written]
    exact stringParts?_short read he t
  · simp only [letterEscaped, List.mem_cons, List.not_mem_nil, or_false, not_or] at letter
    obtain ⟨quote, slash, b, tab, n, f, r⟩ := letter
    by_cases control : c.toNat < 32
    · have written : StringPart.written c = .unit c.toNat := by
        simp [StringPart.written, control, b, tab, n, f, r]
      have escaped : escape c =
          ['\\', 'u', '0', '0', lowerHexDigit (c.toNat / 16), lowerHexDigit (c.toNat % 16)] := by
        simp [escape, quote, slash, b, tab, n, f, r, control]
      rw [escaped, written]
      exact stringParts?_control control t
    · have written : StringPart.written c = .char c := by
        simp [StringPart.written, control]
      have escaped : escape c = [c] := by
        simp [escape, quote, slash, b, tab, n, f, r, control]
      rw [escaped, written]
      exact stringParts?_plain quote slash (by omega) t

/-- The positions of an escaped text up to the closing quote, and what follows it. -/
theorem stringParts?_escaped (t rest : List Char) :
    stringParts? (t.flatMap escape ++ '"' :: rest) = some (t.map .written, rest) := by
  induction t with
  | nil => rfl
  | cons c more ih =>
      rw [List.flatMap_cons, List.append_assoc, stringParts?_escape, withPart, ih]
      rfl

/-- **The string of a text denotes this text.** -/
theorem readString?_escaped (s : String) (rest : List Char) :
    readString? (s.toList.flatMap escape ++ '"' :: rest) = some (some s, rest) := by
  simp only [readString?, stringParts?_escaped, Option.map_some, joinParts?_written,
    String.ofList_toList]

/-- A string at the start of a text is read as the text it was written for. -/
theorem read_stringChars (fuel depth : Nat) (s : String) (rest : List Char) :
    Node.read (fuel + 1) depth (stringChars s ++ rest) = (.string (some s), rest) := by
  have start : skipSpace (stringChars s ++ rest) =
      '"' :: (s.toList.flatMap escape ++ '"' :: rest) := by
    simp [stringChars, skipSpace, isSpace]
  rw [Node.read, start]
  simp only [readString?_escaped]

/-- **A JSON text that is a string denotes the text it was written for.** -/
theorem readText_string {α : Type} (read : Node → Except ReadError α) (s : String) :
    readText read (Value.string s).compact = read (.string (some s)) := by
  have chars : (Value.string s).compact.toList = stringChars s ++ [] := by
    simp [Value.compact, Value.chars]
  have node : Node.ofText (Value.string s).compact = (.string (some s), true) := by
    rw [Node.ofText, chars, read_stringChars]
    rfl
  simp only [readText, node]
  cases read (.string (some s)) <;> rfl

end Livecast.Json
