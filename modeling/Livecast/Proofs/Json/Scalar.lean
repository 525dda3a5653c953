import Livecast.Proofs.Text.Cutting
import Livecast.Proofs.Text.JsonString
import Livecast.Proofs.Text.Numeral

/-!
# Values without parts

The grammar of JSON for values that are neither a list nor an object, and the reader that takes
them.  A number ends where nothing can belong to it any more, so it is read in front of the comma or
the bracket that follows a value; the other values have an end of their own.

## Main Definitions

* `Json.IsNumber`, `Json.IsStringBody`, `Json.IsScalar` - the grammar
* `Json.Ends` - what may follow a value inside a list or an object, or at the end of a text
* `Json.Reads` - a text is read as a tree, whatever follows it

## Main Statements

* `Json.exists_readNumber?` - a number is read, and a whole number has its value
* `Json.IsScalar.exists_reads` - every value without parts is read
* `Json.reads_string`, `Json.reads_flag`, `Json.exists_reads_number` - what is written for a text, a
  truth value and a whole number is read as this
-/

namespace Livecast.Json

open Livecast.Text

variable {t rest : List Char}

/-! ## Grammar -/

/-- A whole number without a sign: digits, where a zero in front stands alone. -/
structure IsWhole (t : List Char) : Prop where
  /-- There are digits and nothing else. -/
  digits : isDigits t = true
  /-- A zero in front stands alone. -/
  lean : t.head? = some '0' → t.length = 1

/-- The fraction of a number, which may be missing. -/
inductive IsFraction : List Char → Prop
  | absent : IsFraction []
  | places {run : List Char} (digits : isDigits run = true) : IsFraction ('.' :: run)

/-- The exponent of a number, which may be missing. -/
inductive IsExponent : List Char → Prop
  | absent : IsExponent []
  | power {e : Char} {sign run : List Char} (letter : e = 'e' ∨ e = 'E')
      (signed : sign = [] ∨ sign = ['+'] ∨ sign = ['-']) (digits : isDigits run = true) :
      IsExponent (e :: (sign ++ run))

/-- A number. -/
inductive IsNumber : List Char → Prop
  | mk {sign whole fraction exponent : List Char} (signed : sign = [] ∨ sign = ['-'])
      (isWhole : IsWhole whole) (isFraction : IsFraction fraction)
      (isExponent : IsExponent exponent) : IsNumber (sign ++ (whole ++ (fraction ++ exponent)))

/-- What stands between the quotes of a string. -/
inductive IsStringBody : List Char → Prop
  | empty : IsStringBody []
  | plain {c : Char} {more : List Char} (quote : c ≠ '"') (slash : c ≠ '\\')
      (visible : 32 ≤ c.toNat) (body : IsStringBody more) : IsStringBody (c :: more)
  | letter {e : Char} {more : List Char} (short : e ∈ ['"', '\\', '/', 'b', 'f', 'n', 'r', 't'])
      (body : IsStringBody more) : IsStringBody ('\\' :: e :: more)
  | unit {a b c d : Char} {more : List Char} (hex : ∀ x ∈ [a, b, c, d], (hexValue? x).isSome = true)
      (body : IsStringBody more) : IsStringBody ('\\' :: 'u' :: a :: b :: c :: d :: more)

/-- A value without parts. -/
inductive IsScalar : List Char → Prop
  | null : IsScalar ['n', 'u', 'l', 'l']
  | yes : IsScalar ['t', 'r', 'u', 'e']
  | no : IsScalar ['f', 'a', 'l', 's', 'e']
  | number {t : List Char} (isNumber : IsNumber t) : IsScalar t
  | string {body : List Char} (isBody : IsStringBody body) : IsScalar ('"' :: (body ++ ['"']))

/-- What may follow a value: a comma, a closing bracket, or nothing. -/
def Ends (rest : List Char) : Prop :=
  ∀ c, rest.head? = some c → c = ',' ∨ c = ']' ∨ c = '\x7d'

/-- A text is read as a tree, whatever follows it, where `depth` levels may be opened. -/
structure Reads (depth : Nat) (t : List Char) (node : Node) : Prop where
  /-- It begins neither with a blank nor with the end of a list. -/
  starts : ∃ c more, t = c :: more ∧ isSpace c = false ∧ c ≠ ']'
  /-- All of it is JSON. -/
  intact : node.isIntact = true
  /-- The reader stops behind it.  Three looks at each character are enough. -/
  read : ∀ {fuel levels : Nat} {rest : List Char}, 3 * t.length ≤ fuel → depth ≤ levels →
    Ends rest → Node.read fuel levels (t ++ rest) = (node, rest)

/-- More levels may be opened than there are. -/
theorem Reads.mono {depth deeper : Nat} {node : Node} (h : Reads depth t node)
    (le : depth ≤ deeper) : Reads deeper t node where
  starts := h.starts
  intact := h.intact
  read enough deep hrest := h.read enough (Nat.le_trans le deep) hrest

/-! ## Numbers -/

/-- What belongs to no number may follow one. -/
theorem Ends.not_numeric (h : Ends rest) {c : Char} (hc : rest.head? = some c) :
    c.isDigit = false ∧ c ≠ '.' ∧ c ≠ 'e' ∧ c ≠ 'E' := by
  rcases h c hc with rfl | rfl | rfl <;> decide

theorem digitRun?_append (digits : isDigits t = true)
    (hrest : ∀ c, rest.head? = some c → c.isDigit = false) :
    digitRun? (t ++ rest) = some (t, rest) := by
  obtain ⟨some_digit, all⟩ := isDigits_iff.mp digits
  obtain ⟨taken, left⟩ := split_run all hrest
  simp only [digitRun?, taken, left, List.isEmpty_iff, some_digit, if_false]

theorem exists_fraction? {fraction : List Char} (h : IsFraction fraction) :
    ∃ places, (fraction = [] → places = none) ∧ ∀ {rest : List Char},
      (∀ c, rest.head? = some c → c.isDigit = false ∧ c ≠ '.') →
        fraction? (fraction ++ rest) = some (places, rest) := by
  cases h with
  | absent =>
      refine ⟨none, fun _ => rfl, fun {rest} hrest => ?_⟩
      rw [List.nil_append, fraction?]
      rintro r rfl
      exact (hrest '.' rfl).2 rfl
  | @places run digits =>
      refine ⟨some run, fun none => absurd none (List.cons_ne_nil _ _), fun {rest} hrest => ?_⟩
      rw [List.cons_append, fraction?, digitRun?_append digits fun c hc => (hrest c hc).1]
      rfl

theorem exists_exponent? {exponent : List Char} (h : IsExponent exponent) :
    ∃ power, (exponent = [] → power = none) ∧ ∀ {rest : List Char}, Ends rest →
      exponent? (exponent ++ rest) = some (power, rest) := by
  cases h with
  | absent =>
      refine ⟨none, fun _ => rfl, fun {rest} hrest => ?_⟩
      cases rest with
      | nil => rfl
      | cons c more =>
          obtain ⟨-, -, small, large⟩ := hrest.not_numeric rfl
          simp [exponent?, small, large]
  | @power e sign run letter signed digits =>
      have read {rest : List Char} (hrest : Ends rest) :
          digitRun? (run ++ rest) = some (run, rest) :=
        digitRun?_append digits fun c hc => (hrest.not_numeric hc).1
      have marked : (e = 'e' || e = 'E') = true := by simpa using letter
      obtain ⟨first, later, rfl⟩ := List.exists_cons_of_ne_nil (isDigits_iff.mp digits).1
      have digit : first.isDigit = true := (isDigits_iff.mp digits).2 first (by simp)
      have minus : first ≠ '-' := ne_of_isDigit digit (by decide)
      have plus : first ≠ '+' := ne_of_isDigit digit (by decide)
      simp only [List.cons_append] at read
      suffices ∃ power : Int, ∀ {rest : List Char}, Ends rest →
          exponent? (e :: (sign ++ first :: later) ++ rest) = some (some power, rest) by
        obtain ⟨power, reads⟩ := this
        exact ⟨some power, fun none => absurd none (List.cons_ne_nil _ _), reads⟩
      rcases signed with rfl | rfl | rfl
      · refine ⟨digitsValue (first :: later), fun {rest} hrest => ?_⟩
        simp only [List.nil_append, List.cons_append]
        rw [exponent?, if_pos marked, read hrest]
        · rfl
        · exact fun _ same => absurd (List.cons.inj same).1 minus
        · exact fun _ same => absurd (List.cons.inj same).1 plus
      · refine ⟨digitsValue (first :: later), fun {rest} hrest => ?_⟩
        simp only [List.nil_append, List.cons_append]
        rw [exponent?, if_pos marked, read hrest]
        rfl
      · refine ⟨-(digitsValue (first :: later) : Int), fun {rest} hrest => ?_⟩
        simp only [List.nil_append, List.cons_append]
        rw [exponent?, if_pos marked, read hrest]
        rfl

/-- What follows the whole part of a number is no digit of it. -/
theorem head_fraction {fraction exponent : List Char} (isFraction : IsFraction fraction)
    (isExponent : IsExponent exponent) (hrest : Ends rest) {c : Char}
    (hc : (fraction ++ (exponent ++ rest)).head? = some c) : c.isDigit = false := by
  cases isFraction with
  | places =>
      obtain rfl : '.' = c := by simpa using hc
      rfl
  | absent =>
      cases isExponent with
      | absent => exact (hrest.not_numeric (by simpa using hc)).1
      | power letter =>
          obtain rfl : _ = c := by simpa using hc
          rcases letter with rfl | rfl <;> rfl

/-- The value of a whole number. -/
def signedValue (negative : Bool) (whole : List Char) : Int :=
  if negative then -(digitsValue whole : Int) else digitsValue whole

theorem exists_magnitude? (negative : Bool) {whole fraction exponent : List Char}
    (isWhole : IsWhole whole) (isFraction : IsFraction fraction)
    (isExponent : IsExponent exponent) :
    ∃ n : Number,
      (fraction = [] → exponent = [] → (negative = true → digitsValue whole ≠ 0) →
        n.integer? = some (signedValue negative whole)) ∧
      ∀ {rest : List Char}, Ends rest →
        magnitude? negative (whole ++ (fraction ++ (exponent ++ rest))) = some (n, rest) := by
  obtain ⟨places, noPlaces, between⟩ := exists_fraction? isFraction
  obtain ⟨power, noPower, back⟩ := exists_exponent? isExponent
  have zero : (1 < whole.length && whole.head? == some '0') = false := by
    by_cases first : whole.head? = some '0'
    · simp [isWhole.lean first]
    · simp [first]
  have read {rest : List Char} (hrest : Ends rest) :=
    digitRun?_append isWhole.digits fun c hc => head_fraction isFraction isExponent hrest hc
  have behind {rest : List Char} (hrest : Ends rest) :
      ∀ c, (exponent ++ rest).head? = some c → c.isDigit = false ∧ c ≠ '.' := by
    intro c hc
    cases isExponent with
    | absent =>
        obtain ⟨digit, point, -⟩ := hrest.not_numeric (by simpa using hc)
        exact ⟨digit, point⟩
    | power letter =>
        obtain rfl : _ = c := by simpa using hc
        rcases letter with rfl | rfl <;> decide
  refine ⟨{
    integer? := if places.isNone && power.isNone && !(negative && digitsValue whole == 0) then
      some (signedValue negative whole) else none
    tooLarge := exceedsDouble (digitsValue (whole ++ places.getD []))
      (power.getD 0 - (places.getD []).length) }, ?_, fun {rest} hrest => ?_⟩
  · intro noFraction noExponent nonzero
    have plain : (!(negative && digitsValue whole == 0)) = true := by
      cases negative with
      | false => rfl
      | true => simpa using nonzero rfl
    simp [noPlaces noFraction, noPower noExponent, plain]
  · rw [magnitude?]
    simp only [read hrest, between (behind hrest), back hrest, zero, Option.bind_eq_bind,
      Option.bind_some]
    rfl

/-- **A number is read up to its end**, and without fraction and exponent it has its value, unless
it is a minus zero. -/
theorem exists_readNumber? {sign whole fraction exponent : List Char}
    (signed : sign = [] ∨ sign = ['-']) (isWhole : IsWhole whole) (isFraction : IsFraction fraction)
    (isExponent : IsExponent exponent) :
    ∃ n : Number,
      (fraction = [] → exponent = [] → (sign = ['-'] → digitsValue whole ≠ 0) →
        n.integer? = some (signedValue (sign = ['-']) whole)) ∧
      ∀ {rest : List Char}, Ends rest →
        readNumber? (sign ++ (whole ++ (fraction ++ exponent)) ++ rest) = some (n, rest) := by
  rcases signed with rfl | rfl
  · obtain ⟨n, value, read⟩ := exists_magnitude? false isWhole isFraction isExponent
    refine ⟨n, fun noFraction noExponent _ => value noFraction noExponent (by simp),
      fun {rest} hrest => ?_⟩
    obtain ⟨some_digit, all⟩ := isDigits_iff.mp isWhole.digits
    obtain ⟨first, later, rfl⟩ := List.exists_cons_of_ne_nil some_digit
    have minus : first ≠ '-' := ne_of_isDigit (all first (by simp)) (by decide)
    simp only [List.nil_append, List.append_assoc]
    rw [readNumber?, read hrest]
    exact fun _ same => absurd (List.cons.inj same).1 minus
  · obtain ⟨n, value, read⟩ := exists_magnitude? true isWhole isFraction isExponent
    refine ⟨n, fun noFraction noExponent nonzero => ?_, fun {rest} hrest => ?_⟩
    · simpa using value noFraction noExponent fun _ => nonzero rfl
    · simp only [List.append_assoc]
      exact read hrest

/-! ## Strings -/

theorem exists_stringParts?_unit {a b c d : Char}
    (h : ∀ x ∈ [a, b, c, d], (hexValue? x).isSome = true) :
    ∃ n, ∀ t, stringParts? ('\\' :: 'u' :: a :: b :: c :: d :: t) = withPart (.unit n) t := by
  simp only [List.forall_mem_cons, Option.isSome_iff_exists] at h
  obtain ⟨⟨w, ha⟩, ⟨x, hb⟩, ⟨y, hc⟩, ⟨z, hd⟩, -⟩ := h
  have number : hexNumber? [a, b, c, d] = some (16 * (16 * (16 * w + x) + y) + z) := by
    simp [hexNumber?, List.foldlM, ha, hb, hc, hd]
  refine ⟨16 * (16 * (16 * w + x) + y) + z, fun t => ?_⟩
  rw [stringParts?]
  simp only [number, withPart, Option.bind_eq_bind, Option.bind_some]
  cases stringParts? t <;> rfl

/-- **The body of a string is read up to its closing quote.** -/
theorem exists_stringParts? {body : List Char} (h : IsStringBody body) :
    ∃ parts, ∀ rest, stringParts? (body ++ '"' :: rest) = some (parts, rest) := by
  induction h with
  | empty => exact ⟨[], fun _ => rfl⟩
  | @plain c more quote slash visible _ ih =>
      obtain ⟨parts, read⟩ := ih
      refine ⟨.char c :: parts, fun rest => ?_⟩
      rw [List.cons_append, stringParts?_plain quote slash visible, withPart, read]
      rfl
  | @letter e more short _ ih =>
      obtain ⟨parts, read⟩ := ih
      have stands : (shortEscape? e).isSome = true ∧ e ≠ 'u' := by
        simp only [List.mem_cons, List.not_mem_nil, or_false] at short
        rcases short with rfl | rfl | rfl | rfl | rfl | rfl | rfl | rfl <;>
          exact ⟨rfl, by decide⟩
      obtain ⟨c, stood⟩ := Option.isSome_iff_exists.mp stands.1
      refine ⟨.char c :: parts, fun rest => ?_⟩
      rw [List.cons_append, List.cons_append, stringParts?_short stood stands.2, withPart, read]
      rfl
  | @unit a b c d more hex _ ih =>
      obtain ⟨parts, read⟩ := ih
      obtain ⟨n, unit⟩ := exists_stringParts?_unit hex
      refine ⟨.unit n :: parts, fun rest => ?_⟩
      simp only [List.cons_append]
      rw [unit, withPart, read]
      rfl

/-! ## Reading -/

theorem skipSpace_cons {c : Char} (h : isSpace c = false) (t : List Char) :
    skipSpace (c :: t) = c :: t :=
  List.dropWhile_cons_of_neg (by simp [h])

/-- There is a step to take for a text that is not empty. -/
theorem exists_fuel {fuel : Nat} {c : Char} (h : 3 * (c :: t).length ≤ fuel) :
    ∃ left, fuel = left + 1 := by
  rw [List.length_cons] at h
  exact ⟨fuel - 1, by omega⟩

/-- A value is read if the reader can take a step for its first character and then stops behind
it. -/
theorem reads_of_cons {c : Char} {more : List Char} {node : Node} {depth : Nat}
    (space : isSpace c = false) (bracket : c ≠ ']') (intact : node.isIntact = true)
    (read : ∀ {left levels : Nat} {rest : List Char}, 3 * (c :: more).length ≤ left + 1 →
      depth ≤ levels → Ends rest →
        Node.read (left + 1) levels (c :: (more ++ rest)) = (node, rest)) :
    Reads depth (c :: more) node where
  starts := ⟨c, more, rfl, space, bracket⟩
  intact := intact
  read := by
    intro fuel levels rest enough deep hrest
    obtain ⟨left, rfl⟩ := exists_fuel enough
    exact read enough deep hrest

theorem reads_null : Reads 0 ['n', 'u', 'l', 'l'] .null :=
  reads_of_cons (by decide) (by decide) rfl fun _ _ _ => by rw [Node.read]; rfl

/-- What is written for a truth value is read as this truth value. -/
theorem reads_flag (b : Bool) : Reads 0 (Value.bool b).chars (.bool b) := by
  cases b with
  | false =>
      exact reads_of_cons (by decide) (by decide) rfl fun _ _ _ => by rw [Node.read]; rfl
  | true =>
      exact reads_of_cons (by decide) (by decide) rfl fun _ _ _ => by rw [Node.read]; rfl

/-- What is written for a text is read as this text. -/
theorem reads_string (s : String) : Reads 0 (stringChars s) (.string (some s)) :=
  reads_of_cons (by decide) (by decide) rfl fun _ _ _ => read_stringChars _ _ s _

/-- A string is read as what its body denotes, if it denotes anything. -/
theorem exists_reads_string {body : List Char} (h : IsStringBody body) :
    ∃ s, Reads 0 ('"' :: (body ++ ['"'])) (.string s) := by
  obtain ⟨parts, read⟩ := exists_stringParts? h
  refine ⟨(joinParts? parts).map String.ofList,
    reads_of_cons (by decide) (by decide) rfl fun {left levels rest} _ _ _ => ?_⟩
  have text : body ++ ['"'] ++ rest = body ++ '"' :: rest := by simp
  rw [text, Node.read, skipSpace_cons (by decide)]
  simp only [readString?, read, Option.map_some]

/-- A number begins with its sign or with a digit. -/
theorem IsNumber.head (h : IsNumber t) :
    ∃ c more, t = c :: more ∧ (c = '-' ∨ c.isDigit = true) := by
  cases h with
  | @mk sign whole fraction exponent signed isWhole isFraction isExponent =>
      obtain ⟨some_digit, all⟩ := isDigits_iff.mp isWhole.digits
      obtain ⟨first, later, rfl⟩ := List.exists_cons_of_ne_nil some_digit
      rcases signed with rfl | rfl
      · exact ⟨first, _, rfl, .inr (all first (by simp))⟩
      · exact ⟨'-', _, rfl, .inl rfl⟩

/-- What begins like a number can only be one. -/
theorem IsNumber.reads (h : IsNumber t) {n : Number}
    (number : ∀ {rest : List Char}, Ends rest → readNumber? (t ++ rest) = some (n, rest)) :
    Reads 0 t (.number n) := by
  obtain ⟨c, more, rfl, first⟩ := h.head
  have other {d : Char} (minus : '-' ≠ d) (digit : d.isDigit = false) : c ≠ d := by
    rcases first with rfl | first
    · exact minus
    · exact ne_of_isDigit first digit
  have space : isSpace c = false := by
    simp [isSpace, other (d := ' ') (by decide) (by decide),
      other (d := '\t') (by decide) (by decide), other (d := '\n') (by decide) (by decide),
      other (d := '\r') (by decide) (by decide)]
  refine reads_of_cons space (other (by decide) (by decide)) rfl
    fun {left levels rest} _ _ hrest => ?_
  rw [Node.read, skipSpace_cons space]
  split
  case h_7 => rw [← List.cons_append, number hrest]
  -- the other values begin with a character of their own
  all_goals
    next same => exact absurd (List.cons.inj same).1 (other (by decide) (by decide))

/-- **Every value without parts is read.** -/
theorem IsScalar.exists_reads (h : IsScalar t) : ∃ node, Reads 0 t node := by
  cases h with
  | null => exact ⟨.null, reads_null⟩
  | yes => exact ⟨.bool true, reads_flag true⟩
  | no => exact ⟨.bool false, reads_flag false⟩
  | number isNumber =>
      have whole := isNumber
      cases isNumber with
      | mk signed isWhole isFraction isExponent =>
          obtain ⟨n, -, number⟩ := exists_readNumber? signed isWhole isFraction isExponent
          exact ⟨.number n, whole.reads number⟩
  | string isBody =>
      obtain ⟨s, reads⟩ := exists_reads_string isBody
      exact ⟨.string s, reads⟩

/-- The digits of a number have no zero in front of others. -/
theorem isWhole_digits (n : Nat) : IsWhole (digits n) where
  digits := isDigits_digits n
  lean := by
    intro first
    by_cases zero : n = 0
    · subst zero
      rw [digits]
      rfl
    · exact absurd first (head?_digits_ne_zero zero)

/-- **What is written for a whole number is read as a number of this value.** -/
theorem exists_reads_number (i : Int) :
    ∃ n : Number, n.integer? = some i ∧ Reads 0 (numberChars i) (.number n) := by
  obtain ⟨sign, signed, text, negative⟩ : ∃ sign, (sign = [] ∨ sign = ['-']) ∧
      numberChars i = sign ++ (digits i.natAbs ++ ([] ++ [])) ∧ (sign = ['-'] ↔ i < 0) := by
    by_cases negative : i < 0
    · exact ⟨['-'], .inr rfl, by simp [numberChars, negative], by simpa using negative⟩
    · exact ⟨[], .inl rfl, by simp [numberChars, negative], by simpa using negative⟩
  obtain ⟨n, value, read⟩ := exists_readNumber? signed (isWhole_digits i.natAbs) .absent .absent
  refine ⟨n, ?_, ?_⟩
  · -- a minus sign stands only in front of a number that is not zero
    rw [value rfl rfl (by rw [negative, digitsValue_digits]; omega)]
    simp only [signedValue, negative, digitsValue_digits, decide_eq_true_eq]
    congr 1
    split <;> omega
  · rw [text]
    exact (IsNumber.mk signed (isWhole_digits i.natAbs) .absent .absent).reads read

end Livecast.Json
