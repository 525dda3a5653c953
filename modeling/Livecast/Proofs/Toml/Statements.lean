import Livecast.Proofs.Text.Numeral
import Livecast.Proofs.Toml.Quotation
import Livecast.Toml.Document

/-!
# A written document is read as its statements

A document is written one statement a line.  The reader finds the statement at the start of a line
and then the end of the line, so that a document is read line by line as it was written, provided
that its names need no quotes and that each value is read as it is written.  The latter is a
property of values, `Toml.Value.Legible`, which is shown for each kind of value on its own.

## Main Definitions

* `Toml.Value.Legible` - the value is read as it is written at the end of a line
* `Toml.isBareName` - whether a name needs no quotes
* `Toml.Statement.line` - the line of a statement
* `Toml.Statement.Legible` - the statement is read as it is written

## Main Statements

* `Toml.Value.legible_text`, `Toml.Value.legible_boolean`, `Toml.Value.legible_integer`,
  `Toml.Value.legible_nil` - values that are legible
* `Toml.readStatement?_line` - a line is read as its statement
* `Toml.readStatements?_write` - a document is read as its statements
-/

namespace Livecast.Toml

open Livecast.Text

/-! ## Blanks -/

theorem skipBlanks_eq_self {t : List Char} (h : ∀ c, t.head? = some c → isBlank c = false) :
    skipBlanks t = t :=
  (split_run (t := []) (by simp) h).2

theorem skipBlanks_space (t : List Char) : skipBlanks (' ' :: t) = skipBlanks t := by
  simp [skipBlanks, isBlank]

/-! ## Values -/

/-- The value is read as it is written, when it stands at the end of a line. -/
structure Value.Legible (v : Value) : Prop where
  /-- The reader takes the value and stops at the line end, with whatever steps it has left. -/
  read : ∀ (fuel : Nat) (rest : List Char),
    readValue? (fuel + 2) (nestingLimit - 1) (skipBlanks (writeValue v ++ '\n' :: rest)) =
      some (v, '\n' :: rest)
  /-- There is no carriage return in it. -/
  no_return : '\r' ∉ writeValue v

/-- A hexadecimal digit is no carriage return, since it has a value. -/
theorem return_ne_upperHexDigit {n : Nat} (h : n < 16) : '\r' ≠ upperHexDigit n := by
  intro same
  have value := hexValue?_upperHexDigit h
  have none : hexValue? '\r' = none := by decide
  rw [← same, none] at value
  contradiction

/-- A carriage return is always escaped. -/
theorem return_not_mem_escapeChar (lines : Bool) (c : Char) : '\r' ∉ escapeChar lines c := by
  by_cases same : c = '\r'
  · subst same
    cases lines <;> decide
  · have digits : needsEscape c = true →
        '\r' ≠ upperHexDigit (c.toNat / 16) ∧ '\r' ≠ upperHexDigit (c.toNat % 16) := by
      intro control
      have small : c.toNat < 128 := by
        simp only [needsEscape, Bool.or_eq_true, Bool.and_eq_true, decide_eq_true_eq] at control
        omega
      exact ⟨return_ne_upperHexDigit (by omega), return_ne_upperHexDigit (by omega)⟩
    unfold escapeChar
    repeat' split
    all_goals simp [Ne.symm same]
    exact digits (by assumption)

theorem return_not_mem_escapeText (lines : Bool) (run : Nat) (t : List Char) :
    '\r' ∉ escapeText lines run t := by
  induction t generalizing run with
  | nil => simp [escapeText]
  | cons c more ih =>
      rw [escapeText]
      split
      · split
        · simp [ih]
        · simp [ih]
      · simp [return_not_mem_escapeChar, ih]

/-- A quoted text begins with a quote. -/
theorem head?_writeQuoted (s : String) :
    ∃ t, writeQuoted s = '"' :: t ∨ writeQuoted s = '\x27' :: t := by
  unfold writeQuoted
  dsimp only
  repeat' split
  all_goals simp

/-- A text with a carriage return is never written as it stands. -/
theorem return_not_mem_writeQuoted (s : String) : '\r' ∉ writeQuoted s := by
  have stands (h : s.toList.any needsEscape = false) : '\r' ∉ s.toList := by
    intro inside
    exact absurd (List.any_eq_false.mp h _ inside) (by decide)
  unfold writeQuoted
  dsimp only
  repeat' split
  all_goals simp_all [return_not_mem_escapeText]

theorem Value.legible_text (s : String) : (Value.text s).Legible where
  read := by
    intro fuel rest
    have quoted : readQuoted? (writeQuoted s ++ '\n' :: rest) = some (s, '\n' :: rest) :=
      readQuoted?_writeQuoted s (by simp) (by simp)
    rw [writeValue]
    obtain ⟨t, first | first⟩ := head?_writeQuoted s
    · rw [first] at quoted ⊢
      rw [skipBlanks_eq_self (by simp [isBlank])]
      simp only [List.cons_append] at quoted ⊢
      rw [readValue?, quoted]
      rfl
    · rw [first] at quoted ⊢
      rw [skipBlanks_eq_self (by simp [isBlank])]
      simp only [List.cons_append] at quoted ⊢
      rw [readValue?, quoted]
      rfl
  no_return := by
    rw [writeValue]
    exact return_not_mem_writeQuoted s

/-- A truth value is a word of its own, as the line ends behind it. -/
theorem Value.legible_boolean (b : Bool) : (Value.boolean b).Legible where
  read := by
    intro fuel rest
    cases b <;> rfl
  no_return := by cases b <;> decide

theorem Value.legible_nil : (Value.array false []).Legible where
  read := by
    intro fuel rest
    rfl
  no_return := by decide

/-! ## Whole numbers -/

/-- Digits stand for themselves, as no underscore is among them. -/
theorem groupedDigits?_digits {t : List Char} (some_digit : t ≠ [])
    (all : ∀ c ∈ t, c.isDigit = true) : groupedDigits? Char.isDigit t = some t := by
  induction t with
  | nil => exact absurd rfl some_digit
  | cons c more ih =>
      have head := all c List.mem_cons_self
      cases more with
      | nil => rw [groupedDigits?, if_pos head]
      | cons d rest =>
          have tail := ih (List.cons_ne_nil _ _) fun e he => all e (List.mem_cons_of_mem _ he)
          have digit : d ≠ '_' := ne_of_isDigit (all d (by simp)) (by decide)
          rw [groupedDigits?, if_pos head, tail, Option.map_some]
          · exact List.cons_ne_nil _ _
          · intro r same
            exact digit (List.cons.inj same).1

theorem plainNumber?_digits {bound n : Nat} (h : n ≤ bound) :
    plainNumber? bound (digits n) = some n := by
  have run := groupedDigits?_digits (digits_ne_nil n)
    fun c hc => List.all_eq_true.mp (digits_all_isDigit n) c hc
  have lean : ¬ ((digits n).head? = some '0' ∧ 1 < (digits n).length) := by
    rintro ⟨first, more⟩
    by_cases zero : n = 0
    · subst zero
      rw [digits] at more
      exact absurd more (by decide)
    · exact head?_digits_ne_zero zero first
  rw [plainNumber?, plainDigits?, run]
  simp [lean, digitsValue_digits, h]

theorem integer?_digits {n : Nat} (h : n ≤ maxInteger) : integer? (digits n) = some (n : Int) := by
  have digit : ∀ c ∈ digits n, c.isDigit = true :=
    fun c hc => List.all_eq_true.mp (digits_all_isDigit n) c hc
  have base {c : Char} (hc : c.isDigit = false) (r : List Char) : digits n ≠ '0' :: c :: r := by
    intro same
    rw [same] at digit
    exact absurd (digit c (by simp)) (by simp [hc])
  rw [integer?, plainNumber?_digits h]
  · rfl
  · exact base (by decide)
  · exact base (by decide)
  · exact base (by decide)
  · exact fun r => digits_head_ne (by decide)
  · exact fun r => digits_head_ne (by decide)

theorem writeValue_integer (n : Nat) : writeValue (.integer n) = digits n := by
  have positive : ¬ (n : Int) < 0 := by omega
  rw [writeValue, intText, if_neg positive, natText, String.toList_ofList, Int.natAbs_natCast]

/-- The digits of a number are a word, up to the end of the line. -/
theorem readWord?_digits {n : Nat} (h : n ≤ maxInteger) (rest : List Char) :
    readWord? (digits n ++ '\n' :: rest) = some (.integer n, '\n' :: rest) := by
  have word : ∀ c ∈ digits n, isWordChar c = true := by
    intro c hc
    have digit := List.all_eq_true.mp (digits_all_isDigit n) c hc
    simp [isWordChar, Char.isAlphanum, digit]
  have line_end : ∀ c, ('\n' :: rest).head? = some c → isWordChar c = false := by simp; decide
  obtain ⟨taken, left⟩ := split_run word line_end
  have value : wordValue? (digits n) = some (.integer n) := by
    have yes : digits n ≠ ['t', 'r', 'u', 'e'] := digits_head_ne (by decide)
    have no : digits n ≠ ['f', 'a', 'l', 's', 'e'] := digits_head_ne (by decide)
    rw [wordValue?, if_neg yes, if_neg no, integer?_digits h]
  -- no time follows, as the line ends here
  have alone : (('\n' :: rest).head? = some ' ') = False := by simp
  simp only [readWord?, taken, left, value, alone, decide_false, Bool.and_false, Bool.false_and,
    Bool.false_eq_true, if_false, Option.map_some]

/-- A whole number is a word of its own. -/
theorem Value.legible_integer {n : Nat} (h : n ≤ maxInteger) : (Value.integer n).Legible where
  read := by
    intro fuel rest
    obtain ⟨c, more, same⟩ := List.exists_cons_of_ne_nil (digits_ne_nil n)
    have first {d : Char} (hd : d.isDigit = false) : c ≠ d := by
      rintro rfl
      exact digits_head_ne hd same
    have word := readWord?_digits h rest
    rw [writeValue_integer]
    rw [same, List.cons_append] at word ⊢
    rw [skipBlanks_eq_self (by simp [isBlank, first]), readValue?, word]
    · intro r quote
      exact first (by decide) (List.cons.inj quote).1
    · intro r quote
      exact first (by decide) (List.cons.inj quote).1
    · intro r _ bracket
      exact absurd (List.cons.inj bracket).1 (first (by decide))
    · intro r _ brace
      exact absurd (List.cons.inj brace).1 (first (by decide))
  no_return := by
    rw [writeValue_integer]
    intro inside
    exact absurd (List.all_eq_true.mp (digits_all_isDigit n) _ inside) (by decide)

/-! ## Names -/

/-- Whether a name needs no quotes. -/
def isBareName (name : String) : Bool := !name.isEmpty && name.toList.all isBareChar

theorem ne_of_isBareChar {c d : Char} (h : isBareChar c = true) (hd : isBareChar d = false) :
    c ≠ d := by
  rintro rfl
  rw [h] at hd
  contradiction

/-- A name without quotes has a first character, and only characters of such names. -/
theorem isBareName_iff {name : String} :
    isBareName name = true ↔
      ∃ c more, name.toList = c :: more ∧ ∀ d ∈ c :: more, isBareChar d = true := by
  rw [isBareName, Bool.and_eq_true, List.all_eq_true, Bool.not_eq_true', ← Bool.not_eq_true,
    String.isEmpty_iff, ← String.toList_eq_nil_iff]
  constructor
  · rintro ⟨some_char, bare⟩
    obtain ⟨c, more, same⟩ := List.exists_cons_of_ne_nil some_char
    exact ⟨c, more, same, same ▸ bare⟩
  · rintro ⟨c, more, same, bare⟩
    rw [same]
    exact ⟨List.cons_ne_nil c more, bare⟩

theorem writeName_bare {name : String} (h : isBareName name = true) :
    writeName name = name.toList :=
  if_pos h

/-- The reader takes a name without quotes up to the first other character. -/
theorem readName?_bare {name : String} (h : isBareName name = true) {rest : List Char}
    (hrest : ∀ c, rest.head? = some c → isBareChar c = false) :
    readName? (name.toList ++ rest) = some (name, rest) := by
  obtain ⟨c, more, same, bare⟩ := isBareName_iff.mp h
  obtain ⟨taken, left⟩ := split_run bare hrest
  have back : String.ofList (c :: more) = name := by rw [← same, String.ofList_toList]
  rw [same, readName?]
  · simp only [taken, left, back, List.isEmpty_cons, Bool.false_eq_true, if_false]
  all_goals
    intro t quote
    obtain ⟨first, -⟩ := List.cons.inj quote
    exact absurd first (ne_of_isBareChar (bare c (by simp)) (by decide))

/-- A single name is read as a key, with the blanks behind it, unless a dot follows. -/
theorem readKey?_bare {name : String} (h : isBareName name = true) {rest : List Char}
    (hrest : ∀ c, rest.head? = some c → isBareChar c = false)
    (hdot : (skipBlanks rest).head? ≠ some '.') :
    readKey? (name.toList ++ rest) = some (.single name, skipBlanks rest) := by
  have start : skipBlanks (name.toList ++ rest) = name.toList ++ rest := by
    obtain ⟨c, more, same, bare⟩ := isBareName_iff.mp h
    refine skipBlanks_eq_self fun d first => ?_
    rw [same] at first
    obtain rfl : c = d := by simpa using first
    have space : c ≠ ' ' := ne_of_isBareChar (bare c (by simp)) (by decide)
    have tab : c ≠ '\t' := ne_of_isBareChar (bare c (by simp)) (by decide)
    simp [isBlank, space, tab]
  have names : readNames? (nestingLimit - 2) (name.toList ++ rest) =
      some ([name], skipBlanks rest) := by
    rw [readNames?, start, readName?_bare h hrest, Option.bind_eq_bind, Option.bind_some]
    dsimp only
    split
    · next dot => exact absurd (by rw [dot]; rfl) hdot
    · rfl
  rw [readKey?, names]
  rfl

/-! ## Statements -/

/-- The statement is read as it is written: its key is one name that needs no quotes, and its value
is legible. -/
inductive Statement.Legible : Statement → Prop
  | table {name : String} (bare : isBareName name = true) : Legible (.table (.single name))
  | element {name : String} (bare : isBareName name = true) : Legible (.element (.single name))
  | entry {name : String} {value : Value} (bare : isBareName name = true)
      (legible : value.Legible) : Legible (.entry (.single name) value)

/-- The line of a statement without its end. -/
def Statement.line : Statement → List Char
  | .table key => ['['] ++ writeKey key ++ [']']
  | .element key => ['[', '['] ++ writeKey key ++ [']', ']']
  | .entry key value => writeKey key ++ [' ', '=', ' '] ++ writeValue value

/-- The empty line that stands before a header, unless it is the first statement. -/
def Statement.gap (first : Bool) : Statement → List Char
  | .entry _ _ => []
  | _ => if first then [] else ['\n']

theorem writeStatement_eq (first : Bool) (s : Statement) :
    writeStatement first s = s.gap first ++ (s.line ++ ['\n']) := by
  cases s <;> simp [writeStatement, Statement.gap, Statement.line]

theorem writeKey_single {name : String} (h : isBareName name = true) :
    writeKey (.single name) = name.toList := by
  have key : writeKey (.single name) = writeName name := by
    simp [writeKey, Key.single, Key.names]
  rw [key, writeName_bare h]

/-- A line begins with a bracket, with two brackets, or with the character of a name. -/
theorem Statement.Legible.head {s : Statement} (h : s.Legible) :
    ∃ c t, s.line = c :: t ∧ (c = '[' ∨ isBareChar c = true) := by
  cases h with
  | table bare => exact ⟨'[', _, rfl, .inl rfl⟩
  | element bare => exact ⟨'[', _, rfl, .inl rfl⟩
  | @entry name value bare legible =>
      obtain ⟨c, more, same, all⟩ := isBareName_iff.mp bare
      refine ⟨c, more ++ [' ', '=', ' '] ++ writeValue value, ?_, .inr (all c (by simp))⟩
      rw [Statement.line, writeKey_single bare, same, List.cons_append, List.cons_append]

/-- A key in brackets is read up to its bracket. -/
theorem readKey?_bracket {name : String} (h : isBareName name = true) (rest : List Char) :
    readKey? (name.toList ++ ']' :: rest) = some (.single name, ']' :: rest) := by
  have stop : skipBlanks (']' :: rest) = ']' :: rest :=
    skipBlanks_eq_self (by simp [isBlank])
  rw [readKey?_bare h (by simp; decide) (by rw [stop]; simp), stop]

/-- **A line is read as its statement.** -/
theorem readStatement?_line {s : Statement} (h : s.Legible) (rest : List Char) :
    readStatement? (s.line ++ '\n' :: rest) = some (s, '\n' :: rest) := by
  cases h with
  | @table name bare =>
      obtain ⟨c, more, same, all⟩ := isBareName_iff.mp bare
      have bracket : c ≠ '[' := ne_of_isBareChar (all c (by simp)) (by decide)
      have text : (Statement.table (.single name)).line ++ '\n' :: rest =
          '[' :: (name.toList ++ ']' :: '\n' :: rest) := by
        simp [Statement.line, writeKey_single bare]
      have key := readKey?_bracket bare ('\n' :: rest)
      rw [text, readStatement?]
      · rw [key]
        rfl
      · intro r header
        rw [same] at header
        exact bracket (List.cons.inj header).1
  | @element name bare =>
      have text : (Statement.element (.single name)).line ++ '\n' :: rest =
          '[' :: '[' :: (name.toList ++ ']' :: ']' :: '\n' :: rest) := by
        simp [Statement.line, writeKey_single bare]
      rw [text, readStatement?, readKey?_bracket bare]
      rfl
  | @entry name value bare legible =>
      obtain ⟨c, more, same, all⟩ := isBareName_iff.mp bare
      have bracket : c ≠ '[' := ne_of_isBareChar (all c (by simp)) (by decide)
      have text : (Statement.entry (.single name) value).line ++ '\n' :: rest =
          name.toList ++ ' ' :: '=' :: ' ' :: (writeValue value ++ '\n' :: rest) := by
        simp [Statement.line, writeKey_single bare]
      have stop : skipBlanks (' ' :: '=' :: ' ' :: (writeValue value ++ '\n' :: rest)) =
          '=' :: ' ' :: (writeValue value ++ '\n' :: rest) := by
        rw [skipBlanks_space]
        exact skipBlanks_eq_self (by simp [isBlank])
      have key : readKey? (name.toList ++ ' ' :: '=' :: ' ' :: (writeValue value ++ '\n' :: rest)) =
          some (.single name, '=' :: ' ' :: (writeValue value ++ '\n' :: rest)) := by
        rw [readKey?_bare bare (by simp; decide) (by rw [stop]; simp), stop]
      rw [text, readStatement?]
      · have sign (t : List Char) : expect? '=' ('=' :: t) = some t := by simp [expect?]
        simp only [key, sign, skipBlanks_space, legible.read, Option.bind_eq_bind, Option.bind_some]
        rfl
      · intro r header
        rw [same] at header
        exact bracket (List.cons.inj header).1
      · intro r header
        rw [same] at header
        exact bracket (List.cons.inj header).1

/-! ## Documents -/

theorem unifyLineEnds_eq_self {t : List Char} (h : '\r' ∉ t) : unifyLineEnds t = t := by
  induction t with
  | nil => rfl
  | cons c more ih =>
      obtain ⟨head, tail⟩ := List.ne_and_not_mem_of_not_mem_cons h
      rw [unifyLineEnds, ih tail]
      rintro r rfl
      exact absurd rfl head

/-- A line is left behind as its statement. -/
theorem readLines?_line {s : Statement} (h : s.Legible) (fuel : Nat) (rest : List Char) :
    readLines? (fuel + 1) (s.line ++ '\n' :: rest) = (readLines? fuel rest).map (s :: ·) := by
  obtain ⟨c, t, same, first⟩ := h.head
  have other {d : Char} (bracket : '[' ≠ d) (bare : isBareChar d = false) : c ≠ d := by
    rcases first with rfl | first
    · exact bracket
    · exact ne_of_isBareChar first bare
  have start : skipBlanks (s.line ++ '\n' :: rest) = s.line ++ '\n' :: rest := by
    refine skipBlanks_eq_self fun d head => ?_
    obtain rfl : c = d := by simpa [same] using head
    have space : c ≠ ' ' := other (by decide) (by decide)
    have tab : c ≠ '\t' := other (by decide) (by decide)
    simp [isBlank, space, tab]
  have statement := readStatement?_line h rest
  rw [readLines?, start]
  split
  · next empty => simp [same] at empty
  · next comment =>
      rw [same] at comment
      exact absurd (List.cons.inj comment).1 (other (by decide) (by decide))
  · next blank =>
      rw [same] at blank
      exact absurd (List.cons.inj blank).1 (other (by decide) (by decide))
  · rw [statement, Option.bind_eq_bind, Option.bind_some]
    dsimp only
    rw [afterLine?, Option.bind_eq_bind, Option.bind_some]
    cases readLines? fuel rest <;> rfl

theorem readLines?_blank (fuel : Nat) (rest : List Char) :
    readLines? (fuel + 1) ('\n' :: rest) = readLines? fuel rest := by
  rw [readLines?, skipBlanks_eq_self (by simp [isBlank])]
  rfl

/-- A written statement is left behind as it is, whether there is a gap before it or not. -/
theorem readLines?_writeStatement {s : Statement} (h : s.Legible) (first : Bool) {rest : List Char}
    {fuel : Nat} (enough : (writeStatement first s ++ rest).length < fuel) :
    ∃ left, rest.length < left ∧
      readLines? fuel (writeStatement first s ++ rest) = (readLines? left rest).map (s :: ·) := by
  have text : writeStatement first s ++ rest = s.gap first ++ (s.line ++ '\n' :: rest) := by
    simp [writeStatement_eq]
  have gap : s.gap first = [] ∨ s.gap first = ['\n'] := by
    cases s <;> cases first <;> simp [Statement.gap]
  rw [text] at enough ⊢
  rcases gap with gap | gap
  · rw [gap, List.nil_append] at enough ⊢
    obtain ⟨left, rfl⟩ : ∃ left, fuel = left + 1 := ⟨fuel - 1, by omega⟩
    refine ⟨left, ?_, readLines?_line h left rest⟩
    simp only [List.length_append, List.length_cons] at enough
    omega
  · rw [gap] at enough ⊢
    simp only [List.length_append, List.length_cons, List.length_nil] at enough
    obtain ⟨left, rfl⟩ : ∃ left, fuel = left + 1 + 1 := ⟨fuel - 2, by omega⟩
    refine ⟨left, by omega, ?_⟩
    rw [List.singleton_append, readLines?_blank]
    exact readLines?_line h left rest

theorem readLines?_write {statements : List Statement} (h : ∀ s ∈ statements, s.Legible)
    {fuel : Nat} (enough : (statements.flatMap (writeStatement false)).length < fuel) :
    readLines? fuel (statements.flatMap (writeStatement false)) = some statements := by
  induction statements generalizing fuel with
  | nil =>
      obtain ⟨left, rfl⟩ : ∃ left, fuel = left + 1 := ⟨fuel - 1, by omega⟩
      rfl
  | cons s more ih =>
      rw [List.flatMap_cons] at enough ⊢
      obtain ⟨left, rest, read⟩ := readLines?_writeStatement (h s (by simp)) false enough
      rw [read, ih (fun s hs => h s (List.mem_cons_of_mem _ hs)) rest]
      rfl

theorem Statement.Legible.return_not_mem {s : Statement} (h : s.Legible) (first : Bool) :
    '\r' ∉ writeStatement first s := by
  have name {name : String} (bare : isBareName name = true) : '\r' ∉ name.toList := by
    obtain ⟨c, more, same, all⟩ := isBareName_iff.mp bare
    rw [same]
    intro inside
    exact absurd (all _ inside) (by decide)
  have gap : '\r' ∉ s.gap first := by cases s <;> cases first <;> simp [Statement.gap]
  have line : '\r' ∉ s.line := by
    cases h with
    | table bare => simp [Statement.line, writeKey_single bare, name bare]
    | element bare => simp [Statement.line, writeKey_single bare, name bare]
    | entry bare legible =>
        simp [Statement.line, writeKey_single bare, name bare, legible.no_return]
  simp [writeStatement_eq, gap, line]

/-- A document begins with a bracket or a name, and so with no byte order mark. -/
theorem dropMark_eq_self {s : Statement} (h : s.Legible) (rest : List Char) :
    dropMark (writeStatement true s ++ rest) = writeStatement true s ++ rest := by
  obtain ⟨c, t, same, first⟩ := h.head
  have gap : s.gap true = [] := by cases s <;> rfl
  have mark : c.toNat ≠ 0xFEFF := by
    intro mark
    have same : c = Char.ofNat 0xFEFF := by rw [← mark, Char.ofNat_toNat]
    subst same
    exact absurd first (by decide)
  rw [writeStatement_eq, gap, same]
  exact if_neg mark

/-- **A document is read as its statements.** -/
theorem readStatements?_write {statements : List Statement} (h : ∀ s ∈ statements, s.Legible) :
    readStatements? (write statements) = some statements := by
  cases statements with
  | nil => rfl
  | cons s more =>
      have clean : '\r' ∉ writeStatement true s ++ more.flatMap (writeStatement false) := by
        intro inside
        rcases List.mem_append.mp inside with inside | inside
        · exact (h s (by simp)).return_not_mem true inside
        · obtain ⟨t, ht, inside⟩ := List.mem_flatMap.mp inside
          exact (h t (List.mem_cons_of_mem _ ht)).return_not_mem false inside
      have enough : (writeStatement true s ++ more.flatMap (writeStatement false)).length <
          (write (s :: more)).length + 1 := by
        simp [write]
      obtain ⟨left, rest, read⟩ := readLines?_writeStatement (h s (by simp)) true enough
      have later := readLines?_write (fun s hs => h s (List.mem_cons_of_mem _ hs)) rest
      rw [readStatements?]
      rw [write, String.toList_ofList, dropMark_eq_self (h s (by simp)),
        unifyLineEnds_eq_self clean]
      rw [write] at read
      rw [read, later]
      rfl

end Livecast.Toml
