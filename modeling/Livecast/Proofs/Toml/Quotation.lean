import Livecast.Toml.Quoted

/-!
# Every text survives its quotation

A text is quoted in one of four forms.  Between single quotes it stands as it is, between double
quotes a few characters are escaped.  On one line the first quote is the end of the text.  A text of
any lines ends with three quotes, before which up to two more still belong to it, so there the
reader has to look at the whole run of quotes; that run is too short to be an end unless nothing but
quotes is left of the text.

## Main Definitions

* `Toml.BasicSpelling` - how a character is spelled between double quotes

## Main Statements

* `Toml.closing?_replicate`, `Toml.closing?_eq_none` - where the reader sees the end of a text
* `Toml.basicBody?_spelled`, `Toml.spelling_escapeChar` - a spelled character is read as this one
* `Toml.basicBody?_escaped`, `Toml.literalBody?_literal` - what is read on one line
* `Toml.basicBody?_escapedLines`, `Toml.literalBody?_literalLines` - what is read on any lines
* `Toml.readQuoted?_writeQuoted` - a quoted text is read as this text
-/

namespace Livecast.Toml

open Livecast.Text

/-! ## Runs of quotes -/

@[simp] theorem quoteRun_cons_self (q : Char) (t : List Char) :
    quoteRun q (q :: t) = quoteRun q t + 1 := by
  simp [quoteRun]

theorem quoteRun_of_head_ne {q : Char} {t : List Char} (h : t.head? ≠ some q) :
    quoteRun q t = 0 := by
  cases t with
  | nil => rfl
  | cons c rest =>
      have hc : c ≠ q := by simpa using h
      simp [quoteRun, hc]

theorem quoteRun_replicate {q : Char} {rest : List Char} (hrest : rest.head? ≠ some q) (n : Nat) :
    quoteRun q (List.replicate n q ++ rest) = n := by
  induction n with
  | zero => exact quoteRun_of_head_ne hrest
  | succ n ih => rw [List.replicate_succ, List.cons_append, quoteRun_cons_self, ih]

/-- No text ends here: there is no quote, or too few for a text of any lines. -/
theorem closing?_eq_none {q : Char} {lines : Bool} {t : List Char}
    (h : quoteRun q t < if lines then 3 else 1) : closing? q lines t = none := by
  cases lines with
  | true => rw [closing?, if_pos rfl, if_pos (by simpa using h)]
  | false => rw [closing?, if_neg (by simp), if_pos (by simpa using h)]

theorem closing?_of_head_ne {q : Char} {t : List Char} (lines : Bool) (h : t.head? ≠ some q) :
    closing? q lines t = none :=
  closing?_eq_none (by rw [quoteRun_of_head_ne h]; cases lines <;> decide)

/-- On one line the first quote ends a text. -/
theorem closing?_quote (q : Char) (rest : List Char) :
    closing? q false (q :: rest) = some ([], rest) := by
  simp [closing?]

/-- **A text of any lines ends with three quotes**; up to two before them belong to it. -/
theorem closing?_replicate {q : Char} {n : Nat} (hn : n ≤ 2) {rest : List Char}
    (hrest : rest.head? ≠ some q) :
    closing? q true (List.replicate n q ++ (q :: q :: q :: rest)) =
      some (List.replicate n q, rest) := by
  have whole : List.replicate n q ++ (q :: q :: q :: rest) = List.replicate (n + 3) q ++ rest := by
    rw [← List.replicate_append_replicate, List.append_assoc]
    rfl
  have run : quoteRun q (List.replicate (n + 3) q ++ rest) = n + 3 := quoteRun_replicate hrest _
  have kept : min (n + 3 - 3) 2 = n := by omega
  rw [whole, closing?, if_pos rfl, run, if_neg (by omega), kept]
  simp

/-! ## One character -/

theorem isPrintable_of_not_needsEscape {c : Char} (hline : c ≠ '\n') (h : needsEscape c = false) :
    isPrintable c = true := by
  by_cases tab : c = '\t'
  · simp [isPrintable, tab]
  · simpa [isPrintable, needsEscape, tab, hline] using h

/-- A small number is read from its four digits. -/
theorem codePoint?_upperHexDigits {n : Nat} (h : n < 128) :
    codePoint? ['0', '0', upperHexDigit (n / 16), upperHexDigit (n % 16)] =
      some (Char.ofNat n) := by
  have high : hexValue? (upperHexDigit (n / 16)) = some (n / 16) :=
    hexValue?_upperHexDigit (by omega)
  have low : hexValue? (upperHexDigit (n % 16)) = some (n % 16) :=
    hexValue?_upperHexDigit (by omega)
  have number : 16 * (n / 16) + n % 16 = n := by omega
  have valid : n.isValidChar := .inl (by omega)
  simp only [codePoint?, hexNumber?_byte high low, number, Option.bind_eq_bind, Option.bind_some]
  exact if_pos valid

/-- **How a character is spelled between double quotes**: as it is, with a letter after a backslash,
or with the number of its code point. -/
inductive BasicSpelling (lines : Bool) : List Char → Char → Prop
  /-- The character stands for itself. -/
  | plain {c : Char} (hslash : c ≠ '\\') (h : isPrintable c = true ∨ lines = true ∧ c = '\n') :
      BasicSpelling lines [c] c
  /-- A letter stands for it. -/
  | letter {e x : Char} (h : escaped? e = some x) (hu : e ≠ 'u') (hU : e ≠ 'U') :
      BasicSpelling lines ['\\', e] x
  /-- Its number stands for it. -/
  | number {c : Char} (h : c.toNat < 128) :
      BasicSpelling lines ['\\', 'u', '0', '0', upperHexDigit (c.toNat / 16),
        upperHexDigit (c.toNat % 16)] c

/-- **However a character is spelled, it is read as this character**, unless the text ends here. -/
theorem basicBody?_spelled {lines : Bool} {s t : List Char} {c : Char}
    (h : BasicSpelling lines s c) (hopen : closing? '"' lines (s ++ t) = none) :
    basicBody? lines false (s ++ t) = consRead c (basicBody? lines false t) := by
  cases h with
  | plain hslash h =>
      rw [List.singleton_append] at hopen ⊢
      rw [basicBody?, hopen]
      · have stands : (c ≠ '\\' && (isPrintable c || (lines && c = '\n'))) = true := by
          rcases h with h | ⟨hlines, rfl⟩
          · simp [hslash, h]
          · simp [hlines]
        simp only [Bool.false_and, Bool.false_eq_true, if_false, stands, if_true]
      all_goals
        intros
        contradiction
  | letter h hu hU =>
      simp only [List.cons_append, List.nil_append] at hopen ⊢
      rw [basicBody?, hopen]
      · simp only [h]
      all_goals
        intros
        contradiction
  | number h =>
      simp only [List.cons_append, List.nil_append] at hopen ⊢
      rw [basicBody?, hopen]
      simp only [codePoint?_upperHexDigits h, Char.ofNat_toNat]

/-- The characters that are escaped with a letter. -/
def hasLetter (lines : Bool) (c : Char) : Bool :=
  c ∈ ['\x08', '\t', '\x0c', '\r', '\\'] || (c = '\n' && !lines)

/-- An escaped character is spelled as the reader wants it. -/
theorem spelling_escapeChar (lines : Bool) (c : Char) :
    BasicSpelling lines (escapeChar lines c) c := by
  by_cases letter : hasLetter lines c = true
  · have escape : ∃ e, escapeChar lines c = ['\\', e] ∧ escaped? e = some c ∧
        e ≠ 'u' ∧ e ≠ 'U' := by
      simp only [hasLetter, List.mem_cons, List.not_mem_nil, or_false, Bool.or_eq_true,
        decide_eq_true_eq, Bool.and_eq_true, Bool.not_eq_true'] at letter
      rcases letter with (rfl | rfl | rfl | rfl | rfl) | ⟨rfl, rfl⟩
      all_goals exact ⟨_, rfl, by decide, by decide, by decide⟩
    obtain ⟨e, escaped, read, hu, hU⟩ := escape
    rw [escaped]
    exact .letter read hu hU
  · simp only [hasLetter, List.mem_cons, List.not_mem_nil, or_false, Bool.or_eq_true,
      decide_eq_true_eq, Bool.and_eq_true, Bool.not_eq_true', not_or, not_and] at letter
    obtain ⟨⟨b, tab, f, r, slash⟩, newline⟩ := letter
    by_cases number : c ≠ '\n' ∧ needsEscape c = true
    · have small : c.toNat < 128 := by
        have := number.2
        simp only [needsEscape, Bool.or_eq_true, Bool.and_eq_true, decide_eq_true_eq] at this
        omega
      have escaped : escapeChar lines c = ['\\', 'u', '0', '0', upperHexDigit (c.toNat / 16),
          upperHexDigit (c.toNat % 16)] := by
        simp [escapeChar, b, tab, f, r, slash, number]
      rw [escaped]
      exact .number small
    · have stands : escapeChar lines c = [c] ∧
          (isPrintable c = true ∨ lines = true ∧ c = '\n') := by
        by_cases end_of_line : c = '\n'
        · have several : lines = true := by simpa using newline end_of_line
          subst end_of_line several
          exact ⟨rfl, .inr ⟨rfl, rfl⟩⟩
        · have printable : isPrintable c = true := isPrintable_of_not_needsEscape end_of_line
            (by simpa [end_of_line] using number)
          have unescaped : needsEscape c = false := by simpa [end_of_line] using number
          exact ⟨by simp [escapeChar, b, tab, f, r, slash, end_of_line, unescaped], .inl printable⟩
      rw [stands.1]
      exact .plain slash stands.2

/-- An escaped character begins with itself or with a backslash. -/
theorem head?_escapeChar {lines : Bool} {c d : Char} (h : c ≠ d) (hd : '\\' ≠ d) (t : List Char) :
    (escapeChar lines c ++ t).head? ≠ some d := by
  unfold escapeChar
  repeat' split
  all_goals simp_all

/-- **A character other than a quote is read as itself**, escaped or not. -/
theorem basicBody?_escapeChar {lines : Bool} {c : Char} (hquote : c ≠ '"') (t : List Char) :
    basicBody? lines false (escapeChar lines c ++ t) = consRead c (basicBody? lines false t) :=
  basicBody?_spelled (spelling_escapeChar lines c)
    (closing?_of_head_ne lines (head?_escapeChar hquote (by decide) t))

/-! ## Texts between double quotes -/

/-- A text ends where its end is seen. -/
theorem basicBody?_of_closing {lines skipping : Bool} {t : List Char}
    {done : List Char × List Char} (h : closing? '"' lines t = some done) :
    basicBody? lines skipping t = some done := by
  unfold basicBody?
  rw [h]

theorem escapeText_raw {run : Nat} (h : run < 2) (t : List Char) :
    escapeText true run ('"' :: t) = '"' :: escapeText true (run + 1) t := by
  simp [escapeText, h]

theorem escapeText_quote {lines : Bool} {run : Nat} (h : lines = true → 2 ≤ run) (t : List Char) :
    escapeText lines run ('"' :: t) = ['\\', '"'] ++ escapeText lines 0 t := by
  have enough : ¬ (lines && decide (run < 2)) = true := by
    intro few
    simp only [Bool.and_eq_true, decide_eq_true_eq] at few
    have := h few.1
    omega
  rw [escapeText, if_pos rfl, if_neg enough]
  rfl

theorem escapeText_char {lines : Bool} {c : Char} (h : c ≠ '"') (run : Nat) (t : List Char) :
    escapeText lines run (c :: t) = escapeChar lines c ++ escapeText lines 0 t := by
  rw [escapeText, if_neg h]

/-- An escaped quote is read as a quote. -/
theorem basicBody?_quote (lines : Bool) (t : List Char) :
    basicBody? lines false (['\\', '"'] ++ t) = consRead '"' (basicBody? lines false t) :=
  basicBody?_spelled (.letter (by decide) (by decide) (by decide))
    (closing?_of_head_ne lines (by simp))

/-- **On one line an escaped text is read as this text.** -/
theorem basicBody?_escaped (t rest : List Char) (run : Nat) :
    basicBody? false false (escapeText false run t ++ '"' :: rest) = some (t, rest) := by
  induction t generalizing run with
  | nil => exact basicBody?_of_closing (closing?_quote '"' rest)
  | cons c more ih =>
      by_cases quote : c = '"'
      · rw [quote, escapeText_quote (by simp), List.append_assoc, basicBody?_quote, ih 0]
        rfl
      · rw [escapeText_char quote, List.append_assoc, basicBody?_escapeChar quote, ih 0]
        rfl

/-- Quotes at the start of an escaped text of any lines, when `run` unescaped ones stand before it:
either there are too few of them for an end of the text, or nothing but them is left. -/
theorem quoteRun_escapeText (t rest : List Char) (run : Nat) :
    quoteRun '"' (escapeText true run t ++ '"' :: '"' :: '"' :: rest) ≤ 2 - run ∨
      t.length ≤ 2 - run ∧ t = List.replicate t.length '"' ∧ escapeText true run t = t := by
  induction t generalizing run with
  | nil => exact .inr ⟨Nat.zero_le _, rfl, rfl⟩
  | cons c more ih =>
      by_cases quote : c = '"'
      · subst quote
        by_cases few : run < 2
        · rw [escapeText_raw few, List.cons_append, quoteRun_cons_self]
          rcases ih (run + 1) with short | ⟨len, only, same⟩
          · exact .inl (by omega)
          · refine .inr ⟨?_, ?_, by rw [same]⟩
            · rw [List.length_cons]
              omega
            · rw [List.length_cons, List.replicate_succ, ← only]
        · rw [escapeText_quote (fun _ => by omega), List.append_assoc,
            quoteRun_of_head_ne (by simp)]
          exact .inl (Nat.zero_le _)
      · rw [escapeText_char quote, List.append_assoc,
          quoteRun_of_head_ne (head?_escapeChar quote (by decide) _)]
        exact .inl (Nat.zero_le _)

/-- **On any lines an escaped text is read as this text**, however many unescaped quotes stand
before it. -/
theorem basicBody?_escapedLines {rest : List Char} (hrest : rest.head? ≠ some '"')
    (t : List Char) (run : Nat) :
    basicBody? true false (escapeText true run t ++ '"' :: '"' :: '"' :: rest) =
      some (t, rest) := by
  induction t generalizing run with
  | nil => exact basicBody?_of_closing (closing?_replicate (Nat.zero_le 2) hrest)
  | cons c more ih =>
      rcases quoteRun_escapeText (c :: more) rest run with short | ⟨len, only, same⟩
      · by_cases quote : c = '"'
        · subst quote
          by_cases few : run < 2
          · have few_quotes : 2 - run < if true then 3 else 1 := by
              rw [if_pos rfl]
              omega
            have opened := closing?_eq_none (Nat.lt_of_le_of_lt short few_quotes)
            rw [escapeText_raw few, List.cons_append] at opened ⊢
            have itself : BasicSpelling true ['"'] '"' := .plain (by decide) (.inl (by decide))
            rw [← List.singleton_append] at opened ⊢
            rw [basicBody?_spelled itself opened, ih (run + 1)]
            rfl
          · rw [escapeText_quote (fun _ => by omega), List.append_assoc, basicBody?_quote, ih 0]
            rfl
        · rw [escapeText_char quote, List.append_assoc, basicBody?_escapeChar quote, ih 0]
          rfl
      · -- nothing but quotes is left: the text ends here, and they belong to it
        have ends := closing?_replicate (Nat.le_trans len (Nat.sub_le 2 run)) hrest
        rw [← only] at ends
        rw [same]
        exact basicBody?_of_closing ends

/-! ## Texts between single quotes -/

/-- A text ends where its end is seen. -/
theorem literalBody?_of_closing {lines : Bool} {t : List Char} {done : List Char × List Char}
    (h : closing? '\x27' lines t = some done) : literalBody? lines t = some done := by
  unfold literalBody?
  rw [h]

/-- A character is read as itself, unless the text ends here. -/
theorem literalBody?_plain {lines : Bool} {c : Char} {t : List Char}
    (hopen : closing? '\x27' lines (c :: t) = none)
    (h : isPrintable c = true ∨ lines = true ∧ c = '\n') :
    literalBody? lines (c :: t) = consRead c (literalBody? lines t) := by
  have stands : (isPrintable c || (lines && c = '\n')) = true := by
    rcases h with h | ⟨hlines, rfl⟩
    · simp [h]
    · simp [hlines]
  rw [literalBody?, hopen]
  exact if_pos stands

/-- **On one line a text without single quotes is read as it stands.** -/
theorem literalBody?_literal {t : List Char} (rest : List Char)
    (h : ∀ c ∈ t, c ≠ '\x27' ∧ isPrintable c = true) :
    literalBody? false (t ++ '\x27' :: rest) = some (t, rest) := by
  induction t with
  | nil => exact literalBody?_of_closing (closing?_quote '\x27' rest)
  | cons c more ih =>
      obtain ⟨quote, printable⟩ := h c (by simp)
      have opened : closing? '\x27' false (c :: (more ++ '\x27' :: rest)) = none :=
        closing?_of_head_ne false (by simpa using quote)
      rw [List.cons_append, literalBody?_plain opened (.inl printable),
        ih fun d hd => h d (List.mem_cons_of_mem _ hd)]
      rfl

theorem longestRun_mono (q : Char) (t : List Char) {run more : Nat} (h : run ≤ more) :
    longestRun q run t ≤ longestRun q more t := by
  induction t generalizing run more with
  | nil => exact h
  | cons c rest ih =>
      by_cases quote : c = q
      · simpa [longestRun, quote] using ih (Nat.succ_le_succ h)
      · simp only [longestRun, quote, if_false]
        omega

/-- The quotes before a text belong to its first run. -/
theorem le_longestRun (q : Char) (t : List Char) (run : Nat) : run ≤ longestRun q run t := by
  induction t generalizing run with
  | nil => exact Nat.le_refl run
  | cons c rest ih =>
      rw [longestRun]
      split
      · exact Nat.le_of_succ_le (ih (run + 1))
      · exact Nat.le_max_left _ _

/-- The longest run of a text is at least that of what is left of it. -/
theorem longestRun_tail (q c : Char) (t : List Char) :
    longestRun q 0 t ≤ longestRun q 0 (c :: t) := by
  by_cases quote : c = q
  · simpa [longestRun, quote] using longestRun_mono q t (Nat.zero_le 1)
  · simp only [longestRun, quote, if_false]
    omega

/-- A text whose longest run is empty has no quote. -/
theorem ne_of_longestRun_eq_zero {q : Char} {t : List Char} (h : longestRun q 0 t = 0) :
    ∀ c ∈ t, c ≠ q := by
  induction t with
  | nil => simp
  | cons c rest ih =>
      have hc : c ≠ q := by
        intro quote
        have one := le_longestRun q rest (0 + 1)
        rw [longestRun, if_pos quote] at h
        omega
      intro d hd
      rcases List.mem_cons.mp hd with rfl | hd
      · exact hc
      · exact ih (by have := longestRun_tail q c rest; omega) d hd

/-- Quotes at the start of a text, when `run` of them stand before it: either they are among its
longest run, or nothing but them is left. -/
theorem quoteRun_literal (q : Char) (t rest : List Char) (run : Nat) :
    run + quoteRun q (t ++ q :: q :: q :: rest) ≤ longestRun q run t ∨
      t = List.replicate t.length q ∧ longestRun q run t = run + t.length := by
  induction t generalizing run with
  | nil => exact .inr ⟨rfl, rfl⟩
  | cons c more ih =>
      by_cases quote : c = q
      · subst quote
        rw [List.cons_append, quoteRun_cons_self, longestRun, if_pos rfl]
        rcases ih (run + 1) with short | ⟨only, long⟩
        · exact .inl (by omega)
        · refine .inr ⟨?_, ?_⟩
          · rw [List.length_cons, List.replicate_succ, ← only]
          · rw [long, List.length_cons]
            omega
      · rw [List.cons_append, quoteRun_of_head_ne (by simpa using quote), longestRun, if_neg quote]
        exact .inl (Nat.le_max_left _ _)

/-- **On any lines a text without three single quotes in a row is read as it stands.** -/
theorem literalBody?_literalLines {t rest : List Char} (hrest : rest.head? ≠ some '\x27')
    (hrun : longestRun '\x27' 0 t < 3) (h : ∀ c ∈ t, isPrintable c = true ∨ c = '\n') :
    literalBody? true (t ++ '\x27' :: '\x27' :: '\x27' :: rest) = some (t, rest) := by
  induction t with
  | nil => exact literalBody?_of_closing (closing?_replicate (Nat.zero_le 2) hrest)
  | cons c more ih =>
      rcases quoteRun_literal '\x27' (c :: more) rest 0 with short | ⟨only, long⟩
      · have opened : closing? '\x27' true (c :: more ++ '\x27' :: '\x27' :: '\x27' :: rest) =
            none := by
          apply closing?_eq_none
          rw [if_pos rfl]
          omega
        have stands : isPrintable c = true ∨ true = true ∧ c = '\n' := by
          simpa using h c (by simp)
        have later := ih (Nat.lt_of_le_of_lt (longestRun_tail _ c more) hrun) fun d hd =>
          h d (List.mem_cons_of_mem _ hd)
        rw [List.cons_append] at opened ⊢
        rw [literalBody?_plain opened stands, later]
        rfl
      · -- nothing but quotes is left: the text ends here, and they belong to it
        have ends := closing?_replicate (q := '\x27') (n := (c :: more).length) (by omega) hrest
        rw [← only] at ends
        exact literalBody?_of_closing ends

/-! ## The four forms -/

/-- Whatever stands between quotes on one line is not taken for the beginning of three quotes. -/
theorem single_ne_three {q p : Char} {body rest r : List Char} (hbody : body.head? ≠ some q)
    (hrest : rest.head? ≠ some q) : q :: (body ++ q :: rest) ≠ p :: p :: p :: r := by
  intro same
  obtain ⟨rfl, same⟩ := List.cons.inj same
  cases body with
  | nil =>
      obtain ⟨-, same⟩ := List.cons.inj same
      exact hrest (by rw [same]; rfl)
  | cons b more =>
      obtain ⟨rfl, -⟩ := List.cons.inj same
      exact hbody rfl

theorem readQuoted?_single {q : Char} {body rest : List Char} (hbody : body.head? ≠ some q)
    (hrest : rest.head? ≠ some q) :
    readQuoted? (q :: (body ++ q :: rest)) = readLineQuoted? (q :: (body ++ q :: rest)) := by
  unfold readQuoted?
  split
  · next same => exact absurd same (single_ne_three hbody hrest)
  · next same => exact absurd same (single_ne_three hbody hrest)
  · rfl

variable {rest : List Char}

/-- Double quotes on one line hold every text. -/
theorem readQuoted?_escaped (t : List Char) (hrest : rest.head? ≠ some '"') :
    readQuoted? (['"'] ++ escapeText false 0 t ++ ['"'] ++ rest) =
      some (String.ofList t, rest) := by
  have body : (escapeText false 0 t).head? ≠ some '"' := by
    cases t with
    | nil => simp [escapeText]
    | cons c more =>
        by_cases quote : c = '"'
        · rw [quote, escapeText_quote (by simp)]
          simp
        · rw [escapeText_char quote]
          exact head?_escapeChar quote (by decide) _
  have text : ['"'] ++ escapeText false 0 t ++ ['"'] ++ rest =
      '"' :: (escapeText false 0 t ++ '"' :: rest) := by simp
  rw [text, readQuoted?_single body hrest, readLineQuoted?, basicBody?_escaped]
  rfl

/-- Single quotes on one line hold a text without any of them. -/
theorem readQuoted?_literal {t : List Char} (h : ∀ c ∈ t, c ≠ '\x27' ∧ isPrintable c = true)
    (hrest : rest.head? ≠ some '\x27') :
    readQuoted? (['\x27'] ++ t ++ ['\x27'] ++ rest) = some (String.ofList t, rest) := by
  have body : t.head? ≠ some '\x27' := fun first => (h _ (List.mem_of_mem_head? first)).1 rfl
  have text : ['\x27'] ++ t ++ ['\x27'] ++ rest = '\x27' :: (t ++ '\x27' :: rest) := by simp
  rw [text, readQuoted?_single body hrest, readLineQuoted?, literalBody?_literal rest h]
  rfl

/-- A line end is put before a text of several lines, and is the one that is dropped. -/
theorem dropLineEnd_start {newline : Bool} {t : List Char}
    (h : newline = false → t.head? ≠ some '\n') :
    dropLineEnd ((if newline then ['\n'] else []) ++ t) = t := by
  cases newline with
  | true => rfl
  | false =>
      rw [if_neg (by simp), List.nil_append]
      unfold dropLineEnd
      split
      · exact absurd rfl (h rfl)
      · rfl

/-- Three double quotes hold every text. -/
theorem readQuoted?_escapedLines (t : List Char) (hrest : rest.head? ≠ some '"') :
    readQuoted? (['"', '"', '"'] ++ (if t.contains '\n' then ['\n'] else []) ++
      escapeText true 0 t ++ ['"', '"', '"'] ++ rest) = some (String.ofList t, rest) := by
  have start : t.contains '\n' = false →
      (escapeText true 0 t ++ '"' :: '"' :: '"' :: rest).head? ≠ some '\n' := by
    intro flat
    cases t with
    | nil => simp [escapeText]
    | cons c more =>
        have hc : c ≠ '\n' := by
          rintro rfl
          simp at flat
        by_cases quote : c = '"'
        · rw [quote, escapeText_raw (by decide)]
          simp
        · rw [escapeText_char quote, List.append_assoc]
          exact head?_escapeChar hc (by decide) _
  have text : ['"', '"', '"'] ++ (if t.contains '\n' then ['\n'] else []) ++ escapeText true 0 t ++
      ['"', '"', '"'] ++ rest = '"' :: '"' :: '"' :: ((if t.contains '\n' then ['\n'] else []) ++
        (escapeText true 0 t ++ '"' :: '"' :: '"' :: rest)) := by simp
  rw [text, readQuoted?, dropLineEnd_start start, basicBody?_escapedLines hrest]
  rfl

/-- Three single quotes hold a text without three of them in a row. -/
theorem readQuoted?_literalLines {t : List Char} (hrun : longestRun '\x27' 0 t < 3)
    (h : ∀ c ∈ t, isPrintable c = true ∨ c = '\n') (hrest : rest.head? ≠ some '\x27') :
    readQuoted? (['\x27', '\x27', '\x27'] ++ (if t.contains '\n' then ['\n'] else []) ++ t ++
      ['\x27', '\x27', '\x27'] ++ rest) = some (String.ofList t, rest) := by
  have start : t.contains '\n' = false →
      (t ++ '\x27' :: '\x27' :: '\x27' :: rest).head? ≠ some '\n' := by
    intro flat
    cases t with
    | nil => simp
    | cons c more =>
        intro first
        simp at first flat
        exact flat.1 first.symm
  have text : ['\x27', '\x27', '\x27'] ++ (if t.contains '\n' then ['\n'] else []) ++ t ++
      ['\x27', '\x27', '\x27'] ++ rest = '\x27' :: '\x27' :: '\x27' ::
        ((if t.contains '\n' then ['\n'] else []) ++
          (t ++ '\x27' :: '\x27' :: '\x27' :: rest)) := by
    simp
  rw [text, readQuoted?, dropLineEnd_start start, literalBody?_literalLines hrest hrun h]
  rfl

/-- **A quoted text is read as this text**, if no quote follows it. -/
theorem readQuoted?_writeQuoted (s : String) (hdouble : rest.head? ≠ some '"')
    (hsingle : rest.head? ≠ some '\x27') :
    readQuoted? (writeQuoted s ++ rest) = some (s, rest) := by
  have back : String.ofList s.toList = s := String.ofList_toList
  have printable (h : s.toList.any needsEscape = false) :
      ∀ c ∈ s.toList, isPrintable c = true ∨ c = '\n' := by
    intro c hc
    by_cases line : c = '\n'
    · exact .inr line
    · exact .inl (isPrintable_of_not_needsEscape line (by simpa using List.any_eq_false.mp h c hc))
  unfold writeQuoted
  dsimp only
  split
  · rw [readQuoted?_escaped _ hdouble, back]
  · split
    · next plain =>
        simp only [Bool.and_eq_true, Bool.not_eq_true', decide_eq_true_eq] at plain
        obtain ⟨⟨controls, line⟩, singles⟩ := plain
        have holds : ∀ c ∈ s.toList, c ≠ '\x27' ∧ isPrintable c = true := by
          intro c hc
          have flat : c ≠ '\n' := by
            rintro rfl
            simp [hc] at line
          have shown := (printable controls c hc).resolve_right flat
          exact ⟨ne_of_longestRun_eq_zero singles c hc, shown⟩
        rw [readQuoted?_literal holds hsingle, back]
    · split
      · rw [readQuoted?_escapedLines _ hdouble, back]
      · split
        · next plain =>
            simp only [Bool.and_eq_true, Bool.not_eq_true', decide_eq_true_eq] at plain
            rw [readQuoted?_literalLines plain.2 (printable plain.1) hsingle, back]
        · -- no form holds the text as it stands, so everything in it is escaped
          split
          · next line =>
              have several := readQuoted?_escapedLines s.toList hdouble
              rw [if_pos line] at several
              rw [several, back]
          · rw [readQuoted?_escaped _ hdouble, back]

end Livecast.Toml
