/-!
# Blank characters and trimming

The blank characters are those with the Unicode property `White_Space`.  Every text format of the
library trims with this one class, so that a no-break space or an ideographic space counts as blank
wherever a plain space does.

## Main Definitions

* `isBlank` - membership in `White_Space`
* `trimStart`, `trimEnd`, `trim` - a text without the blanks at its start, its end, or both

## Main Statements

* `trimStart_append_of_blank` - blanks put in front are dropped
* `trim_eq_self` - a text that neither starts nor ends with a blank is left alone
-/

namespace Livecast.Text

/-- The inclusive code point ranges of the Unicode property `White_Space`. -/
def blankRanges : List (Nat × Nat) :=
  [(0x0009, 0x000D), (0x0020, 0x0020), (0x0085, 0x0085), (0x00A0, 0x00A0), (0x1680, 0x1680),
   (0x2000, 0x200A), (0x2028, 0x2029), (0x202F, 0x202F), (0x205F, 0x205F), (0x3000, 0x3000)]

/-- A character is blank when its code point lies in one of the ranges of `White_Space`. -/
def isBlank (c : Char) : Bool :=
  blankRanges.any fun (low, high) => low ≤ c.toNat && c.toNat ≤ high

/-- The text without the characters at its end that satisfy `p`. -/
def dropEndWhile (p : Char → Bool) (t : List Char) : List Char :=
  (t.reverse.dropWhile p).reverse

/-- The text from its first character that is not blank. -/
def trimStart (t : List Char) : List Char :=
  t.dropWhile isBlank

/-- The text up to its last character that is not blank. -/
def trimEnd (t : List Char) : List Char :=
  dropEndWhile isBlank t

/-- The text without the blanks at its start and its end. -/
def trim (t : List Char) : List Char :=
  trimEnd (trimStart t)

@[simp] theorem trim_nil : trim [] = [] := rfl

/-- Blanks put in front of a text do not change what is left after trimming its start. -/
theorem trimStart_append_of_blank {b t : List Char} (h : ∀ c ∈ b, isBlank c = true) :
    trimStart (b ++ t) = trimStart t := by
  induction b with
  | nil => rfl
  | cons c r ih =>
    have hc : isBlank c = true := h c (by simp)
    have hr : ∀ x ∈ r, isBlank x = true := fun x hx => h x (by simp [hx])
    simpa [trimStart, List.dropWhile_cons, hc] using ih hr

/-- Trimming the start leaves a text alone that does not start with a blank. -/
theorem trimStart_eq_self {t : List Char} (h : ∀ c, t.head? = some c → isBlank c = false) :
    trimStart t = t := by
  cases t with
  | nil => rfl
  | cons c r => simp [trimStart, h c rfl]

/-- Trimming the end leaves a text alone that does not end with a blank. -/
theorem trimEnd_eq_self {t : List Char} (h : ∀ c, t.getLast? = some c → isBlank c = false) :
    trimEnd t = t := by
  have hr : trimStart t.reverse = t.reverse :=
    trimStart_eq_self fun c hc => h c (by simpa using hc)
  simpa [trimEnd, dropEndWhile, trimStart] using congrArg List.reverse hr

/-- A text that neither starts nor ends with a blank is its own trimmed form. -/
theorem trim_eq_self {t : List Char} (first : ∀ c, t.head? = some c → isBlank c = false)
    (last : ∀ c, t.getLast? = some c → isBlank c = false) : trim t = t := by
  rw [trim, trimStart_eq_self first, trimEnd_eq_self last]

end Livecast.Text
