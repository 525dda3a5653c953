/-!
# Cutting texts at separators

Lists, sizes and paths are texts with separators.  A text is cut either once, at its first
separator, or at all of them.

## Main Definitions

* `cutAt?` - the text before and after the first separator
* `pieces` - the texts between all separators, never an empty list

## Main Statements

* `cutAt?_append` - the first separator is where the cut is made
* `pieces_append` - a separator between two texts keeps their pieces apart
-/

namespace Livecast.Text

/-- The text before and the text after the first character that satisfies `p`, if there is one. -/
def cutAt? (p : Char → Bool) : List Char → Option (List Char × List Char)
  | [] => none
  | c :: r =>
    if p c then some ([], r)
    else (cutAt? p r).map fun (before, after) => (c :: before, after)

/-- The texts between the characters that satisfy `p`, in order; a text without one is one piece. -/
def pieces (p : Char → Bool) : List Char → List (List Char)
  | [] => [[]]
  | c :: r =>
    if p c then [] :: pieces p r
    else match pieces p r with
      | [] => [[c]]
      | piece :: more => (c :: piece) :: more

/-- A text without a separator cannot be cut. -/
theorem cutAt?_eq_none {p : Char → Bool} {t : List Char} (h : ∀ c ∈ t, p c = false) :
    cutAt? p t = none := by
  induction t with
  | nil => rfl
  | cons c r ih =>
    simp [cutAt?, h c (by simp), ih fun x hx => h x (by simp [hx])]

/-- A text is cut at its first separator, whatever follows it. -/
theorem cutAt?_append {p : Char → Bool} {before after : List Char} {c : Char}
    (h : ∀ x ∈ before, p x = false) (hc : p c = true) :
    cutAt? p (before ++ c :: after) = some (before, after) := by
  induction before with
  | nil => simp [cutAt?, hc]
  | cons x r ih =>
    simp [cutAt?, h x (by simp), ih fun y hy => h y (by simp [hy])]

/-- There is always a first piece. -/
theorem pieces_ne_nil (p : Char → Bool) (t : List Char) : pieces p t ≠ [] := by
  cases t with
  | nil => simp [pieces]
  | cons c r =>
    unfold pieces
    split
    · simp
    · split <;> simp

/-- A text without a separator is its only piece. -/
theorem pieces_of_none {p : Char → Bool} {t : List Char} (h : ∀ c ∈ t, p c = false) :
    pieces p t = [t] := by
  induction t with
  | nil => rfl
  | cons c r ih => simp [pieces, h c (by simp), ih fun x hx => h x (by simp [hx])]

/-- The pieces of two texts around a separator are those of the first and then of the second. -/
theorem pieces_append {p : Char → Bool} {c : Char} (hc : p c = true) (s t : List Char) :
    pieces p (s ++ c :: t) = pieces p s ++ pieces p t := by
  induction s with
  | nil => simp [pieces, hc]
  | cons x r ih =>
    by_cases hx : p x = true
    · simp [pieces, hx, ih]
    · have hr := pieces_ne_nil p r
      cases hp : pieces p r with
      | nil => exact absurd hp hr
      | cons a m => simp [pieces, hx, ih, hp]

end Livecast.Text
