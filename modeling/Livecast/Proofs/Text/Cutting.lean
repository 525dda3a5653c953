import Livecast.Text.Blank
import Livecast.Text.Cut
import Mathlib.Data.List.TakeWhile

/-!
# Trimming and cutting

Trimming takes blanks off both ends of a text and nothing else.  A cut is made at the first
separator of a text, wherever blanks stand; so a text may be trimmed before it is cut or its parts
afterwards.

## Main Definitions

* `IsBlankText`, `BeginsInked` - a text of blanks, and one that does not begin with a blank

## Main Statements

* `split_run`, `takeWhile_append_stop` - where a run of characters ends
* `eq_dropEndWhile_append` - what is dropped at the end of a text
* `exists_trim` - a text is its trimmed form with blanks around it
* `trim_blanks` - blanks around a text are trimmed off
* `exists_blanks`, `trimStart_of_blanks` - the one way in which blanks are in front of a text
* `cutAt?_eq_some_iff` - where a text is cut
* `cutAt?_map`, `cutAt?_trim` - cutting a text that was changed in each character, or trimmed
* `intercalate_pieces`, `forall_mem_pieces` - what the pieces of a text are
* `pieces_of_cutAt?` - the first of them is what the first cut takes off
* `map_trim_pieces_trim` - the pieces of a text that was trimmed
-/

namespace Livecast.Text

variable {p : Char → Bool} {c : Char} {before after t : List Char}

/-! ## Where a run ends -/

/-- A run of characters ends at the first one that does not belong to it. -/
theorem split_run {rest : List Char} (ht : ∀ c ∈ t, p c = true)
    (hrest : ∀ c, rest.head? = some c → p c = false) :
    (t ++ rest).takeWhile p = t ∧ (t ++ rest).dropWhile p = rest := by
  rw [List.takeWhile_append_of_pos ht, List.dropWhile_append_of_pos ht]
  cases rest with
  | nil => exact ⟨List.append_nil t, rfl⟩
  | cons c more =>
      have stop : ¬ p c = true := by simp [hrest c rfl]
      rw [List.takeWhile_cons_of_neg stop, List.dropWhile_cons_of_neg stop]
      exact ⟨List.append_nil t, rfl⟩

/-- What stands behind a character that does not belong to the run does not prolong it. -/
theorem takeWhile_append_stop (t : List Char) {rest : List Char} (hc : p c = false) :
    (t ++ c :: rest).takeWhile p = t.takeWhile p := by
  have stop : (c :: rest).takeWhile p = [] := List.takeWhile_cons_of_neg (by simp [hc])
  rw [List.takeWhile_append, stop, List.append_nil]
  split
  · next all => exact ((List.takeWhile_prefix p).eq_of_length all).symm
  · rfl

/-! ## What is dropped at an end -/

/-- A text is what is left of it with what was dropped at its end. -/
theorem eq_dropEndWhile_append (p : Char → Bool) (t : List Char) :
    ∃ back, t = dropEndWhile p t ++ back ∧ ∀ c ∈ back, p c = true := by
  refine ⟨(t.reverse.takeWhile p).reverse, ?_, fun c hc => ?_⟩
  · rw [dropEndWhile, ← List.reverse_append, List.takeWhile_append_dropWhile, List.reverse_reverse]
  · exact List.mem_takeWhile_imp (List.mem_reverse.mp hc)

/-- What is left does not end with a character that is dropped. -/
theorem getLast?_dropEndWhile (h : (dropEndWhile p t).getLast? = some c) : p c = false := by
  rw [dropEndWhile, List.getLast?_reverse] at h
  have passed := List.head?_dropWhile_not p t.reverse
  rw [h] at passed
  simpa using passed

theorem dropEndWhile_append_of_all (t : List Char) {back : List Char}
    (h : ∀ c ∈ back, p c = true) : dropEndWhile p (t ++ back) = dropEndWhile p t := by
  have dropped : ∀ c ∈ back.reverse, p c = true := fun c hc => h c (List.mem_reverse.mp hc)
  rw [dropEndWhile, dropEndWhile, List.reverse_append, List.dropWhile_append_of_pos dropped]

/-- What is dropped does not reach beyond a character that stays. -/
theorem dropEndWhile_append_of_exists (front : List Char) {back : List Char}
    (h : ∃ c ∈ back, p c = false) :
    dropEndWhile p (front ++ back) = front ++ dropEndWhile p back := by
  obtain ⟨c, hc, stays⟩ := h
  have left : back.reverse.dropWhile p ≠ [] := by
    intro none
    have dropped := List.dropWhile_eq_nil_iff.mp none c (List.mem_reverse.mpr hc)
    rw [stays] at dropped
    contradiction
  rw [dropEndWhile, dropEndWhile, List.reverse_append, List.dropWhile_append,
    if_neg (by simpa using left), List.reverse_append, List.reverse_reverse]

/-! ## Trimming -/

/-- A text is its trimmed start with blanks in front. -/
theorem exists_trimStart (t : List Char) :
    ∃ front, t = front ++ trimStart t ∧ ∀ c ∈ front, isBlank c = true :=
  ⟨t.takeWhile isBlank, List.takeWhile_append_dropWhile.symm, fun _ hc => List.mem_takeWhile_imp hc⟩

/-- **A text is its trimmed form with blanks around it.** -/
theorem exists_trim (t : List Char) : ∃ front back, t = front ++ trim t ++ back ∧
    (∀ c ∈ front, isBlank c = true) ∧ ∀ c ∈ back, isBlank c = true := by
  obtain ⟨front, start, blank⟩ := exists_trimStart t
  obtain ⟨back, stop, blank'⟩ := eq_dropEndWhile_append isBlank (trimStart t)
  refine ⟨front, back, ?_, blank, blank'⟩
  rw [List.append_assoc, trim, trimEnd, ← stop, ← start]

/-- A blank at the end does not keep the start from being trimmed, unless nothing else is there. -/
theorem trim_append_of_blank (t : List Char) {back : List Char}
    (h : ∀ c ∈ back, isBlank c = true) : trim (t ++ back) = trim t := by
  by_cases all : ∀ c ∈ t, isBlank c = true
  -- then trimming the start takes everything, and else it does not come as far as `back`
  · have whole : ∀ c ∈ t ++ back, isBlank c = true := fun c hc =>
      (List.mem_append.mp hc).elim (all c) (h c)
    rw [trim, trim, trimStart, trimStart, List.dropWhile_eq_nil_iff.mpr all,
      List.dropWhile_eq_nil_iff.mpr whole]
  · have start : trimStart (t ++ back) = trimStart t ++ back := by
      have left : trimStart t ≠ [] := fun none => all (List.dropWhile_eq_nil_iff.mp none)
      rw [trimStart, List.dropWhile_append, if_neg (by simpa [trimStart] using left), ← trimStart]
    rw [trim, start, trimEnd, dropEndWhile_append_of_all _ h, trim, trimEnd]

/-- **Blanks around a text are trimmed off.** -/
theorem trim_blanks {front back : List Char} (hfront : ∀ c ∈ front, isBlank c = true)
    (t : List Char) (hback : ∀ c ∈ back, isBlank c = true) :
    trim (front ++ t ++ back) = trim t := by
  rw [trim_append_of_blank _ hback, trim, trimStart_append_of_blank hfront, trim]

theorem trim_trimStart (t : List Char) : trim (trimStart t) = trim t := by
  obtain ⟨front, start, blank⟩ := exists_trimStart t
  calc trim (trimStart t) = trim (front ++ trimStart t) := by
        rw [trim, trim, trimStart_append_of_blank blank]
    _ = trim t := by rw [← start]

theorem trim_trimEnd (t : List Char) : trim (trimEnd t) = trim t := by
  obtain ⟨back, stop, blank⟩ := eq_dropEndWhile_append isBlank t
  calc trim (trimEnd t) = trim (trimEnd t ++ back) := (trim_append_of_blank _ blank).symm
    _ = trim t := by rw [trimEnd, ← stop]

/-- Around a character that is not blank the two ends are trimmed apart. -/
theorem trim_around (before after : List Char) (hc : isBlank c = false) :
    trim (before ++ c :: after) = trimStart before ++ c :: trimEnd after := by
  have start : trimStart (before ++ c :: after) = trimStart before ++ c :: after := by
    rw [trimStart, trimStart, List.dropWhile_append]
    split
    · next none =>
        rw [List.isEmpty_iff.mp none, List.dropWhile_cons_of_neg (by simp [hc]), List.nil_append]
    · rfl
  have stop (s : List Char) : trimEnd (s ++ c :: after) = s ++ c :: trimEnd after := by
    rw [trimEnd, trimEnd, dropEndWhile, dropEndWhile, List.reverse_append, List.reverse_cons,
      List.append_assoc, List.dropWhile_append]
    split
    · next none =>
        rw [List.isEmpty_iff.mp none, List.singleton_append,
          List.dropWhile_cons_of_neg (by simp [hc])]
        simp
    · simp
  rw [trim, start, stop]

/-! ## Blanks in front -/

/-- A text has no character but blanks; it may be empty. -/
def IsBlankText (s : String) : Prop := ∀ c ∈ s.toList, isBlank c = true

/-- A text does not begin with a blank; it may be empty. -/
def BeginsInked (s : String) : Prop := ∀ c, s.toList.head? = some c → isBlank c = false

/-- A text is blanks and a rest that does not begin with one. -/
theorem exists_blanks (s : String) :
    ∃ blanks, s = blanks ++ String.ofList (trimStart s.toList) ∧ IsBlankText blanks := by
  obtain ⟨front, whole, blank⟩ := exists_trimStart s.toList
  refine ⟨String.ofList front, String.toList_inj.mp ?_, by simpa [IsBlankText] using blank⟩
  simpa using whole

/-- It is so in one way. -/
theorem trimStart_of_blanks {blanks rest : String} (hblanks : IsBlankText blanks)
    (hrest : BeginsInked rest) :
    String.ofList (trimStart (blanks ++ rest).toList) = rest := by
  rw [String.toList_append, trimStart_append_of_blank hblanks, trimStart_eq_self hrest,
    String.ofList_toList]

theorem beginsInked_trimStart (t : List Char) : BeginsInked (String.ofList (trimStart t)) := by
  intro c first
  rw [String.toList_ofList] at first
  have passed := List.head?_dropWhile_not isBlank t
  rw [← trimStart, first] at passed
  simpa using passed

/-! ## Cutting -/

/-- **Where a text is cut**: at a separator that has none in front of it. -/
theorem cutAt?_eq_some_iff :
    cutAt? p t = some (before, after) ↔
      ∃ c, t = before ++ c :: after ∧ p c = true ∧ ∀ x ∈ before, p x = false := by
  constructor
  · intro cut
    induction t generalizing before with
    | nil => cases cut
    | cons d rest ih =>
        rw [cutAt?] at cut
        split at cut
        · next separator =>
            obtain ⟨rfl, rfl⟩ := Prod.mk.inj (Option.some.inj cut)
            exact ⟨d, rfl, separator, by simp⟩
        · next other =>
            obtain ⟨⟨first, second⟩, later, pair⟩ := Option.map_eq_some_iff.mp cut
            obtain ⟨rfl, rfl⟩ := Prod.mk.inj pair
            obtain ⟨c, rfl, separator, none⟩ := ih later
            refine ⟨c, rfl, separator, List.forall_mem_cons.mpr ⟨by simpa using other, none⟩⟩
  · rintro ⟨c, rfl, separator, none⟩
    exact cutAt?_append none separator

theorem cutAt?_eq_none_iff : cutAt? p t = none ↔ ∀ c ∈ t, p c = false := by
  refine ⟨fun cut => ?_, cutAt?_eq_none⟩
  induction t with
  | nil => simp
  | cons d rest ih =>
      rw [cutAt?] at cut
      split at cut
      · cases cut
      · next other =>
          exact List.forall_mem_cons.mpr ⟨by simpa using other, ih (Option.map_eq_none_iff.mp cut)⟩

/-- A text that was changed in each character is cut where it is a separator that came about. -/
theorem cutAt?_map (f : Char → Char) (t : List Char) :
    cutAt? p (t.map f) =
      (cutAt? (fun c => p (f c)) t).map (Prod.map (List.map f) (List.map f)) := by
  induction t with
  | nil => rfl
  | cons c rest ih =>
      rw [List.map_cons, cutAt?, cutAt?, ih]
      by_cases separator : p (f c) = true
      · simp [separator]
      · simp [separator, Option.map_map, Function.comp_def]

/-- **A text may be trimmed before it is cut, or its parts afterwards**: blanks do not separate. -/
theorem cutAt?_trim (hp : ∀ c, p c = true → isBlank c = false) (t : List Char) :
    cutAt? p (trim t) = (cutAt? p t).map (Prod.map trimStart trimEnd) := by
  cases cut : cutAt? p t with
  | none =>
      obtain ⟨front, back, whole, -, -⟩ := exists_trim t
      refine cutAt?_eq_none fun c hc => cutAt?_eq_none_iff.mp cut c ?_
      rw [whole]
      exact List.mem_append_left _ (List.mem_append_right _ hc)
  | some parts =>
      obtain ⟨c, whole, separator, none⟩ := cutAt?_eq_some_iff.mp cut
      rw [whole, trim_around _ _ (hp c separator)]
      refine cutAt?_append (fun x hx => none x ?_) separator
      exact (List.dropWhile_sublist isBlank).mem hx

/-! ## The pieces of a text -/

/-- No piece holds a separator. -/
theorem forall_mem_pieces {piece : List Char} (h : piece ∈ pieces p t) :
    ∀ c ∈ piece, p c = false := by
  induction t generalizing piece with
  | nil =>
      obtain rfl := List.mem_singleton.mp h
      simp
  | cons c rest ih =>
      obtain ⟨first, more, cut⟩ := List.exists_cons_of_ne_nil (pieces_ne_nil p rest)
      by_cases separator : p c = true
      · rw [pieces, if_pos separator] at h
        rcases List.mem_cons.mp h with rfl | h
        · simp
        · exact ih h
      · simp only [pieces, if_neg separator, cut] at h
        rcases List.mem_cons.mp h with rfl | h
        · exact List.forall_mem_cons.mpr ⟨by simpa using separator, ih (by simp [cut])⟩
        · exact ih (by simp [cut, h])

/-- **The pieces of a text, with the separator between them, are the text.** -/
theorem intercalate_pieces (c : Char) (t : List Char) :
    List.intercalate [c] (pieces (· = c) t) = t := by
  induction t with
  | nil => rfl
  | cons d rest ih =>
      obtain ⟨first, more, cut⟩ := List.exists_cons_of_ne_nil (pieces_ne_nil (· = c) rest)
      rw [cut] at ih
      by_cases separator : d = c
      · rw [pieces, if_pos (by simpa using separator), cut, List.intercalate_cons_cons, ih,
          separator]
        rfl
      · rw [pieces, if_neg (by simpa using separator), cut]
        cases more with
        | nil => simpa using ih
        | cons next more => simpa [List.intercalate_cons_cons] using ih

/-- A cut takes off the first piece. -/
theorem pieces_of_cutAt? (cut : cutAt? p t = some (before, after)) :
    pieces p t = before :: pieces p after := by
  obtain ⟨c, rfl, separator, none⟩ := cutAt?_eq_some_iff.mp cut
  rw [pieces_append separator, pieces_of_none none, List.singleton_append]

/-- What has no separator and comes first belongs to the first piece. -/
theorem pieces_front {front : List Char} (h : ∀ c ∈ front, p c = false) (t : List Char) :
    ∃ first rest, pieces p t = first :: rest ∧
      pieces p (front ++ t) = (front ++ first) :: rest := by
  induction front with
  | nil =>
      obtain ⟨first, rest, whole⟩ := List.exists_cons_of_ne_nil (pieces_ne_nil p t)
      exact ⟨first, rest, whole, whole⟩
  | cons c front ih =>
      obtain ⟨first, rest, whole, fronted⟩ := ih fun x hx => h x (List.mem_cons_of_mem c hx)
      exact ⟨first, rest, whole, by simp [pieces, h c, fronted]⟩

/-- What has no separator and comes last belongs to the last piece. -/
theorem pieces_back {back : List Char} (h : ∀ c ∈ back, p c = false) (t : List Char) :
    ∃ rest last, pieces p t = rest ++ [last] ∧ pieces p (t ++ back) = rest ++ [last ++ back] := by
  induction t with
  | nil => exact ⟨[], [], rfl, pieces_of_none h⟩
  | cons c more ih =>
      obtain ⟨rest, last, whole, backed⟩ := ih
      by_cases separator : p c = true
      · exact ⟨[] :: rest, last, by simp [pieces, separator, whole],
          by simp [pieces, separator, backed]⟩
      · cases rest with
        | nil =>
            exact ⟨[], c :: last, by simp [pieces, separator, whole],
              by simp [pieces, separator, backed]⟩
        | cons first rest =>
            exact ⟨(c :: first) :: rest, last, by simp [pieces, separator, whole],
              by simp [pieces, separator, backed]⟩

/-- **Whether a text is trimmed before it is cut does not matter** to its trimmed pieces. -/
theorem map_trim_pieces_trim (hp : ∀ c, isBlank c = true → p c = false) (t : List Char) :
    (pieces p (trim t)).map trim = (pieces p t).map trim := by
  obtain ⟨front, back, whole, blank, blank'⟩ := exists_trim t
  obtain ⟨rest, last, cut, backed⟩ := pieces_back (fun c hc => hp c (blank' c hc)) (trim t)
  obtain ⟨first, rest', cut', fronted⟩ :=
    pieces_front (fun c hc => hp c (blank c hc)) (trim t ++ back)
  have atEnd : trim (last ++ back) = trim last := trim_append_of_blank last blank'
  have atStart : trim (front ++ first) = trim first := by
    have nothing : ∀ c ∈ ([] : List Char), isBlank c = true := by simp
    simpa using trim_blanks blank first nothing
  calc (pieces p (trim t)).map trim
      = (pieces p (trim t ++ back)).map trim := by rw [cut, backed]; simp [atEnd]
    _ = (pieces p (front ++ (trim t ++ back))).map trim := by rw [cut', fronted]; simp [atStart]
    _ = (pieces p t).map trim := by rw [← List.append_assoc, ← whole]

end Livecast.Text
