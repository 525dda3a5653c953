import Livecast.Proofs.Text.Component
import Livecast.Proofs.Text.Cutting

/-!
# Segments of an address

An address is put together from a base and segments, each with a slash in front of it.  As long as
no segment holds a slash, the segments are the last pieces of the address between its slashes, and
what they are can be told from the address as a whole.

## Main Definitions

* `pathOf` - a path with the given segments
* `IsSegment` - a text that is one segment, and neither ends the path nor the line

## Main Statements

* `pieces_pathOf` - the segments of an address are its last pieces
* `segments_inj`, `pathOf_inj` - the segments are told from the address, if its front or their
  number is known
* `trimBase_eq` - the base of an address is what was given, without the slashes at its end
-/

namespace Livecast

open Livecast.Text

/-- A path with the given segments. -/
def pathOf : List String → String
  | [] => ""
  | s :: rest => "/" ++ s ++ pathOf rest

theorem pathOf_append (front back : List String) :
    pathOf (front ++ back) = pathOf front ++ pathOf back := by
  induction front with
  | nil => rw [List.nil_append, pathOf, String.empty_append]
  | cons s rest ih => simp only [List.cons_append, pathOf, ih, String.append_assoc]

/-- One more segment follows a slash. -/
theorem pathOf_concat (front : List String) (s : String) :
    pathOf (front ++ [s]) = pathOf front ++ "/" ++ s := by
  simp only [pathOf_append, pathOf, String.append_empty, String.append_assoc]

/-- A text that is one segment of an address: there is something in it, and no character of it ends
a segment, a path or a line. -/
structure IsSegment (s : String) : Prop where
  /-- There is something in it. -/
  ne_empty : s ≠ ""
  /-- No character of it ends a segment, a path or a line. -/
  plain : ∀ c ∈ s.toList, isSpecial c = false

/-- A text without slashes. -/
def Slashless (s : String) : Prop := ∀ c ∈ s.toList, decide (c = '/') = false

instance (s : String) : Decidable (Slashless s) :=
  decidable_of_iff (s.toList.all (· ≠ '/') = true) (by simp [Slashless])

theorem slashless_of_plain {s : String} (h : ∀ c ∈ s.toList, isSpecial c = false) :
    Slashless s := by
  intro c hc
  have plain := h c hc
  simp only [isSpecial, Bool.or_eq_false_iff] at plain
  exact plain.1.1.1

theorem IsSegment.slashless {s : String} (h : IsSegment s) : Slashless s :=
  slashless_of_plain h.plain

theorem slashless_percentEncode (s : String) : Slashless (percentEncode s) :=
  slashless_of_plain (percentEncode_not_special s)

/-- The encoded form of a text that is not empty is a segment. -/
theorem isSegment_percentEncode {s : String} (h : s ≠ "") : IsSegment (percentEncode s) :=
  ⟨percentEncode_ne_empty h, percentEncode_not_special s⟩

/-- **The segments of an address are its last pieces.** -/
theorem pieces_pathOf {segments : List String} (h : ∀ s ∈ segments, Slashless s) (front : String) :
    pieces (· = '/') (front ++ pathOf segments).toList =
      pieces (· = '/') front.toList ++ segments.map String.toList := by
  induction segments generalizing front with
  | nil => simp [pathOf]
  | cons s rest ih =>
      -- the next segment goes to the front, whose last piece it is, as it holds no slash
      have alone : pieces (· = '/') s.toList = [s.toList] := pieces_of_none (h s (by simp))
      have later := ih (fun t ht => h t (List.mem_cons_of_mem _ ht)) (front ++ "/" ++ s)
      have cut : (front ++ "/" ++ s).toList = front.toList ++ '/' :: s.toList := by simp
      rw [cut, pieces_append (by simp), alone] at later
      rw [pathOf, ← String.append_assoc, ← String.append_assoc, later, List.append_assoc,
        List.map_cons, List.singleton_append]

/-- Segments are told from the address if the front of it is known. -/
theorem segments_inj {front : String} {segments segments' : List String}
    (h : ∀ s ∈ segments, Slashless s) (h' : ∀ s ∈ segments', Slashless s)
    (same : front ++ pathOf segments = front ++ pathOf segments') : segments = segments' := by
  have cut := pieces_pathOf h front
  rw [same, pieces_pathOf h' front] at cut
  exact (List.map_inj_right fun _ _ => String.toList_inj.mp).mp (List.append_cancel_left cut).symm

/-- **A front and a number of segments are told from the address.** -/
theorem pathOf_inj {front front' : String} {segments segments' : List String}
    (h : ∀ s ∈ segments, Slashless s) (h' : ∀ s ∈ segments', Slashless s)
    (count : segments.length = segments'.length)
    (same : front ++ pathOf segments = front' ++ pathOf segments') :
    front = front' ∧ segments = segments' := by
  have cut := pieces_pathOf h front
  rw [same, pieces_pathOf h' front'] at cut
  obtain ⟨-, words⟩ := List.append_inj' cut.symm (by simpa using count)
  obtain rfl : segments = segments' := (List.map_inj_right fun _ _ => String.toList_inj.mp).mp words
  exact ⟨(String.append_left_inj _).mp same, rfl⟩

/-- **The base of an address is what was given, without the slashes at its end.** -/
theorem trimBase_eq (base : String) :
    (∃ slashes : String, base = trimBase base ++ slashes ∧ ∀ c ∈ slashes.toList, c = '/') ∧
      (trimBase base).toList.getLast? ≠ some '/' := by
  constructor
  · obtain ⟨back, whole, slash⟩ := eq_dropEndWhile_append (· = '/') base.toList
    refine ⟨String.ofList back, ?_, fun c hc => ?_⟩
    · rw [trimBase, ← String.ofList_append, ← whole, String.ofList_toList]
    · rw [String.toList_ofList] at hc
      exact of_decide_eq_true (slash c hc)
  · intro last
    rw [trimBase, String.toList_ofList] at last
    simpa using getLast?_dropEndWhile last

end Livecast
