import Livecast.Proofs.Channel.Grammar
import Livecast.Proofs.Text.LetterCase
import Livecast.ResolutionList
import Mathlib.Logic.Relation

/-!
# Each part of a list is read on its own

A list of targets is read part by part.  What one part says does not depend on the parts around it,
on the blanks around it or on the case of its letters, and a part that is no resolution adds
nothing.  So the targets of two texts with a comma between them are those of the first and then of
the second, and a text may be edited in many ways before its targets change.

The word for the stream as it comes in is a part that is no resolution.  It may be put in or taken
out without a change to the targets; only whether the stream is passed on can depend on it.

## Main Definitions

* `ResolutionList.IsPart` - a text is one of the comma-separated parts of another
* `ResolutionList.AsksPassthrough` - a part is the word for the stream as it comes in
* `ResolutionList.Retouch` - an edit of a text that leaves its targets alone
* `ResolutionList.scan` - the reader as a loop over the trimmed text

## Main Statements

* `Resolution.ofEntry_map_toLower_eq_ok_iff` - the case of letters does not matter to an entry
* `ResolutionList.entries_decode` - the targets of a text are those that its parts are read as
* `ResolutionList.passesThrough_decode_iff` - when a text passes the stream on
* `ResolutionList.decode_eq_scan` - the reader is the loop
* `ResolutionList.decode_local` - each part of a list is read on its own
-/

namespace Livecast

open Livecast.Text

namespace Resolution

/-! ## The case of letters in an entry -/

/-- The parts of an entry in small letters. -/
def Parts.toLower (p : Parts) : Parts where
  size := p.size.map Char.toLower
  fps := p.fps.map (List.map Char.toLower)
  bitrate := p.bitrate.map (List.map Char.toLower)

theorem map_toLower_marked {mark : Char} (caseless : mark.toLower = mark)
    (t : Option (List Char)) :
    (marked mark t).map Char.toLower = marked mark (t.map (List.map Char.toLower)) := by
  cases t with
  | none => rfl
  | some t => simp [marked, caseless]

/-- An entry in small letters has its parts in small letters, as the marks are no letters. -/
theorem Parts.Of.toLower {p : Parts} {entry : List Char} (h : p.Of entry) :
    p.toLower.Of (entry.map Char.toLower) := by
  have dash (c : Char) : c ≠ '-' → c.toLower ≠ '-' := mt (toLower_eq_iff (by decide) c).mp
  have tilde (c : Char) : c ≠ '~' → c.toLower ≠ '~' := mt (toLower_eq_iff (by decide) c).mp
  refine ⟨?_, fun c hc => ?_, ?_⟩
  · rw [h.whole, List.map_append, List.map_append, map_toLower_marked (by decide),
      map_toLower_marked (by decide)]
    rfl
  · obtain ⟨d, hd, rfl⟩ := List.mem_map.mp hc
    exact (h.size d hd).imp (dash d) (tilde d)
  · intro t ht c hc
    obtain ⟨u, hu, rfl⟩ := Option.map_eq_some_iff.mp ht
    obtain ⟨d, hd, rfl⟩ := List.mem_map.mp hc
    exact tilde d (h.fps u hu d hd)

theorem readRate?_map_toLower (t : Option (List Char)) :
    readRate? (t.map (List.map Char.toLower)) = readRate? t := by
  cases t with
  | none => rfl
  | some t =>
      simp only [readRate?, Option.map_some, Option.bind_some, integerPrefix?_eq,
        trimStart_map_toLower, signedRun_map_toLower]

theorem isCross_toLower (c : Char) : isCross c.toLower = isCross c :=
  forall_toLower (P := fun c d => isCross d = isCross c) (by decide) (fun _ _ => rfl) c

/-- **An entry is read as the same target whatever the case of its letters.** -/
theorem ofEntry_map_toLower_eq_ok_iff {entry : List Char} {r : Resolution} :
    ofEntry (entry.map Char.toLower) = .ok r ↔ ofEntry entry = .ok r := by
  obtain ⟨p, parts⟩ := Parts.exists_of entry
  rw [ofEntry_eq_ok_iff_cut parts.toLower, ofEntry_eq_ok_iff_cut parts]
  simp only [Parts.toLower, cutAt?_map_toLower isCross_toLower, readRate?_map_toLower]
  cases cutAt? isCross p.size with
  | none => simp
  | some sides =>
      obtain ⟨width, height⟩ := sides
      simp only [Option.map_some, Prod.map_apply, Option.some.injEq, Prod.mk.injEq, and_assoc,
        exists_and_left, exists_eq_left', trim_map_toLower, readInt?_map_toLower]

/-- An entry that is read as a target has a cross. -/
theorem exists_isCross_of_ofEntry {entry : List Char} {r : Resolution}
    (h : ofEntry entry = .ok r) : ∃ c ∈ entry, isCross c = true := by
  obtain ⟨p, parts⟩ := Parts.exists_of entry
  obtain ⟨width, height, -, -, cut, -⟩ := (ofEntry_eq_ok_iff_cut parts).mp h
  obtain ⟨c, size, cross, -⟩ := cutAt?_eq_some_iff.mp cut
  refine ⟨c, ?_, cross⟩
  rw [parts.whole, size]
  simp

end Resolution

namespace ResolutionList

variable {a b part : String} {ps : List String}

/-! ## One part -/

/-- The word for the stream as it comes in has no cross, so it is no target. -/
theorem Part.entry?_ofChars (t : List Char) :
    Part.entry? (Part.ofChars t) = (Resolution.ofEntry t).toOption := by
  unfold Part.ofChars
  split
  · next word =>
      cases read : Resolution.ofEntry t with
      | error e => rfl
      | ok r =>
          obtain ⟨c, hc, cross⟩ := Resolution.exists_isCross_of_ofEntry read
          have letter : c.toUpper ∈ passthroughWord := word ▸ List.mem_map_of_mem hc
          obtain rfl | rfl : c = 'x' ∨ c = 'X' := by simpa [Resolution.isCross] using cross
          · exact absurd letter (by decide)
          · exact absurd letter (by decide)
  · split <;> simp_all only [Except.toOption] <;> rfl

theorem Part.ofChars_eq_passthrough_iff {t : List Char} :
    Part.ofChars t = passthrough ↔ t.map Char.toUpper = passthroughWord := by
  unfold Part.ofChars
  split
  · simpa
  · split <;> simpa

/-- **The targets of a text are those that its pieces are read as.** -/
theorem entries_ofChars (t : List Char) : (ofChars t).entries =
    (pieces (· = ',') t).filterMap fun piece => (Resolution.ofEntry (trim piece)).toOption := by
  have each (piece : List Char) :
      (if !(trim piece).isEmpty then Part.entry? (Part.ofChars (trim piece)) else none) =
        (Resolution.ofEntry (trim piece)).toOption := by
    cases trim piece with
    | nil => rfl
    | cons c rest => exact Part.entry?_ofChars (c :: rest)
  simp only [ofChars, ofEntries, parts, List.filterMap_map, List.filterMap_filter,
    Function.comp_def, each]

/-! ## The parts of a text -/

/-- A text is one of the parts of another: it has no comma, and the other one is it and further such
texts with commas between them. -/
def IsPart (part s : String) : Prop :=
  ∃ ps : List String, part ∈ ps ∧ (∀ p ∈ ps, ',' ∉ p.toList) ∧ ",".intercalate ps = s

/-- The comma-separated parts of a text, in order. -/
def partTexts (s : String) : List String := (pieces (· = ',') s.toList).map String.ofList

theorem partTexts_append (a b : String) :
    partTexts (a ++ "," ++ b) = partTexts a ++ partTexts b := by
  have whole : (a ++ "," ++ b).toList = a.toList ++ ',' :: b.toList := by simp
  rw [partTexts, whole, pieces_append (by simp), List.map_append, partTexts, partTexts]

theorem partTexts_of_noComma (h : ',' ∉ part.toList) : partTexts part = [part] := by
  have none : ∀ c ∈ part.toList, decide (c = ',') = false := by
    intro c hc
    refine decide_eq_false ?_
    rintro rfl
    exact h hc
  rw [partTexts, pieces_of_none none, List.map_singleton, String.ofList_toList]

/-- Texts that are joined have the parts of each, in order. -/
theorem partTexts_join (h : ps ≠ []) : partTexts (",".intercalate ps) = ps.flatMap partTexts := by
  induction ps with
  | nil => contradiction
  | cons p rest ih =>
      cases rest with
      | nil => simp
      | cons q rest =>
          rw [String.intercalate_cons_cons, partTexts_append, ih (List.cons_ne_nil q rest)]
          exact List.flatMap_cons.symm

/-- A text is its parts with commas between them. -/
theorem join_partTexts (s : String) : ",".intercalate (partTexts s) = s := by
  refine String.toList_inj.mp ?_
  have each : (partTexts s).map String.toList = pieces (· = ',') s.toList := by
    simp [partTexts, Function.comp_def]
  have comma : ",".toList = [','] := rfl
  rw [String.toList_intercalate, each, comma, intercalate_pieces]

theorem noComma_of_mem_partTexts {s : String} (h : part ∈ partTexts s) : ',' ∉ part.toList := by
  obtain ⟨piece, hpiece, rfl⟩ := List.mem_map.mp h
  intro comma
  rw [String.toList_ofList] at comma
  exact absurd (forall_mem_pieces hpiece ',' comma) (by decide)

/-- **A text is a part of another exactly if it is found between the commas.** -/
theorem isPart_iff {s : String} : IsPart part s ↔ part ∈ partTexts s := by
  constructor
  · rintro ⟨ps, hpart, noComma, rfl⟩
    rw [partTexts_join (List.ne_nil_of_mem hpart), List.mem_flatMap]
    exact ⟨part, hpart, by simp [partTexts_of_noComma (noComma part hpart)]⟩
  · intro hpart
    exact ⟨partTexts s, hpart, fun p hp => noComma_of_mem_partTexts hp, join_partTexts s⟩

theorem isPart_append_iff : IsPart part (a ++ "," ++ b) ↔ IsPart part a ∨ IsPart part b := by
  simp only [isPart_iff, partTexts_append, List.mem_append]

/-! ## What a text is read as, by its parts -/

/-- **The targets of a text are those that its parts are read as**, in order. -/
theorem entries_decode (s : String) :
    (decode s).entries = (partTexts s).filterMap fun part => (Resolution.parse part).toOption := by
  rw [decode, entries_ofChars, partTexts, List.filterMap_map]
  simp only [Resolution.parse, Function.comp_def, String.toList_ofList]

theorem entries_decode_append (a b : String) :
    (decode (a ++ "," ++ b)).entries = (decode a).entries ++ (decode b).entries := by
  rw [entries_decode, partTexts_append, List.filterMap_append, ← entries_decode, ← entries_decode]

/-- Texts that are joined have the targets of each, in order. -/
theorem entries_decode_join (ps : List String) :
    (decode (",".intercalate ps)).entries = ps.flatMap fun p => (decode p).entries := by
  cases ps with
  | nil => decide
  | cons p rest =>
      rw [entries_decode, partTexts_join (List.cons_ne_nil p rest), List.filterMap_flatMap]
      exact List.flatMap_congr fun q _ => (entries_decode q).symm

/-- One part has the target that it is read as, if it is read as one. -/
theorem entries_decode_of_noComma (h : ',' ∉ part.toList) :
    (decode part).entries = (Resolution.parse part).toOption.toList := by
  rw [entries_decode, partTexts_of_noComma h, List.filterMap_cons, List.filterMap_nil]
  cases (Resolution.parse part).toOption <;> rfl

/-- A part is the word for the stream as it comes in, in any case and with blanks around it. -/
def AsksPassthrough (part : String) : Prop :=
  SameLetters (String.ofList (trim part.toList)) "ORIGINAL"

theorem asksPassthrough_iff :
    AsksPassthrough part ↔ (trim part.toList).map Char.toUpper = passthroughWord := by
  have word : passthroughWord = "ORIGINAL".toList.map Char.toUpper := by decide
  rw [word, map_toUpper_eq_iff, AsksPassthrough, SameLetters, String.toList_ofList]

theorem any_parts_iff {s : String} : ((parts s.toList).any (· = .passthrough)) = true ↔
    ∃ part ∈ partTexts s, AsksPassthrough part := by
  simp only [List.any_eq_true, decide_eq_true_eq, parts, List.mem_map, List.mem_filter, partTexts,
    asksPassthrough_iff]
  constructor
  · rintro ⟨_, ⟨_, ⟨⟨piece, hpiece, rfl⟩, -⟩, rfl⟩, word⟩
    refine ⟨_, ⟨piece, hpiece, rfl⟩, ?_⟩
    rw [String.toList_ofList]
    exact Part.ofChars_eq_passthrough_iff.mp word
  · rintro ⟨_, ⟨piece, hpiece, rfl⟩, word⟩
    rw [String.toList_ofList] at word
    refine ⟨_, ⟨_, ⟨⟨piece, hpiece, rfl⟩, ?_⟩, rfl⟩, Part.ofChars_eq_passthrough_iff.mpr word⟩
    -- the word is not empty, so that the part is not left out as a blank one
    cases said : trim piece with
    | nil =>
        rw [said] at word
        cases word
    | cons c rest => rfl

/-- **When a text passes the stream on**: if one of its parts asks for it, or none is a target. -/
theorem passesThrough_decode_iff (s : String) : (decode s).passesThrough = true ↔
    (∃ part, IsPart part s ∧ AsksPassthrough part) ∨
      ∀ part, IsPart part s → ∀ r, Resolution.parse part ≠ .ok r := by
  have flag : (decode s).passesThrough =
      ((parts s.toList).any (· = .passthrough) || (decode s).entries.isEmpty) := rfl
  have read (part : String) : (Resolution.parse part).toOption = none ↔
      ∀ r, Resolution.parse part ≠ .ok r := by
    cases Resolution.parse part <;> simp [Except.toOption]
  simp only [flag, Bool.or_eq_true, any_parts_iff, List.isEmpty_iff, entries_decode,
    List.filterMap_eq_nil_iff, read, isPart_iff]

/-! ## Edits -/

/-- An edit of a text that leaves its targets alone.  Parts are joined with commas. -/
inductive Retouch : String → String → Prop
  /-- A part that is no target is put in, at any place. -/
  | insert (before after : List String) {part : String} (single : ',' ∉ part.toList)
      (unread : ∀ r, Resolution.parse part ≠ .ok r) :
      Retouch (",".intercalate (before ++ after)) (",".intercalate (before ++ part :: after))
  /-- Blanks are put around a part. -/
  | pad (before after : List String) {part front back : String} (single : ',' ∉ part.toList)
      (hfront : IsBlankText front) (hback : IsBlankText back) :
      Retouch (",".intercalate (before ++ part :: after))
        (",".intercalate (before ++ (front ++ part ++ back) :: after))
  /-- Letters change their case. -/
  | recase {s t : String} (same : SameLetters s t) : Retouch s t

/-- A text that is put in for another among joined ones matters by its targets only. -/
theorem entries_decode_replace (before after : List String) {p q : String}
    (h : (decode p).entries = (decode q).entries) :
    (decode (",".intercalate (before ++ p :: after))).entries =
      (decode (",".intercalate (before ++ q :: after))).entries := by
  simp only [entries_decode_join, List.flatMap_append, List.flatMap_cons, h]

/-- Blanks around a part do not change what it is read as. -/
theorem entries_decode_pad {front back : String} (single : ',' ∉ part.toList)
    (hfront : IsBlankText front) (hback : IsBlankText back) :
    (decode part).entries = (decode (front ++ part ++ back)).entries := by
  have noComma {s : String} (blank : IsBlankText s) : ',' ∉ s.toList := fun comma =>
    absurd (blank ',' comma) (by decide)
  have single' : ',' ∉ (front ++ part ++ back).toList := by
    simp [noComma hfront, single, noComma hback]
  have same : Resolution.parse (front ++ part ++ back) = Resolution.parse part := by
    simp only [Resolution.parse, String.toList_append]
    rw [trim_blanks hfront part.toList hback]
  rw [entries_decode_of_noComma single, entries_decode_of_noComma single', same]

/-- Small letters are read as the same targets. -/
theorem entries_ofChars_map_toLower (t : List Char) :
    (ofChars (t.map Char.toLower)).entries = (ofChars t).entries := by
  have cut : pieces (· = ',') (t.map Char.toLower) =
      (pieces (· = ',') t).map (List.map Char.toLower) :=
    pieces_map_toLower (fun c => decide_eq_decide.mpr (toLower_eq_iff (by decide) c)) t
  have read (entry : List Char) : (Resolution.ofEntry (entry.map Char.toLower)).toOption =
      (Resolution.ofEntry entry).toOption := by
    have target {s : List Char} {r : Resolution} :
        (Resolution.ofEntry s).toOption = some r ↔ Resolution.ofEntry s = .ok r := by
      cases Resolution.ofEntry s <;> simp [Except.toOption]
    ext r
    rw [target, target, Resolution.ofEntry_map_toLower_eq_ok_iff]
  simp only [entries_ofChars, cut, List.filterMap_map, Function.comp_def,
    trim_map_toLower, read]

/-- **An edit leaves the targets alone.** -/
theorem Retouch.entries_eq (h : Retouch a b) : (decode a).entries = (decode b).entries := by
  cases h with
  | @insert before after part single unread =>
      have none : (decode part).entries = [] := by
        rw [entries_decode_of_noComma single]
        cases read : Resolution.parse part with
        | error e => rfl
        | ok r => exact absurd read (unread r)
      simp [entries_decode_join, none]
  | pad before after single hfront hback =>
      exact entries_decode_replace before after (entries_decode_pad single hfront hback)
  | recase same =>
      rw [decode, decode, ← entries_ofChars_map_toLower a.toList, same,
        entries_ofChars_map_toLower]

/-- So do many edits, also when they are taken back. -/
theorem entries_eq_of_eqvGen (h : Relation.EqvGen Retouch a b) :
    (decode a).entries = (decode b).entries := by
  induction h with
  | rel a b edit => exact edit.entries_eq
  | refl a => rfl
  | symm a b _ ih => exact ih.symm
  | trans a b c _ _ first second => exact first.trans second

/-! ## The reader as a loop -/

/-- What the loop has found, after one more part. -/
def scanPart (found : Bool × List Resolution) (part : List Char) : Bool × List Resolution :=
  match Part.ofChars part with
  | .passthrough => (true, found.2)
  | .entry r => (found.1, found.2 ++ [r])
  | .rejected _ => found

/-- The reader as a loop over the trimmed text; a blank text passes the stream on. -/
def scan (s : String) : ResolutionList :=
  let whole := trim s.toList
  if whole.isEmpty then passthrough
  else
    let found := (((pieces (· = ',') whole).map trim).filter fun part => !part.isEmpty).foldl
      scanPart (false, [])
    ofEntries found.1 found.2

/-- What the loop finds is what the parts say. -/
theorem foldl_scanPart (texts : List (List Char)) (found : Bool × List Resolution) :
    texts.foldl scanPart found =
      (found.1 || (texts.map Part.ofChars).any (· = .passthrough),
        found.2 ++ (texts.map Part.ofChars).filterMap Part.entry?) := by
  induction texts generalizing found with
  | nil => simp
  | cons part rest ih =>
      rw [List.foldl_cons, ih, scanPart, List.map_cons, List.any_cons, List.filterMap_cons]
      unfold Part.entry?
      cases Part.ofChars part <;> simp

/-- **The reader is the loop**: neither the blanks around the text nor the way out for a blank text
make a difference. -/
theorem decode_eq_scan (s : String) : decode s = scan s := by
  have parts_eq : parts s.toList = parts (trim s.toList) := by
    rw [parts, parts, map_trim_pieces_trim fun c blank => decide_eq_false ?_]
    rintro rfl
    exact absurd blank (by decide)
  rw [decode, ofChars, parts_eq, scan]
  split
  · next blank =>
      rw [List.isEmpty_iff.mp blank]
      rfl
  · rw [foldl_scanPart]
    simp [parts]

/-! ## Locality -/

/-- **Each part of a list is read on its own.**  The targets of two texts with a comma between them
are those of the first and then of the second.  The stream is passed on exactly if some part of one
of them is the word for that, in any case and with blanks around it, or no part is a target.  And
whatever edits a text goes through, its targets stay what they are: parts that are no target are put
in, taken out or moved, blanks are put around parts or taken away, and letters change their case. -/
theorem decode_local (a b : String) :
    (decode (a ++ "," ++ b)).entries = (decode a).entries ++ (decode b).entries ∧
      ((decode (a ++ "," ++ b)).passesThrough = true ↔
        (∃ part, (IsPart part a ∨ IsPart part b) ∧ AsksPassthrough part) ∨
          ∀ part, IsPart part a ∨ IsPart part b → ∀ r, Resolution.parse part ≠ .ok r) ∧
      ∀ c, Relation.EqvGen Retouch a c → (decode c).entries = (decode a).entries := by
  refine ⟨entries_decode_append a b, ?_, fun c edited => (entries_eq_of_eqvGen edited).symm⟩
  simp only [passesThrough_decode_iff, isPart_append_iff]

/-- Parts that are no target make no difference to the ones that are. -/
example : (decode " 640X360 ,,4:3, Original,1280x720-25fps").entries =
    (decode "640x360,1280x720-25").entries := by
  decide

end ResolutionList

end Livecast
