import Livecast.Api.Request
import Livecast.Proofs.Text.Numeral

/-!
# The numbers of media fragments

The fragments of a recording are files with numbered names: a dash and the number follow the stem
of the name, and then the extension.  The number is looked for behind the first dash of the stem.
So it is found in every folder, whatever the extension is, as long as it fits 64 bits and the stem
in front of it holds no dash.  A stem that holds one hides the number: what is found is what would
be found without it.

## Main Definitions

* `FileAddress` - the address of a file, as its folders, its stem and its extension
* `FileAddress.numbered` - the address of a fragment of the file
* `stemNumber` - the number behind the first dash of a stem

## Main Statements

* `FileAddress.exists_text` - every text is the address of a file
* `fragmentNumber_text` - the number of a fragment is that of its stem
* `fragmentNumber_le` - it fits 64 bits
* `fragmentNumber_numbered`, `fragmentNumber_exact` - when it is the one that was put there
* `fragmentNumber_hidden` - a number that is not
-/

namespace Livecast.Api

open Livecast.Text

/-! ## Addresses of files -/

/-- The address of a file. -/
structure FileAddress where
  /-- The folders that the file is in, each with a slash behind it; there may be none. -/
  folder : String
  /-- The name of the file, as far as its first dot. -/
  stem : String
  /-- The rest of the name, from the dot on; there may be none. -/
  extension : String
  /-- The last folder has a slash behind it, too. -/
  folder_ends : folder = "" ∨ ∃ above, folder = above ++ "/"
  /-- Nothing in the stem ends it. -/
  stem_plain : ∀ c ∈ stem.toList, c ≠ '/' ∧ c ≠ '.'
  /-- The extension begins with the dot. -/
  extension_begins : extension = "" ∨ ∃ rest, extension = "." ++ rest
  /-- It ends the address. -/
  extension_slashless : ∀ c ∈ extension.toList, c ≠ '/'

namespace FileAddress

/-- The name of a file. -/
def name (f : FileAddress) : String := f.stem ++ f.extension

/-- The address as a text. -/
def text (f : FileAddress) : String := f.folder ++ f.name

theorem toList_numbered (stem : String) (n : Nat) :
    (stem ++ "-" ++ natText n).toList = stem.toList ++ '-' :: digits n := by
  simp [natText]

/-- A dash and a number do not end a stem. -/
theorem numbered_plain {stem : String} (h : ∀ c ∈ stem.toList, c ≠ '/' ∧ c ≠ '.') (n : Nat) :
    ∀ c ∈ (stem ++ "-" ++ natText n).toList, c ≠ '/' ∧ c ≠ '.' := by
  rw [toList_numbered, List.forall_mem_append, List.forall_mem_cons]
  refine ⟨h, by decide, digits_all (fun c digit => ?_) n⟩
  exact ⟨ne_of_isDigit digit (by decide), ne_of_isDigit digit (by decide)⟩

/-- The address of a fragment of a file: a dash and a number follow the stem. -/
def numbered (f : FileAddress) (n : Nat) : FileAddress :=
  { f with
    stem := f.stem ++ "-" ++ natText n
    stem_plain := numbered_plain f.stem_plain n }

/-- No slash is in a name. -/
theorem name_slashless (f : FileAddress) : ∀ c ∈ f.name.toList, decide (c = '/') = false := by
  intro c hc
  rw [name, String.toList_append] at hc
  rcases List.mem_append.mp hc with inStem | inExtension
  · exact decide_eq_false (f.stem_plain c inStem).1
  · exact decide_eq_false (f.extension_slashless c inExtension)

/-- The name is what follows the last slash of the address. -/
theorem getLast?_pieces_text (f : FileAddress) :
    (pieces (· = '/') f.text.toList).getLast? = some f.name.toList := by
  have alone : pieces (· = '/') f.name.toList = [f.name.toList] := pieces_of_none f.name_slashless
  rw [text, String.toList_append]
  rcases f.folder_ends with none | ⟨above, folder⟩
  · rw [none]
    exact congrArg List.getLast? alone
  · have cut : (above ++ "/").toList ++ f.name.toList = above.toList ++ '/' :: f.name.toList := by
      simp
    rw [folder, cut, pieces_append (by simp), alone, List.getLast?_append]
    rfl

/-- The stem is what precedes the first dot of the name. -/
theorem takeWhile_name (f : FileAddress) :
    f.name.toList.takeWhile (· ≠ '.') = f.stem.toList := by
  rw [name, String.toList_append]
  refine (split_run (fun c hc => decide_eq_true (f.stem_plain c hc).2) ?_).1
  intro c first
  rcases f.extension_begins with none | ⟨rest, extension⟩
  · rw [none] at first
    exact absurd first (by simp)
  · rw [extension, String.toList_append] at first
    obtain rfl : '.' = c := Option.some.inj first
    decide

/-- A text is the folders of a file, as far as its last slash, and a name. -/
theorem exists_folder (url : String) : ∃ folder name : String, url = folder ++ name ∧
    (folder = "" ∨ ∃ above, folder = above ++ "/") ∧ ∀ c ∈ name.toList, c ≠ '/' := by
  obtain ⟨name, whole, slashless⟩ := eq_dropEndWhile_append (· ≠ '/') url.toList
  refine ⟨String.ofList (dropEndWhile (· ≠ '/') url.toList), String.ofList name, ?_, ?_, ?_⟩
  · rw [← String.ofList_append, ← whole, String.ofList_toList]
  · cases last : (dropEndWhile (· ≠ '/') url.toList).getLast? with
    | none => exact .inl (by rw [List.getLast?_eq_none_iff.mp last, String.ofList_nil])
    | some c =>
        have slash : c = '/' := by simpa using getLast?_dropEndWhile last
        obtain ⟨above, folder⟩ := List.getLast?_eq_some_iff.mp last
        exact .inr ⟨String.ofList above, by rw [folder, String.ofList_append, slash]⟩
  · intro c hc
    rw [String.toList_ofList] at hc
    exact of_decide_eq_true (slashless c hc)

/-- A name is a stem, as far as its first dot, and an extension. -/
theorem exists_extension (name : String) : ∃ stem extension : String, name = stem ++ extension ∧
    (∀ c ∈ stem.toList, c ≠ '.') ∧ (extension = "" ∨ ∃ rest, extension = "." ++ rest) := by
  refine ⟨String.ofList (name.toList.takeWhile (· ≠ '.')),
    String.ofList (name.toList.dropWhile (· ≠ '.')), ?_, ?_, ?_⟩
  · rw [← String.ofList_append, List.takeWhile_append_dropWhile, String.ofList_toList]
  · intro c hc
    rw [String.toList_ofList] at hc
    have passed : decide (c ≠ '.') = true :=
      List.mem_takeWhile_imp (p := fun c => decide (c ≠ '.')) hc
    exact of_decide_eq_true passed
  · cases rest : name.toList.dropWhile (· ≠ '.') with
    | nil => exact .inl String.ofList_nil
    | cons c more =>
        have stop := List.head?_dropWhile_not (· ≠ '.') name.toList
        rw [rest] at stop
        have dot : c = '.' := by simpa using stop
        exact .inr ⟨String.ofList more, by rw [dot, ← String.toList_inj]; simp⟩

/-- **Every text is the address of a file.** -/
theorem exists_text (url : String) : ∃ f : FileAddress, f.text = url := by
  obtain ⟨folder, name, rfl, ends, slashless⟩ := exists_folder url
  obtain ⟨stem, extension, rfl, dotless, begins⟩ := exists_extension name
  rw [String.toList_append, List.forall_mem_append] at slashless
  let f : FileAddress :=
    { folder := folder
      stem := stem
      extension := extension
      folder_ends := ends
      stem_plain := fun c hc => ⟨slashless.1 c hc, dotless c hc⟩
      extension_begins := begins
      extension_slashless := slashless.2 }
  exact ⟨f, rfl⟩

end FileAddress

/-! ## The number in a stem -/

/-- The number that a text begins with; zero without digits and beyond 64 bits. -/
def leadingNumber (t : List Char) : Nat :=
  (readNat? maxUnsigned (t.takeWhile Char.isDigit)).getD 0

/-- The number behind the first dash of a stem; zero without a dash. -/
def stemNumber (stem : List Char) : Nat :=
  match cutAt? (· = '-') stem with
  | none => 0
  | some (_, behind) => leadingNumber behind

variable {stem rest t : List Char}

/-- What follows the digits does not change the number. -/
theorem leadingNumber_append_stop {c : Char} (t : List Char) (hc : c.isDigit = false) :
    leadingNumber (t ++ c :: rest) = leadingNumber t := by
  rw [leadingNumber, takeWhile_append_stop t hc, leadingNumber]

theorem leadingNumber_digits (n : Nat) :
    leadingNumber (digits n) = if n ≤ maxUnsigned then n else 0 := by
  have run : (digits n).takeWhile Char.isDigit = digits n :=
    List.takeWhile_eq_self_iff.mpr (digits_all (fun _ hc => hc) n)
  rw [leadingNumber, run]
  split
  · next within => rw [readNat?_digits within, Option.getD_some]
  · next beyond => rw [readNat?_digits_eq_none (Nat.lt_of_not_le beyond), Option.getD_none]

theorem leadingNumber_le (t : List Char) : leadingNumber t ≤ maxUnsigned := by
  rw [leadingNumber]
  cases read : readNat? maxUnsigned (t.takeWhile Char.isDigit) with
  | none => exact Nat.zero_le _
  | some n => exact (readNat?_eq_some_iff.mp read).2

/-- The number is all in the first piece between dashes, as no dash is a digit. -/
theorem leadingNumber_head_pieces (t : List Char) :
    ∃ piece more, pieces (· = '-') t = piece :: more ∧ leadingNumber piece = leadingNumber t := by
  cases cut : cutAt? (· = '-') t with
  | none => exact ⟨t, [], pieces_of_none (cutAt?_eq_none_iff.mp cut), rfl⟩
  | some parts =>
      obtain ⟨before, behind⟩ := parts
      refine ⟨before, _, pieces_of_cutAt? cut, ?_⟩
      obtain ⟨d, rfl, dash, -⟩ := cutAt?_eq_some_iff.mp cut
      obtain rfl : d = '-' := of_decide_eq_true dash
      exact (leadingNumber_append_stop before (by decide)).symm

/-- A number other than zero is found only where there is a digit. -/
theorem exists_digit_of_leadingNumber (h : leadingNumber t ≠ 0) :
    ∃ c more, t = c :: more ∧ c.isDigit = true := by
  cases t with
  | nil => exact absurd rfl h
  | cons c more =>
      refine ⟨c, more, rfl, ?_⟩
      by_contra other
      refine h ?_
      rw [leadingNumber, List.takeWhile_cons_of_neg other]
      rfl

/-- In a stem without a dash, the number that is put behind it is found. -/
theorem stemNumber_append_of_dashless (h : '-' ∉ stem) :
    stemNumber (stem ++ '-' :: rest) = leadingNumber rest := by
  have none : ∀ c ∈ stem, decide (c = '-') = false := by
    intro c hc
    exact decide_eq_false fun same => h (same ▸ hc)
  rw [stemNumber, cutAt?_append none (by simp)]

/-- In a stem with a dash, what is put behind it behind another dash makes no difference. -/
theorem stemNumber_append_of_dash (h : '-' ∈ stem) :
    stemNumber (stem ++ '-' :: rest) = stemNumber stem := by
  cases cut : cutAt? (· = '-') stem with
  | none => exact absurd (cutAt?_eq_none_iff.mp cut '-' h) (by simp)
  | some parts =>
      obtain ⟨before, behind⟩ := parts
      obtain ⟨c, whole, dash, none⟩ := cutAt?_eq_some_iff.mp cut
      have later :
          cutAt? (· = '-') (stem ++ '-' :: rest) = some (before, behind ++ '-' :: rest) := by
        rw [whole, List.append_assoc]
        exact cutAt?_append none dash
      rw [stemNumber, later, stemNumber, cut]
      exact leadingNumber_append_stop behind (by decide)

/-- A stem has a number other than zero only if a digit follows a dash in it. -/
theorem exists_dash_digit_of_stemNumber (h : stemNumber stem ≠ 0) :
    ∃ c, c.isDigit = true ∧ ['-', c] <:+: stem := by
  rw [stemNumber] at h
  split at h
  · exact absurd rfl h
  · next before behind cut =>
      obtain ⟨c, more, rfl, digit⟩ := exists_digit_of_leadingNumber h
      obtain ⟨d, rfl, dash, -⟩ := cutAt?_eq_some_iff.mp cut
      obtain rfl : d = '-' := of_decide_eq_true dash
      exact ⟨c, digit, before, more, by simp⟩

/-! ## The number of a fragment -/

/-- **The number of a fragment is that of its stem**: whatever the folders and the extension are,
and whatever dashes follow, it begins behind the first dash of the stem. -/
theorem fragmentNumber_text (f : FileAddress) :
    fragmentNumber f.text = stemNumber f.stem.toList := by
  have name : ((pieces (· = '/') f.text.toList).getLast?).getD [] = f.name.toList := by
    rw [f.getLast?_pieces_text, Option.getD_some]
  rw [fragmentNumber, fragmentNumberOf, name, f.takeWhile_name, stemNumber]
  cases cut : cutAt? (· = '-') f.stem.toList with
  | none =>
      rw [pieces_of_none (cutAt?_eq_none_iff.mp cut)]
      rfl
  | some parts =>
      obtain ⟨before, behind⟩ := parts
      obtain ⟨piece, more, cut', same⟩ := leadingNumber_head_pieces behind
      rw [pieces_of_cutAt? cut, cut']
      exact same

/-- Whatever the address is, the number fits 64 bits. -/
theorem fragmentNumber_le (url : String) : fragmentNumber url ≤ maxUnsigned := by
  obtain ⟨f, rfl⟩ := FileAddress.exists_text url
  rw [fragmentNumber_text, stemNumber]
  split
  · exact Nat.zero_le _
  · exact leadingNumber_le _

/-- What is found for a fragment is its number, up to 64 bits, unless the stem that the number is
put behind holds a dash. -/
theorem fragmentNumber_numbered (f : FileAddress) (n : Nat) :
    fragmentNumber (f.numbered n).text =
      if '-' ∈ f.stem.toList then fragmentNumber f.text
      else if n ≤ maxUnsigned then n else 0 := by
  rw [fragmentNumber_text, fragmentNumber_text, FileAddress.numbered, FileAddress.toList_numbered]
  split
  · next dash => exact stemNumber_append_of_dash dash
  · next dashless => rw [stemNumber_append_of_dashless dashless, leadingNumber_digits]

/-- Nothing is found for a file if no digit directly follows a dash in its name. -/
theorem fragmentNumber_eq_zero {f : FileAddress}
    (h : ∀ c, ['-', c] <:+: f.name.toList → c.isDigit = false) : fragmentNumber f.text = 0 := by
  by_contra found
  rw [fragmentNumber_text] at found
  obtain ⟨c, digit, inStem⟩ := exists_dash_digit_of_stemNumber found
  have inName : ['-', c] <:+: f.name.toList := by
    rw [FileAddress.name, String.toList_append]
    exact inStem.trans (List.prefix_append _ _).isInfix
  rw [h c inName] at digit
  contradiction

/-- **When the number of a fragment is found.**  Let a number of 64 bits be put behind a dash and
the stem of any file.  It is found exactly if the stem holds no dash, or if the same number is found
for the file itself: a stem that holds a dash decides alone what is found for all its fragments.
Nothing is found for a file if no digit directly follows a dash in its name. -/
theorem fragmentNumber_exact (f : FileAddress) :
    (∀ n ≤ maxUnsigned, fragmentNumber (f.numbered n).text = n ↔
      '-' ∉ f.stem.toList ∨ fragmentNumber f.text = n) ∧
    ('-' ∈ f.stem.toList → ∀ n, fragmentNumber (f.numbered n).text = fragmentNumber f.text) ∧
    ((∀ c, ['-', c] <:+: f.name.toList → c.isDigit = false) → fragmentNumber f.text = 0) := by
  refine ⟨fun n within => ?_, fun dash n => ?_, fragmentNumber_eq_zero⟩
  · rw [fragmentNumber_numbered]
    by_cases dash : '-' ∈ f.stem.toList
    · rw [if_pos dash]
      exact (or_iff_right (not_not_intro dash)).symm
    · rw [if_neg dash, if_pos within]
      exact iff_of_true rfl (.inl dash)
  · rw [fragmentNumber_numbered, if_pos dash]

/-- A file with a dash in its stem and no digit behind it. -/
def dashedFile : FileAddress where
  folder := "vod-1/"
  stem := "2-b"
  extension := ".ts"
  folder_ends := .inr ⟨"vod-1", by decide⟩
  stem_plain := by simp
  extension_begins := .inr ⟨"ts", by decide⟩
  extension_slashless := by simp

/-- Digits in front of the dash, and behind one in a folder, are no number; and as there is a dash,
no fragment of the file has a number either. -/
theorem fragmentNumber_exact_dashed :
    dashedFile.text = "vod-1/2-b.ts" ∧
      (∀ c, ['-', c] <:+: dashedFile.name.toList → c.isDigit = false) ∧
      fragmentNumber dashedFile.text = 0 ∧
      '-' ∈ dashedFile.stem.toList ∧ ∀ n, fragmentNumber (dashedFile.numbered n).text = 0 := by
  have unnumbered : ∀ c, ['-', c] <:+: dashedFile.name.toList → c.isDigit = false := by
    intro c dashed
    have name : dashedFile.name.toList = ['2', '-', 'b', '.', 't', 's'] := by decide
    obtain rfl : c = 'b' := by simpa [name, List.infix_cons_iff] using dashed
    decide
  have dash : '-' ∈ dashedFile.stem.toList := by simp [dashedFile]
  obtain ⟨-, hidden, nothing⟩ := fragmentNumber_exact dashedFile
  refine ⟨by decide, unnumbered, nothing unnumbered, dash, fun n => ?_⟩
  rw [hidden dash, nothing unnumbered]

/-- The number of a fragment is not found if the stem that it is put behind holds a dash. -/
theorem fragmentNumber_hidden :
    (dashedFile.numbered 7).text = "vod-1/2-b-7.ts" ∧
      fragmentNumber (dashedFile.numbered 7).text = 0 := by
  have seven : natText 7 = "7" := by
    rw [natText, digits]
    rfl
  have written : (dashedFile.numbered 7).text = "vod-1/2-b-7.ts" := by
    simp only [FileAddress.text, FileAddress.name, FileAddress.numbered, dashedFile, seven]
    decide
  refine ⟨written, ?_⟩
  rw [written]
  decide

end Livecast.Api
