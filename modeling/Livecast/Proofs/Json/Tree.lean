import Livecast.Proofs.Json.Scalar
import Mathlib.Data.List.Forall2

/-!
# Lists and objects

A list is read item by item and an object member by member, each up to the comma or the bracket that
follows it.  So the text of a list is read as the list of what its items are read as, and the text
of an object as its members, in the order of the text.

## Main Definitions

* `Json.arrayChars`, `Json.objectChars` - the text of a list and of an object, from the texts inside
* `Json.Items.ofList`, `Json.Fields.ofMembers` - the trees

## Main Statements

* `Json.reads_array`, `Json.reads_object` - the texts are read as the trees
* `Json.chars_array`, `Json.chars_object` - they are what is written for lists and objects
-/

namespace Livecast.Json

/-! ## Texts and trees -/

/-- Texts with commas between them. -/
def commaSeparated (texts : List (List Char)) : List Char := List.intercalate [','] texts

/-- The text of a list, from the texts of its items. -/
def arrayChars (items : List (List Char)) : List Char := '[' :: (commaSeparated items ++ [']'])

/-- A member of an object: its name and the text of its value. -/
abbrev Member := String × List Char

/-- The text of a member. -/
def Member.chars (m : Member) : List Char := stringChars m.1 ++ ':' :: m.2

/-- The text of an object, from its members. -/
def objectChars (members : List Member) : List Char :=
  '\x7b' :: (commaSeparated (members.map Member.chars) ++ ['\x7d'])

/-- The tree of a list's items. -/
def Items.ofList : List Node → Items
  | [] => .close
  | node :: rest => .item node (ofList rest)

/-- The tree of an object's members. -/
def Fields.ofMembers : List (String × Node) → Fields
  | [] => .close
  | (name, node) :: rest => .field (some name) node (ofMembers rest)

theorem commaSeparated_cons (t : List Char) (more : List (List Char)) :
    commaSeparated (t :: more) = t ++ more.flatMap (',' :: ·) := by
  induction more generalizing t with
  | nil => simp [commaSeparated]
  | cons u more ih =>
      have later := ih u
      rw [commaSeparated] at later ⊢
      rw [List.intercalate_cons_cons, later]
      simp

/-! ## Lists -/

variable {depth fuel levels : Nat} {t rest : List Char} {node : Node}

/-- A text that is no JSON is read as nothing. -/
theorem Reads.ne_broken (h : Reads depth t node) : node ≠ .broken := by
  rintro rfl
  exact absurd h.intact (by decide)

/-- What follows an item or a member: further ones behind commas, and then the closing bracket. -/
theorem ends_flatMap (texts : List (List Char)) {close : Char} (h : close = ']' ∨ close = '\x7d')
    (rest : List Char) : Ends (texts.flatMap (',' :: ·) ++ close :: rest) := by
  intro c hc
  cases texts with
  | nil =>
      obtain rfl : close = c := by simpa using hc
      exact .inr h
  | cons t more =>
      obtain rfl : ',' = c := by simpa using hc
      exact .inl rfl

theorem readItems_close (first : Bool) :
    Node.readItems (fuel + 1) levels first (']' :: rest) = (.close, rest) := by
  rw [Node.readItems.eq_def, skipSpace_cons (by decide)]
  cases first <;> rfl

theorem readItems_comma :
    Node.readItems (fuel + 1) levels false (',' :: rest) = Node.readItem fuel levels rest := by
  rw [Node.readItems.eq_def, skipSpace_cons (by decide)]
  rfl

/-- The first item has no comma in front of it. -/
theorem readItems_first (h : Reads depth t node) :
    Node.readItems (fuel + 1) levels true (t ++ rest) = Node.readItem fuel levels (t ++ rest) := by
  obtain ⟨c, more, rfl, space, bracket⟩ := h.starts
  rw [List.cons_append, Node.readItems.eq_def, skipSpace_cons space]
  dsimp only
  split
  · next same => exact absurd (List.cons.inj same).1 bracket
  · next unset => cases unset
  · rfl
  · next unset _ _ => cases unset

/-- An item is read, and then those that follow it. -/
theorem readItem_append (h : Reads depth t node) (enough : 3 * t.length ≤ fuel)
    (deep : depth ≤ levels) (hrest : Ends rest) :
    Node.readItem (fuel + 1) levels (t ++ rest) =
      (.item node (Node.readItems fuel levels false rest).1,
        (Node.readItems fuel levels false rest).2) := by
  obtain ⟨c, more, rfl, space, bracket⟩ := h.starts
  have read := h.read enough deep hrest
  rw [List.cons_append] at read ⊢
  rw [Node.readItem.eq_def, skipSpace_cons space]
  dsimp only
  split
  · next same => exact absurd (List.cons.inj same).1 bracket
  · next same => cases same
  · rw [read]
    split
    · next same => exact absurd (Prod.mk.inj same).1 h.ne_broken
    · next same =>
        obtain ⟨rfl, rfl⟩ := Prod.mk.inj same
        rfl

/-- The items behind the first one are read. -/
theorem readItems_flatMap {texts : List (List Char)} {nodes : List Node}
    (h : List.Forall₂ (Reads depth) texts nodes)
    (enough : 3 * (texts.flatMap (',' :: ·)).length + 3 ≤ fuel) (deep : depth ≤ levels) :
    Node.readItems fuel levels false (texts.flatMap (',' :: ·) ++ ']' :: rest) =
      (.ofList nodes, rest) := by
  induction h generalizing fuel with
  | nil =>
      obtain ⟨left, rfl⟩ : ∃ left, fuel = left + 1 := ⟨fuel - 1, by omega⟩
      exact readItems_close false
  | @cons t node texts nodes reads _ ih =>
      simp only [List.flatMap_cons, List.cons_append, List.append_assoc, List.length_cons,
        List.length_append] at enough ⊢
      obtain ⟨left, rfl⟩ : ∃ left, fuel = left + 2 := ⟨fuel - 2, by omega⟩
      rw [readItems_comma, readItem_append reads (by omega) deep
        (ends_flatMap texts (.inl rfl) rest), ih (by omega)]
      rfl

/-- The items of a list are intact if each of them is. -/
theorem isIntact_ofList {texts : List (List Char)} {nodes : List Node}
    (h : List.Forall₂ (Reads depth) texts nodes) : (Items.ofList nodes).isIntact = true := by
  induction h with
  | nil => rfl
  | cons reads _ ih => rw [Items.ofList, Items.isIntact, reads.intact, ih, Bool.true_and]

/-- **The text of a list is read as the list of what its items are read as.** -/
theorem reads_array {texts : List (List Char)} {nodes : List Node}
    (h : List.Forall₂ (Reads depth) texts nodes) :
    Reads (depth + 1) (arrayChars texts) (.array (.ofList nodes)) := by
  refine reads_of_cons (by decide) (by decide) (isIntact_ofList h)
    fun {left levels rest} enough deep hrest => ?_
  obtain ⟨inner, rfl⟩ : ∃ inner, levels = inner + 1 := ⟨levels - 1, by omega⟩
  have items : Node.readItems left inner true (commaSeparated texts ++ [']'] ++ rest) =
      (.ofList nodes, rest) := by
    cases h with
    | nil =>
        obtain ⟨left, rfl⟩ : ∃ more, left = more + 1 := ⟨left - 1, by simp at enough; omega⟩
        exact readItems_close true
    | @cons t node texts nodes reads more =>
        rw [commaSeparated_cons] at enough ⊢
        simp only [List.length_cons, List.length_append, List.length_nil, List.append_assoc,
          List.singleton_append] at enough ⊢
        obtain ⟨left, rfl⟩ : ∃ more, left = more + 2 := ⟨left - 2, by omega⟩
        rw [readItems_first reads, readItem_append reads (by omega) (by omega)
          (ends_flatMap texts (.inl rfl) rest), readItems_flatMap more (by omega) (by omega)]
        rfl
  rw [Node.read, skipSpace_cons (by decide)]
  simp only [items]

/-! ## Objects -/

/-- A member is read as a name and a tree. -/
def Member.Reads (depth : Nat) (m : Member) (f : String × Node) : Prop :=
  m.1 = f.1 ∧ Json.Reads depth m.2 f.2

theorem readFields_close (first : Bool) :
    Node.readFields (fuel + 1) levels first ('\x7d' :: rest) = (.close, rest) := by
  rw [Node.readFields.eq_def, skipSpace_cons (by decide)]
  cases first <;> rfl

theorem readFields_comma :
    Node.readFields (fuel + 1) levels false (',' :: '"' :: rest) =
      Node.readField fuel levels rest := by
  have quote : skipSpace ('"' :: rest) = '"' :: rest := skipSpace_cons (by decide) rest
  rw [Node.readFields.eq_def, skipSpace_cons (by decide)]
  simp only [quote]

theorem readFields_first :
    Node.readFields (fuel + 1) levels true ('"' :: rest) = Node.readField fuel levels rest := by
  rw [Node.readFields.eq_def, skipSpace_cons (by decide)]
  rfl

/-- The text of a member behind the first quote of its name. -/
def Member.tail (m : Member) : List Char := m.1.toList.flatMap escape ++ '"' :: ':' :: m.2

theorem Member.chars_eq (m : Member) : m.chars = '"' :: m.tail := by
  simp [chars, tail, stringChars]

theorem Member.length_le_tail (m : Member) : m.2.length ≤ m.tail.length := by
  rw [tail, List.length_append, List.length_cons, List.length_cons]
  omega

/-- A member is read, and then those that follow it. -/
theorem readField_append {m : Member} {f : String × Node} (h : m.Reads depth f)
    (enough : 3 * m.2.length ≤ fuel) (deep : depth ≤ levels) (hrest : Ends rest) :
    Node.readField (fuel + 1) levels (m.tail ++ rest) =
      (.field (some f.1) f.2 (Node.readFields fuel levels false rest).1,
        (Node.readFields fuel levels false rest).2) := by
  obtain ⟨name, t⟩ := m
  obtain ⟨name', node⟩ := f
  obtain ⟨rfl, reads⟩ := h
  have read := reads.read enough deep hrest
  have text : Member.tail (name, t) ++ rest =
      name.toList.flatMap escape ++ '"' :: (':' :: (t ++ rest)) := by simp [Member.tail]
  rw [text, Node.readField.eq_def]
  simp only [readString?_escaped, skipSpace_cons (c := ':') (by decide)]
  rw [read]
  split
  · next same => exact absurd (Prod.mk.inj same).1 reads.ne_broken
  · next same =>
      obtain ⟨rfl, rfl⟩ := Prod.mk.inj same
      rfl

/-- The members behind the first one are read. -/
theorem readFields_flatMap {members : List Member} {fields : List (String × Node)}
    (h : List.Forall₂ (Member.Reads depth) members fields)
    (enough : 3 * ((members.map Member.chars).flatMap (',' :: ·)).length + 3 ≤ fuel)
    (deep : depth ≤ levels) :
    Node.readFields fuel levels false
        ((members.map Member.chars).flatMap (',' :: ·) ++ '\x7d' :: rest) =
      (.ofMembers fields, rest) := by
  induction h generalizing fuel with
  | nil =>
      obtain ⟨left, rfl⟩ : ∃ left, fuel = left + 1 := ⟨fuel - 1, by omega⟩
      exact readFields_close false
  | @cons m f members fields reads _ ih =>
      have shorter := m.length_le_tail
      simp only [List.map_cons, List.flatMap_cons, List.cons_append, List.append_assoc,
        List.length_cons, List.length_append, Member.chars_eq] at enough ih ⊢
      obtain ⟨left, rfl⟩ : ∃ left, fuel = left + 2 := ⟨fuel - 2, by omega⟩
      rw [readFields_comma, readField_append reads (by omega) deep
        (ends_flatMap _ (.inr rfl) rest), ih (by omega)]
      rfl

/-- The members of an object are intact if each of them is. -/
theorem isIntact_ofMembers {members : List Member} {fields : List (String × Node)}
    (h : List.Forall₂ (Member.Reads depth) members fields) :
    (Fields.ofMembers fields).isIntact = true := by
  induction h with
  | nil => rfl
  | cons reads _ ih => rw [Fields.ofMembers, Fields.isIntact, reads.2.intact, ih, Bool.true_and]

/-- **The text of an object is read as the members that it was written from.** -/
theorem reads_object {members : List Member} {fields : List (String × Node)}
    (h : List.Forall₂ (Member.Reads depth) members fields) :
    Reads (depth + 1) (objectChars members) (.object (.ofMembers fields)) := by
  refine reads_of_cons (by decide) (by decide) (isIntact_ofMembers h)
    fun {left levels rest} enough deep hrest => ?_
  obtain ⟨inner, rfl⟩ : ∃ inner, levels = inner + 1 := ⟨levels - 1, by omega⟩
  have inside : Node.readFields left inner true
      (commaSeparated (members.map Member.chars) ++ ['\x7d'] ++ rest) =
        (.ofMembers fields, rest) := by
    cases h with
    | nil =>
        obtain ⟨left, rfl⟩ : ∃ more, left = more + 1 := ⟨left - 1, by simp at enough; omega⟩
        exact readFields_close true
    | @cons m f members fields reads more =>
        have shorter := m.length_le_tail
        rw [List.map_cons, commaSeparated_cons] at enough ⊢
        simp only [List.length_cons, List.length_append, List.length_nil, List.append_assoc,
          List.cons_append, List.nil_append, Member.chars_eq m] at enough ⊢
        obtain ⟨left, rfl⟩ : ∃ more, left = more + 2 := ⟨left - 2, by omega⟩
        rw [readFields_first, readField_append reads (by omega) (by omega)
          (ends_flatMap _ (.inr rfl) rest), readFields_flatMap more (by omega) (by omega)]
        rfl
  rw [Node.read, skipSpace_cons (by decide)]
  simp only [inside]

/-! ## What is written -/

namespace Value

theorem itemChars_eq (items : List Value) : itemChars items = commaSeparated (items.map chars) := by
  induction items with
  | nil => rfl
  | cons v more ih =>
      cases more with
      | nil => simp [itemChars, commaSeparated]
      | cons w rest =>
          rw [itemChars, ih]
          simp [commaSeparated_cons]

/-- The member that is written for a field. -/
def member (field : String × Value) : Member := (field.1, field.2.chars)

theorem fieldChars_eq (fields : List (String × Value)) :
    fieldChars fields = commaSeparated ((fields.map member).map Member.chars) := by
  induction fields with
  | nil => rfl
  | cons f more ih =>
      obtain ⟨name, v⟩ := f
      cases more with
      | nil => simp [fieldChars, commaSeparated, member, Member.chars]
      | cons g rest =>
          rw [fieldChars, ih]
          simp [commaSeparated_cons, member, Member.chars]

theorem chars_array (items : List Value) :
    (array items).chars = arrayChars (items.map chars) := by
  rw [chars, itemChars_eq]
  rfl

theorem chars_object (fields : List (String × Value)) :
    (object fields).chars = objectChars (fields.map member) := by
  rw [chars, fieldChars_eq]
  rfl

end Value

end Livecast.Json
