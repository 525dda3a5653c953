import Livecast.Proofs.Json.Arrangement

/-!
# Records and their texts

A value of each kind is read back from what is written for it: a text with all its escapes, a truth
value, and a number up to the limits of its width.  So a record is read back from its compact text
and from every other arrangement of it, where the records inside its lists are arranged in turn.

## Main Definitions

* `Json.FieldDatum.Writes` - the texts of a field's value
* `Json.Record.Lawful` - the values of a type are made of the values of their fields
* `Json.Record.RoundTrips` - the law: every arrangement of a value's text is read as this value

## Main Statements

* `Json.Datum.exists_reads` - a single value is read back
* `Json.Record.Lawful.roundTrips` - lawful types obey the law
-/

namespace Livecast.Json

/-! ## Single values -/

/-- The kind of a value. -/
def Datum.kind : Datum → Kind
  | text _ => .text
  | flag _ => .flag
  | word _ => .word
  | long _ => .long

@[simp] theorem Datum.kind_text (s : String) : (text s).kind = .text := rfl

@[simp] theorem Datum.kind_flag (b : Bool) : (flag b).kind = .flag := rfl

@[simp] theorem Datum.kind_word (n : UInt32) : (word n).kind = .word := rfl

@[simp] theorem Datum.kind_long (n : Int64) : (long n).kind = .long := rfl

theorem exists_reads_integer {i low high : Int} (above : low ≤ i) (below : i ≤ high) :
    ∃ node, Reads 0 (numberChars i) node ∧ node.integer low high = .ok i := by
  obtain ⟨n, whole, reads⟩ := exists_reads_number i
  refine ⟨.number n, reads, ?_⟩
  simp only [Node.integer, whole, above, below, and_self, if_true]

/-- **A single value is read back from what is written for it.** -/
theorem Datum.exists_reads (d : Datum) :
    ∃ node, Reads 0 d.json.chars node ∧ d.kind.read node = .ok d := by
  cases d with
  | text s => exact ⟨_, reads_string s, rfl⟩
  | flag b => exact ⟨_, reads_flag b, rfl⟩
  | word n =>
      have below : (n.toNat : Int) ≤ 4294967295 := by have := n.toNat_lt; omega
      obtain ⟨node, reads, here⟩ := exists_reads_integer (Int.natCast_nonneg n.toNat) below
      refine ⟨node, reads, ?_⟩
      rw [kind, Kind.read, here]
      simp [Except.map]
  | long n =>
      have above : -9223372036854775808 ≤ n.toInt := n.le_toInt
      have below : n.toInt ≤ 9223372036854775807 := by have := n.toInt_lt; omega
      obtain ⟨node, reads, here⟩ := exists_reads_integer above below
      refine ⟨node, reads, ?_⟩
      rw [kind, Kind.read, here]
      simp [Except.map]

/-! ## Values of fields -/

/-- The value fits to the kind. -/
def FieldKind.Holds : FieldKind → FieldDatum → Prop
  | single kind, .single d => d.kind = kind
  | records fields, .records rows => ∀ row ∈ rows, Conforms (fun k d => d.kind = k) fields row
  | _, _ => False

/-- The texts of a flat record. -/
abbrev Row (fields : List (Field Kind Datum)) (row : List Datum) : List Char → Prop :=
  Arrangement (fun _ d t => t = d.json.chars) fields row

/-- The texts of a field's value: those of the records of a list are arranged in turn. -/
inductive FieldDatum.Writes : FieldKind → FieldDatum → List Char → Prop
  | single (kind : Kind) (d : Datum) : Writes (.single kind) (.single d) d.json.chars
  | records {fields : List (Field Kind Datum)} {rows : List (List Datum)} {texts : List (List Char)}
      (arranged : List.Forall₂ (Row fields) rows texts) :
      Writes (.records fields) (.records rows) (arrayChars texts)

theorem Row.exists_reads {fields : List (Field Kind Datum)} {row : List Datum} {t : List Char}
    (conforms : Conforms (fun k d => d.kind = k) fields row) (h : Row fields row t) :
    ∃ node, Reads 1 t node ∧ readRecord Kind.read fields node = .ok row := by
  refine Arrangement.exists_reads conforms ?_ h
  rintro k d t rfl rfl
  exact d.exists_reads

/-- The elements of a list are read one by one. -/
theorem readList_ofList {α : Type} {read : Node → Except ReadError α} {nodes : List Node}
    {values : List α} (h : List.Forall₂ (fun node a => read node = .ok a) nodes values) :
    readList read (.ofList nodes) = .ok values := by
  induction h with
  | nil => rfl
  | cons here _ ih =>
      rw [Items.ofList, readList, here, ih]
      rfl

/-- The records of a list are read back, each from its own text. -/
theorem exists_reads_rows {fields : List (Field Kind Datum)} {rows : List (List Datum)}
    {texts : List (List Char)}
    (conforms : ∀ row ∈ rows, Conforms (fun k d => d.kind = k) fields row)
    (arranged : List.Forall₂ (Row fields) rows texts) :
    ∃ nodes, List.Forall₂ (Reads 1) texts nodes ∧
      List.Forall₂ (fun node row => readRecord Kind.read fields node = .ok row) nodes rows := by
  induction arranged with
  | nil => exact ⟨[], .nil, .nil⟩
  | @cons row t rows texts here _ ih =>
      obtain ⟨node, reads, value⟩ := Row.exists_reads (conforms row List.mem_cons_self) here
      obtain ⟨nodes, more, values⟩ := ih fun row hrow => conforms row (List.mem_cons_of_mem _ hrow)
      exact ⟨node :: nodes, .cons reads more, .cons value values⟩

/-- **A field's value is read back from each of its texts.** -/
theorem FieldDatum.Writes.exists_reads {k : FieldKind} {d : FieldDatum} {t : List Char}
    (holds : k.Holds d) (h : d.Writes k t) : ∃ node, Reads 2 t node ∧ k.read node = .ok d := by
  cases h with
  | single kind d =>
      obtain rfl : d.kind = kind := holds
      obtain ⟨node, reads, here⟩ := d.exists_reads
      exact ⟨node, reads.mono (by decide), by rw [FieldKind.read, here]; rfl⟩
  | @records fields rows texts arranged =>
      obtain ⟨nodes, reads, values⟩ := exists_reads_rows holds arranged
      refine ⟨_, reads_array reads, ?_⟩
      rw [FieldKind.read, readList_ofList values]
      rfl

/-- What is written for a field's value is one of its texts. -/
theorem FieldDatum.writes_json {k : FieldKind} {d : FieldDatum} (h : k.Holds d) :
    d.Writes k (d.json k).chars := by
  cases k with
  | single kind =>
      cases d with
      | single d => exact .single kind d
      | records rows => exact h.elim
  | records fields =>
      cases d with
      | single d => exact h.elim
      | records rows =>
          rw [FieldDatum.json, Value.chars_array, List.map_map]
          refine .records ?_
          rw [List.forall₂_map_right_iff, List.forall₂_same]
          intro row _
          exact arrangement_object (fun _ => Datum.json) fun _ _ => rfl

/-! ## Records -/

namespace Record

variable {α : Type} [Record α]

/-- The values of a type are made of the values of their fields. -/
structure Lawful (α : Type) [Record α] : Prop where
  /-- The values of the fields fit to the fields. -/
  conforms : ∀ a : α, Conforms FieldKind.Holds (fields α) (toData a)
  /-- They make up the value. -/
  ofData?_toData : ∀ a : α, ofData? (toData a) = some a

/-- The texts of a value. -/
def Writes (a : α) : List Char → Prop := Arrangement FieldDatum.Writes (fields α) (toData a)

/-- **The law of exchanged types.** -/
structure RoundTrips (α : Type) [Record α] : Prop where
  /-- A value is read back from its compact text. -/
  compact : ∀ a : α, decode α (json a).compact = .ok a
  /-- The compact text is one of the arrangements. -/
  arranged : ∀ a : α, Writes a (json a).chars
  /-- A value is read back from every arrangement of its text. -/
  rearranged : ∀ (a : α) {t : List Char}, Writes a t → decode α (String.ofList t) = .ok a

theorem Lawful.decode_of_writes (lawful : Lawful α) {a : α} {t : List Char} (h : Writes a t) :
    decode α (String.ofList t) = .ok a := by
  obtain ⟨node, reads, here⟩ :=
    Arrangement.exists_reads (lawful.conforms a) FieldDatum.Writes.exists_reads h
  have enough : 3 * t.length ≤ 3 * (String.ofList t).length + 3 := by
    rw [String.length_ofList]
    omega
  have nothing : Ends [] := fun c hc => by cases hc
  have whole : Node.ofText (String.ofList t) = (node, true) := by
    have deep : 3 ≤ maxDepth := by decide
    have read := reads.read enough deep nothing
    rw [List.append_nil] at read
    rw [Node.ofText, String.toList_ofList, read]
    rfl
  rw [decode, readText, whole]
  simp only [here, bind, Except.bind, lawful.ofData?_toData]
  rfl

/-- **Lawful types obey the law.** -/
theorem Lawful.roundTrips (lawful : Lawful α) : RoundTrips α := by
  have arranged (a : α) : Writes a (json a).chars := by
    refine arrangement_object FieldDatum.json fun p hp => ?_
    exact FieldDatum.writes_json (List.forall₂_zip (lawful.conforms a).values hp)
  exact ⟨fun a => lawful.decode_of_writes (arranged a), arranged,
    fun a _ h => lawful.decode_of_writes h⟩

end Record

end Livecast.Json
