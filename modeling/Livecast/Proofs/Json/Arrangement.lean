import Livecast.Proofs.Json.Tree

/-!
# Records in any arrangement

The members of an object may come in any order, and members of other names may stand between them.
The reader of a record keeps what it has found by the position of the field, so what it has found
depends on the names that it has met and not on their order; a name that no field has is passed
over.  Hence every arrangement of a record's text is read as this record.

## Main Definitions

* `Json.foundOf` - what is found of a record once some names were met
* `Json.Arrangement` - the texts of a record: its members in any order, with others added
* `Json.Conforms` - the values of fields are of the kinds of the fields

## Main Statements

* `Json.readFields_ofMembers` - what is found in an object does not depend on the order
* `Json.Arrangement.exists_reads` - every arrangement is read as the values of the fields
-/

namespace Livecast.Json

variable {κ δ : Type}

/-! ## What is found in an object -/

/-- What is found of a record's fields once some names were met. -/
def foundOf (fields : List (Field κ δ)) (data : List δ) (seen : List String) :
    List (Option δ) :=
  List.zipWith (fun f d => if f.name ∈ seen then some d else none) fields data

variable {read : κ → Node → Except ReadError δ} {fields : List (Field κ δ)} {data : List δ}

theorem getElem?_foundOf (seen : List String) {i : Nat} {f : Field κ δ} {d : δ}
    (hf : fields[i]? = some f) (hd : data[i]? = some d) :
    (foundOf fields data seen)[i]? = some (if f.name ∈ seen then some d else none) := by
  rw [foundOf, List.getElem?_zipWith, hf, hd]

/-- No two fields have the same name. -/
theorem index_unique {i j : Nat} {f g : Field κ δ} (distinct : (fields.map Field.name).Nodup)
    (hf : fields[i]? = some f) (hg : fields[j]? = some g) (same : g.name = f.name) : j = i := by
  have bound : j < (fields.map Field.name).length := by
    rw [List.length_map]
    exact (List.getElem?_eq_some_iff.mp hg).1
  refine (List.getElem?_inj bound distinct).mp ?_
  rw [List.getElem?_map, List.getElem?_map, hf, hg, Option.map_some, Option.map_some, same]

/-- The position of a name is that of the one field that has it. -/
theorem fieldIndex?_eq {i : Nat} {f : Field κ δ} (distinct : (fields.map Field.name).Nodup)
    (hf : fields[i]? = some f) : fieldIndex? fields f.name = some i := by
  obtain ⟨bound, here⟩ := List.getElem?_eq_some_iff.mp hf
  refine List.findIdx?_eq_some_iff_getElem.mpr ⟨bound, by simp [here], fun j before => ?_⟩
  intro same
  have there : fields[j]? = some fields[j] := List.getElem?_eq_getElem _
  exact absurd (index_unique distinct hf there (by simpa using same)) (Nat.ne_of_lt before)

theorem fieldIndex?_eq_none {name : String} (h : name ∉ fields.map Field.name) :
    fieldIndex? fields name = none := by
  rw [fieldIndex?, List.findIdx?_eq_none_iff]
  intro f hf
  have other : f.name ≠ name := fun same => h (same ▸ List.mem_map_of_mem hf)
  simpa using other

/-- What is found is put in its place. -/
theorem set_foundOf {i : Nat} {f : Field κ δ} {d : δ} (distinct : (fields.map Field.name).Nodup)
    (hf : fields[i]? = some f) (hd : data[i]? = some d) (seen : List String) :
    (foundOf fields data seen).set i (some d) = foundOf fields data (f.name :: seen) := by
  have place (names : List String) := getElem?_foundOf names hf hd
  refine List.ext_getElem? fun j => ?_
  by_cases here : i = j
  · subst here
    obtain ⟨bound, -⟩ := List.getElem?_eq_some_iff.mp (place seen)
    rw [List.getElem?_set_self bound, place, if_pos List.mem_cons_self]
  · rw [List.getElem?_set_ne here, foundOf, foundOf, List.getElem?_zipWith, List.getElem?_zipWith]
    cases hg : fields[j]? with
    | none => rfl
    | some g =>
        have other : g.name ≠ f.name := fun same => here (index_unique distinct hf hg same).symm
        cases data[j]? with
        | none => rfl
        | some e => simp [other]

/-- All fields are found once all names were met. -/
theorem foundOf_all {seen : List String} (h : ∀ f ∈ fields, f.name ∈ seen)
    (same : fields.length = data.length) : foundOf fields data seen = data.map some := by
  induction fields generalizing data with
  | nil =>
      obtain rfl := List.length_eq_zero_iff.mp same.symm
      rfl
  | cons f fields ih =>
      cases data with
      | nil => cases same
      | cons d data =>
          have later := ih (fun g hg => h g (List.mem_cons_of_mem _ hg)) (Nat.succ.inj same)
          rw [foundOf] at later ⊢
          rw [List.zipWith_cons_cons, if_pos (h f List.mem_cons_self), later, List.map_cons]

/-- A member of an object agrees with a record: its value is that of the field of its name, if there
is such a field. -/
structure Agrees (read : κ → Node → Except ReadError δ) (fields : List (Field κ δ)) (data : List δ)
    (m : String × Node) : Prop where
  /-- Its value is JSON. -/
  intact : m.2.isIntact = true
  /-- A field of its name has its value. -/
  value : m.1 ∈ fields.map Field.name → ∃ (i : Nat) (f : Field κ δ) (d : δ),
    fields[i]? = some f ∧ data[i]? = some d ∧ f.name = m.1 ∧ read f.kind m.2 = .ok d

/-- A member of an unknown name is passed over. -/
theorem readFields_unknown {name : String} {node : Node} {rest : Fields} {found : List (Option δ)}
    (h : name ∉ fields.map Field.name) (intact : node.isIntact = true) :
    readFields read fields found (.field (some name) node rest) =
      readFields read fields found rest := by
  rw [readFields, fieldIndex?_eq_none h]
  simp only [intact, if_true]

/-- A member of a field that is not found yet is put in its place. -/
theorem readFields_known {i : Nat} {f : Field κ δ} {d : δ} {node : Node} {rest : Fields}
    {seen : List String} (distinct : (fields.map Field.name).Nodup) (hf : fields[i]? = some f)
    (hd : data[i]? = some d) (fresh : f.name ∉ seen) (hread : read f.kind node = .ok d) :
    readFields read fields (foundOf fields data seen) (.field (some f.name) node rest) =
      readFields read fields (foundOf fields data (f.name :: seen)) rest := by
  have free : ((foundOf fields data seen)[i]?.join).isSome = false := by
    rw [getElem?_foundOf seen hf hd, if_neg fresh]
    rfl
  rw [readFields, fieldIndex?_eq distinct hf, ← set_foundOf distinct hf hd seen]
  simp only [free, hf, hread]
  rfl

/-- **What is found in an object** whose members agree with a record and give each of its fields
once: the values of all fields, whatever the order of the members. -/
theorem readFields_ofMembers (distinct : (fields.map Field.name).Nodup)
    (same : fields.length = data.length) {members : List (String × Node)}
    (agree : ∀ m ∈ members, Agrees read fields data m)
    (once : ((members.map Prod.fst).filter (· ∈ fields.map Field.name)).Nodup)
    {seen : List String} (fresh : ∀ name ∈ members.map Prod.fst, name ∈ fields.map Field.name →
      name ∉ seen)
    (all : ∀ f ∈ fields, f.name ∈ seen ∨ f.name ∈ members.map Prod.fst) :
    readFields read fields (foundOf fields data seen) (.ofMembers members) =
      .ok (data.map some) := by
  -- The names that were met are kept apart from those that are still to come.
  induction members generalizing seen with
  | nil =>
      have met : ∀ f ∈ fields, f.name ∈ seen := fun f hf => (all f hf).resolve_right (by simp)
      rw [foundOf_all met same]
      rfl
  | cons m rest ih =>
      obtain ⟨name, node⟩ := m
      have here := agree _ List.mem_cons_self
      have later : ∀ m ∈ rest, Agrees read fields data m :=
        fun m hm => agree m (List.mem_cons_of_mem _ hm)
      rw [Fields.ofMembers]
      rw [List.map_cons] at once fresh all
      by_cases known : name ∈ fields.map Field.name
      · obtain ⟨i, f, d, hf, hd, rfl, hread⟩ := here.value known
        rw [List.filter_cons_of_pos (by simpa using known), List.nodup_cons] at once
        rw [readFields_known distinct hf hd (fresh _ List.mem_cons_self known) hread]
        refine ih later once.2 (fun other hother among => ?_) fun g hg => ?_
        · have differs : other ≠ f.name := by
            rintro rfl
            exact once.1 (List.mem_filter.mpr ⟨hother, by simpa using among⟩)
          simpa [differs] using fresh other (List.mem_cons_of_mem _ hother) among
        · rcases all g hg with met | met
          · exact .inl (List.mem_cons_of_mem _ met)
          · rcases List.mem_cons.mp met with new | old
            · exact .inl (new ▸ List.mem_cons_self)
            · exact .inr old
      · rw [List.filter_cons_of_neg (by simpa using known)] at once
        rw [readFields_unknown known here.intact]
        refine ih later once (fun other hother => fresh other (List.mem_cons_of_mem _ hother))
          fun g hg => ?_
        rcases all g hg with met | met
        · exact .inl met
        · refine .inr ((List.mem_cons.mp met).resolve_left ?_)
          rintro rfl
          exact known (List.mem_map_of_mem hg)

theorem completeFields_all (same : fields.length = data.length) :
    completeFields fields (data.map some) = .ok data := by
  induction fields generalizing data with
  | nil =>
      obtain rfl := List.length_eq_zero_iff.mp same.symm
      rfl
  | cons f fields ih =>
      cases data with
      | nil => cases same
      | cons d data =>
          rw [completeFields, List.map_cons, List.tail_cons, ih (Nat.succ.inj same)]
          rfl

/-- The values of fields are found in every object that agrees with them. -/
theorem readRecord_ofMembers (distinct : (fields.map Field.name).Nodup)
    (same : fields.length = data.length) {members : List (String × Node)}
    (agree : ∀ m ∈ members, Agrees read fields data m)
    (once : ((members.map Prod.fst).filter (· ∈ fields.map Field.name)).Nodup)
    (all : ∀ f ∈ fields, f.name ∈ members.map Prod.fst) :
    readRecord read fields (.object (.ofMembers members)) = .ok data := by
  have nothing : (fields.map fun _ => none) = foundOf fields data [] := by
    rw [foundOf, ← List.map_uncurry_zip_eq_zipWith]
    refine List.ext_getElem (by simp [same]) fun i _ _ => by simp
  have found : readFields read fields (foundOf fields data []) (.ofMembers members) =
      .ok (data.map some) :=
    readFields_ofMembers distinct same agree once (fun _ _ _ => List.not_mem_nil)
      fun f hf => .inr (all f hf)
  rw [readRecord, nothing, found]
  exact completeFields_all same

/-! ## Arrangements -/

/-- A member is one that is written for a field and its value. -/
def Member.Of (writes : κ → δ → List Char → Prop) (p : Field κ δ × δ) (m : Member) : Prop :=
  m.1 = p.1.name ∧ writes p.1.kind p.2 m.2

/-- The texts of a record whose values are written in given ways: the members of its fields, and
others of other names and without parts, in any order. -/
inductive Arrangement (writes : κ → δ → List Char → Prop) (fields : List (Field κ δ))
    (data : List δ) : List Char → Prop
  | mk {own other members : List Member}
      (written : List.Forall₂ (Member.Of writes) (fields.zip data) own)
      (unknown : ∀ m ∈ other, m.1 ∉ fields.map Field.name ∧ IsScalar m.2)
      (order : members.Perm (own ++ other)) : Arrangement writes fields data (objectChars members)

/-- The values of fields fit to the fields, whose names are distinct. -/
structure Conforms (holds : κ → δ → Prop) (fields : List (Field κ δ)) (data : List δ) : Prop where
  /-- No two fields have the same name. -/
  distinct : (fields.map Field.name).Nodup
  /-- Each value is of the kind of its field. -/
  values : List.Forall₂ (fun f d => holds f.kind d) fields data

theorem Conforms.holds_at {holds : κ → δ → Prop} (h : Conforms holds fields data) {i : Nat}
    {f : Field κ δ} {d : δ} (hf : fields[i]? = some f) (hd : data[i]? = some d) :
    holds f.kind d := by
  obtain ⟨hi, rfl⟩ := List.getElem?_eq_some_iff.mp hf
  obtain ⟨hj, rfl⟩ := List.getElem?_eq_some_iff.mp hd
  exact h.values.get hi hj

/-- What can be done for each element can be done for the list. -/
theorem exists_forall₂ {α β : Type} {R : α → β → Prop} {l : List α} (h : ∀ a ∈ l, ∃ b, R a b) :
    ∃ l', List.Forall₂ R l l' := by
  induction l with
  | nil => exact ⟨[], .nil⟩
  | cons a l ih =>
      obtain ⟨b, hb⟩ := h a List.mem_cons_self
      obtain ⟨l', hl'⟩ := ih fun a ha => h a (List.mem_cons_of_mem _ ha)
      exact ⟨b :: l', .cons hb hl'⟩

variable {writes : κ → δ → List Char → Prop} {holds : κ → δ → Prop} {depth : Nat}

/-- Each member of the record's own is that of one of its fields. -/
theorem exists_field {own : List Member}
    (written : List.Forall₂ (Member.Of writes) (fields.zip data) own) {m : Member} (hm : m ∈ own) :
    ∃ (i : Nat) (f : Field κ δ) (d : δ), fields[i]? = some f ∧ data[i]? = some d ∧
      m.1 = f.name ∧ writes f.kind d m.2 := by
  obtain ⟨i, bound, rfl⟩ := List.getElem_of_mem hm
  have inside : i < (fields.zip data).length := written.length_eq ▸ bound
  obtain ⟨name, value⟩ := written.get inside bound
  have pair := List.getElem?_zip_eq_some.mp (List.getElem?_eq_getElem inside)
  exact ⟨i, _, _, pair.1, pair.2, name, value⟩

/-- The record's own members have the names of its fields. -/
theorem names_own {own : List Member}
    (written : List.Forall₂ (Member.Of writes) (fields.zip data) own)
    (same : fields.length = data.length) : own.map Prod.fst = fields.map Field.name := by
  have fits : own.length = (fields.zip data).length := written.length_eq.symm
  refine List.ext_getElem (by simp [fits, same]) fun i bound _ => ?_
  rw [List.length_map] at bound
  have here := (written.get (fits ▸ bound) bound).1
  simpa using here

/-- Members are read with their names. -/
theorem names_of_reads {members : List Member} {nodes : List (String × Node)}
    (h : List.Forall₂ (Member.Reads depth) members nodes) :
    nodes.map Prod.fst = members.map Prod.fst := by
  induction h with
  | nil => rfl
  | cons here _ ih => rw [List.map_cons, List.map_cons, ih, here.1]

/-- Names that are known stand once among names, if the others are all unknown. -/
theorem nodup_filter_known {names known others : List String} (order : names.Perm (known ++ others))
    (distinct : known.Nodup) (foreign : ∀ name ∈ others, name ∉ known) :
    (names.filter (· ∈ known)).Nodup := by
  have none : others.filter (· ∈ known) = [] :=
    List.filter_eq_nil_iff.mpr fun name hname => by simpa using foreign name hname
  rw [(order.filter _).nodup_iff, List.filter_append, none, List.append_nil]
  exact distinct.filter _

/-- **Every arrangement of a record is read as the values of its fields**, if each of these can be
read. -/
theorem Arrangement.exists_reads (conforms : Conforms holds fields data)
    (value : ∀ {k d t}, holds k d → writes k d t →
      ∃ node, Reads depth t node ∧ read k node = .ok d)
    {t : List Char} (h : Arrangement writes fields data t) :
    ∃ node, Reads (depth + 1) t node ∧ readRecord read fields node = .ok data := by
  obtain ⟨written, unknown, order⟩ := h
  rename_i own other members
  have same := conforms.values.length_eq
  -- Each member is read alone, and then agrees with the record.
  obtain ⟨nodes, together⟩ : ∃ nodes, List.Forall₂
      (fun m f => Member.Reads depth m f ∧ Agrees read fields data f) members nodes := by
    refine exists_forall₂ fun m hm => ?_
    rcases List.mem_append.mp (order.mem_iff.mp hm) with mine | foreign
    · obtain ⟨i, f, d, hf, hd, name, hw⟩ := exists_field written mine
      obtain ⟨node, reads, hread⟩ := value (conforms.holds_at hf hd) hw
      exact ⟨(m.1, node), ⟨rfl, reads⟩, reads.intact, fun _ => ⟨i, f, d, hf, hd, name.symm, hread⟩⟩
    · obtain ⟨new, scalar⟩ := unknown m foreign
      obtain ⟨node, reads⟩ := scalar.exists_reads
      exact ⟨(m.1, node), ⟨rfl, reads.mono (Nat.zero_le _)⟩, reads.intact,
        fun known => absurd known new⟩
  have reads : List.Forall₂ (Member.Reads depth) members nodes := together.imp fun _ _ h => h.1
  have agree : ∀ m ∈ nodes, Agrees read fields data m := by
    intro m hm
    obtain ⟨i, hi, rfl⟩ := List.getElem_of_mem hm
    exact (together.get (together.length_eq ▸ hi) hi).2
  have met : (nodes.map Prod.fst).Perm (fields.map Field.name ++ other.map Prod.fst) := by
    rw [names_of_reads reads, ← names_own written same, ← List.map_append]
    exact order.map Prod.fst
  have foreign : ∀ name ∈ other.map Prod.fst, name ∉ fields.map Field.name := by
    intro name hname
    obtain ⟨m, hm, rfl⟩ := List.mem_map.mp hname
    exact (unknown m hm).1
  have once := nodup_filter_known met conforms.distinct foreign
  refine ⟨_, reads_object reads,
    readRecord_ofMembers conforms.distinct same agree once fun f hf => ?_⟩
  exact met.mem_iff.mpr (List.mem_append_left _ (List.mem_map_of_mem hf))

/-- What is written for a record is an arrangement: the fields in the order of their declaration. -/
theorem arrangement_object (json : κ → δ → Value)
    (value : ∀ p ∈ fields.zip data, writes p.1.kind p.2 (json p.1.kind p.2).chars) :
    Arrangement writes fields data
      (Value.object (List.zipWith (fun f d => (f.name, json f.kind d)) fields data)).chars := by
  rw [Value.chars_object]
  have nothing : ∀ m ∈ ([] : List Member), m.1 ∉ fields.map Field.name ∧ IsScalar m.2 := by simp
  refine .mk ?_ nothing (by rw [List.append_nil])
  rw [← List.map_uncurry_zip_eq_zipWith, List.map_map, List.forall₂_map_right_iff,
    List.forall₂_same]
  exact fun p hp => ⟨rfl, value p hp⟩

end Livecast.Json
