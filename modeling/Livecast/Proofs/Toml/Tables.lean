import Livecast.Proofs.Toml.Statements
import Mathlib.Data.List.Nodup

/-!
# Documents of tables

A header opens a table, and the entries that follow it are added to this table one by one.  So a
document of tables with different names, each of whose entries have different names, is read as the
tables that it was written from, in whatever order they stand.

## Main Definitions

* `Toml.Table` - a table with its name, `Toml.Table.statements` - what is written for it

## Main Statements

* `Toml.foldlM_entries` - entries of different names are all added
* `Toml.read?_tables` - a document of tables is read as these tables
-/

namespace Livecast.Toml

variable {name : String} {entries : Entries}

/-- Among different names none stands in front of itself. -/
theorem fresh_of_nodup {α : Type} {front more : List (String × α)} {a : α}
    (h : ((front ++ (name, a) :: more).map Prod.fst).Nodup) : name ∉ front.map Prod.fst := by
  rw [List.map_append, List.map_cons, List.nodup_middle] at h
  exact fun inside => (List.nodup_cons.mp h).1 (List.mem_append_left _ inside)

/-! ## Changing one name -/

/-- A name that is not there is put behind the others. -/
theorem Entries.alter_absent (h : name ∉ entries.map Prod.fst)
    (change : Option Value → Option Value) :
    entries.alter name change = (change none).map fun value => entries ++ [(name, value)] := by
  induction entries with
  | nil => rfl
  | cons entry more ih =>
      obtain ⟨other, held⟩ := entry
      obtain ⟨first, later⟩ := List.ne_and_not_mem_of_not_mem_cons h
      rw [alter, if_neg first.symm, ih later, Option.map_map]
      rfl

/-- The last name is changed in its place, if it is not there before. -/
theorem Entries.alter_last (h : name ∉ entries.map Prod.fst) (change : Option Value → Option Value)
    (value : Value) :
    Entries.alter name change (entries ++ [(name, value)]) =
      (change (some value)).map fun value => entries ++ [(name, value)] := by
  induction entries with
  | nil =>
      rw [List.nil_append, alter, if_pos rfl]
      rfl
  | cons entry more ih =>
      obtain ⟨other, held⟩ := entry
      obtain ⟨first, later⟩ := List.ne_and_not_mem_of_not_mem_cons h
      rw [List.cons_append, alter, if_neg first.symm, ih later, Option.map_map]
      rfl

/-- A name is added behind the others, if it is not among them. -/
theorem Entries.add_eq_append (h : name ∉ entries.map Prod.fst) (value : Value) :
    entries.add name value = some (entries ++ [(name, value)]) :=
  alter_absent h _

/-- A name leads to its value, if no other entry has this name. -/
theorem Entries.lookup_of_mem {value : Value} (distinct : (entries.map Prod.fst).Nodup)
    (h : (name, value) ∈ entries) : entries.lookup name = some value := by
  induction entries with
  | nil => cases h
  | cons entry more ih =>
      obtain ⟨other, held⟩ := entry
      obtain ⟨first, rest⟩ := List.nodup_cons.mp distinct
      rcases List.mem_cons.mp h with same | later
      · obtain ⟨rfl, rfl⟩ := Prod.mk.inj same
        rw [List.lookup_cons_self]
      · have differs : (name == other) = false := by
          refine beq_eq_false_iff_ne.mpr ?_
          rintro rfl
          exact first (List.mem_map.mpr ⟨_, later, rfl⟩)
        rw [List.lookup_cons, differs]
        exact ih rest later

theorem Entries.lookup_of_not_mem (h : name ∉ entries.map Prod.fst) :
    entries.lookup name = none := by
  refine List.lookup_eq_none_iff.mpr fun entry inside => ?_
  refine bne_iff_ne.mpr ?_
  rintro rfl
  exact h (List.mem_map_of_mem inside)

/-! ## Entries -/

/-- Entries of different names are all added, if each of them alone is added where it is new. -/
theorem foldlM_entries {state : Entries → Entries × List String}
    (step : ∀ {inner : Entries} {name : String}, name ∉ inner.map Prod.fst → ∀ value,
      Entries.obey (state inner) (.entry (.single name) value) =
        some (state (inner ++ [(name, value)])))
    {inner more : Entries} (h : ((inner ++ more).map Prod.fst).Nodup) :
    (more.map fun entry => Statement.entry (.single entry.1) entry.2).foldlM Entries.obey
      (state inner) = some (state (inner ++ more)) := by
  induction more generalizing inner with
  | nil => rw [List.append_nil]; rfl
  | cons entry rest ih =>
      obtain ⟨name, value⟩ := entry
      have fresh : name ∉ inner.map Prod.fst := fresh_of_nodup h
      have order : inner ++ (name, value) :: rest = (inner ++ [(name, value)]) ++ rest := by
        simp
      rw [List.map_cons, List.foldlM_cons, step fresh, Option.bind_eq_bind, Option.bind_some]
      rw [order] at h ⊢
      exact ih h

/-! ## Tables -/

/-- A table with its name. -/
abbrev Table := String × Entries

/-- The statements of a table: its header, and its entries. -/
def Table.statements (t : Table) : List Statement :=
  .table (.single t.1) :: t.2.map fun entry => .entry (.single entry.1) entry.2

/-- The tree of tables. -/
def treeOf (tables : List Table) : Entries := tables.map fun t => (t.1, .table .headed t.2)

theorem names_treeOf (tables : List Table) :
    (treeOf tables).map Prod.fst = tables.map Prod.fst := by
  rw [treeOf, List.map_map]
  rfl

/-- The tree with a table behind the others that further entries go to. -/
def opened (entries : Entries) (name : String) (inner : Entries) : Entries × List String :=
  (entries ++ [(name, .table .headed inner)], [name])

/-- A header opens a table of a new name. -/
theorem obey_header (h : name ∉ entries.map Prod.fst) (current : List String) :
    Entries.obey (entries, current) (.table (.single name)) = some (opened entries name []) := by
  have made : entries.openTable (.single name) =
      some (entries ++ [(name, .table .headed [])]) := by
    rw [Entries.openTable]
    exact Entries.alter_absent h _
  rw [Entries.obey, made]
  rfl

/-- An entry is added to the table that was opened last. -/
theorem obey_inside (h : name ∉ entries.map Prod.fst) {inner : Entries} {key : String}
    (fresh : key ∉ inner.map Prod.fst) (value : Value) :
    Entries.obey (opened entries name inner) (.entry (.single key) value) =
      some (opened entries name (inner ++ [(key, value)])) := by
  have added : Entries.assign inner (.single key) value = some (inner ++ [(key, value)]) :=
    Entries.add_eq_append fresh value
  rw [Entries.obey, opened]
  simp only [Entries.within, Entries.alter_last h, added]
  rfl

/-- **The statements of tables build these tables.** -/
theorem foldlM_tables {before tables : List Table}
    (distinct : ((before ++ tables).map Prod.fst).Nodup)
    (inside : ∀ t ∈ tables, (t.2.map Prod.fst).Nodup) (current : List String) :
    ∃ last, (tables.flatMap Table.statements).foldlM Entries.obey (treeOf before, current) =
      some (treeOf (before ++ tables), last) := by
  induction tables generalizing before current with
  | nil => exact ⟨current, by rw [List.append_nil]; rfl⟩
  | cons t rest ih =>
      obtain ⟨name, inner⟩ := t
      have fresh : name ∉ (treeOf before).map Prod.fst := by
        rw [names_treeOf]
        exact fresh_of_nodup distinct
      have order : before ++ (name, inner) :: rest = (before ++ [(name, inner)]) ++ rest := by simp
      have filled : (inner.map fun entry => Statement.entry (.single entry.1) entry.2).foldlM
          Entries.obey (opened (treeOf before) name []) =
            some (opened (treeOf before) name inner) :=
        foldlM_entries (obey_inside fresh) (inside _ List.mem_cons_self)
      have here :
          opened (treeOf before) name inner = (treeOf (before ++ [(name, inner)]), [name]) := by
        simp [opened, treeOf]
      rw [order] at distinct ⊢
      obtain ⟨last, more⟩ := ih distinct (fun t ht => inside t (List.mem_cons_of_mem _ ht)) [name]
      refine ⟨last, ?_⟩
      rw [List.flatMap_cons, List.foldlM_append, Table.statements, List.foldlM_cons,
        obey_header fresh, Option.bind_eq_bind, Option.bind_some, filled, Option.bind_some, here,
        more]

/-- **A document of tables is read as these tables**, if all of it can be read as it is written. -/
theorem read?_tables {tables : List Table} (distinct : (tables.map Prod.fst).Nodup)
    (inside : ∀ t ∈ tables, (t.2.map Prod.fst).Nodup)
    (legible : ∀ t ∈ tables, ∀ s ∈ t.statements, s.Legible) :
    read? (write (tables.flatMap Table.statements)) = some (treeOf tables) := by
  have lines : ∀ s ∈ tables.flatMap Table.statements, s.Legible := by
    intro s hs
    obtain ⟨t, ht, hs⟩ := List.mem_flatMap.mp hs
    exact legible t ht s hs
  have whole : (([] ++ tables).map Prod.fst).Nodup := distinct
  obtain ⟨last, tree⟩ := foldlM_tables whole inside []
  have empty : treeOf [] = [] := rfl
  rw [empty, List.nil_append] at tree
  rw [read?, readStatements?_write lines, Option.bind_eq_bind, Option.bind_some,
    Entries.ofStatements?, tree]
  rfl

end Livecast.Toml
