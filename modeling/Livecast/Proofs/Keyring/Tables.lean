import Livecast.Keyring
import Livecast.Proofs.Channel.Targets
import Livecast.Proofs.Channel.Thumbnails
import Livecast.Proofs.Toml.Tables

/-!
# The document of the keyring

The statements of the channels build one list of tables, to which each channel adds its own.  A
table is read as the channel that it was written for, except for targets that lack a size, which no
channel has that was itself read.

## Main Definitions

* `Toml.Value.id?`, `Toml.Value.key?` - what the table of a channel says
* `StoredChannel.table` - the table that the statements of a channel build
* `StoredChannel.Sized` - no target of the channel lacks a size
* `StoredChannel.reread` - what is read from the table of a channel
* `Keyring.listed` - the tree with some tables of channels
* `Keyring.documentTables?` - the tables of channels in a document

## Main Statements

* `StoredChannel.ofToml?_table`, `StoredChannel.reread_eq_iff` - what is read from a table
* `Keyring.documentTables?_write` - the tables of a written document
* `Keyring.channelsOf?_write` - the channels of a written document
-/

namespace Livecast

open Toml

/-- The identifier that the table of a channel says. -/
def Toml.Value.id? (t : Value) : Option String := (t.member? 0 "id").bind Value.text?

/-- The key that the table of a channel says. -/
def Toml.Value.key? (t : Value) : Option String := (t.member? 1 "key").bind Value.text?

namespace StoredChannel

/-! ## The table of a channel -/

/-- The entries of the table of a channel. -/
def entries (c : StoredChannel) : Entries :=
  [("id", .text c.id), ("key", .text c.key), ("record", .boolean c.record),
    ("resolutions", .text c.resolutions.text), ("previews", .text c.previews.text)]

/-- The table of a channel. -/
def table (c : StoredChannel) : Value := .table .headed c.entries

/-- The channel with the targets that their written form stands for. -/
def reread (c : StoredChannel) : StoredChannel :=
  { c with resolutions := .decode c.resolutions.text }

/-- **What is read from the table of a channel.** -/
theorem ofToml?_table (c : StoredChannel) : ofToml? c.table = some c.reread := by
  have id : c.table.member? 0 "id" = some (.text c.id) := rfl
  have key : c.table.member? 1 "key" = some (.text c.key) := rfl
  have record : c.table.member? 2 "record" = some (.boolean c.record) := rfl
  have targets : c.table.member? 3 "resolutions" = some (.text c.resolutions.text) := rfl
  have previews : c.table.member? 4 "previews" = some (.text c.previews.text) := by rfl
  rw [ofToml?, id, key, record, targets, previews]
  show some (StoredChannel.mk c.id c.key c.record (.decode c.resolutions.text)
    (.decode c.previews.text)) = _
  rw [reread, Previews.decode_text]

/-- No target of the channel lacks a size. -/
def Sized (c : StoredChannel) : Prop := ∀ r ∈ c.resolutions.entries, r.width ≠ 0 ∧ r.height ≠ 0

/-- A channel comes back from its table exactly if no target of it lacks a size. -/
theorem reread_eq_iff (c : StoredChannel) : c.reread = c ↔ c.Sized := by
  rw [Sized, ← ResolutionList.decode_text_eq_iff]
  constructor
  · intro same
    exact congrArg resolutions same
  · intro same
    rw [reread, same]

/-- What a table says of the channel that is read from it. -/
theorem ofToml?_cases {t : Value} {c : StoredChannel} (h : ofToml? t = some c) :
    t.id? = some c.id ∧ t.key? = some c.key ∧
      readOr .passthrough (fun v => v.text?.map ResolutionList.decode)
        (t.member? 3 "resolutions") = some c.resolutions := by
  rw [ofToml?] at h
  obtain ⟨-, -, h⟩ := Option.bind_eq_some_iff.mp h
  obtain ⟨first, id, h⟩ := Option.bind_eq_some_iff.mp h
  obtain ⟨name, named, h⟩ := Option.bind_eq_some_iff.mp h
  obtain ⟨second, key, h⟩ := Option.bind_eq_some_iff.mp h
  obtain ⟨word, worded, h⟩ := Option.bind_eq_some_iff.mp h
  obtain ⟨record, -, h⟩ := Option.bind_eq_some_iff.mp h
  obtain ⟨targets, read, h⟩ := Option.bind_eq_some_iff.mp h
  obtain ⟨previews, -, made⟩ := Option.bind_eq_some_iff.mp h
  obtain rfl := Option.some.inj made
  rw [Value.id?, Value.key?, id, key]
  exact ⟨named, worded, read⟩

/-- No target of a channel lacks a size that was read from a table. -/
theorem sized_of_ofToml? {t : Value} {c : StoredChannel} (h : ofToml? t = some c) : c.Sized := by
  obtain ⟨-, -, read⟩ := ofToml?_cases h
  intro r hr
  cases member : t.member? 3 "resolutions" with
  | none =>
      rw [member, readOr] at read
      rw [← Option.some.inj read] at hr
      cases hr
  | some value =>
      rw [member, readOr] at read
      obtain ⟨s, -, same⟩ := Option.map_eq_some_iff.mp read
      rw [← same] at hr
      exact r.hasSize_iff.mp (ResolutionList.hasSize_of_mem_decode hr)

/-- The statements of a channel are read as they are written. -/
theorem legible_statements (c : StoredChannel) : ∀ s ∈ c.statements, s.Legible := by
  intro s hs
  simp only [statements, List.mem_cons, List.not_mem_nil, or_false] at hs
  rcases hs with rfl | rfl | rfl | rfl | rfl | rfl
  · exact .element (by decide)
  · exact .entry (by decide) (Value.legible_text _)
  · exact .entry (by decide) (Value.legible_text _)
  · exact .entry (by decide) (Value.legible_boolean _)
  · exact .entry (by decide) (Value.legible_text _)
  · exact .entry (by decide) (Value.legible_text _)

end StoredChannel

namespace Keyring

/-! ## The list of tables -/

/-- The tree with some tables of channels, the last of which further entries go to. -/
def listed (tables : List Value) : Entries × List String :=
  if tables.isEmpty then ([], []) else ([("channels", .array true tables)], ["channels"])

/-- A header adds an empty table. -/
theorem obey_element (tables : List Value) :
    Entries.obey (listed tables) (.element (.single "channels")) =
      some (listed (tables ++ [.table .headed []])) := by
  cases tables with
  | nil => rfl
  | cons t more => rfl

/-- An entry is added to the last table, if it has none of that name. -/
theorem obey_entry {name : String} {entries : Entries} (h : name ∉ entries.map Prod.fst)
    (tables : List Value) (value : Value) :
    Entries.obey (listed (tables ++ [.table .headed entries])) (.entry (.single name) value) =
      some (listed (tables ++ [.table .headed (entries ++ [(name, value)])])) := by
  have last : Entries.alterLast (fun current => current.assign (.single name) value)
      (tables ++ [.table .headed entries]) =
        some (tables ++ [.table .headed (entries ++ [(name, value)])]) := by
    rw [Entries.alterLast, List.getLast?_concat, List.dropLast_concat]
    simp [Entries.assign, Entries.withinDotted, Key.single, Entries.add_eq_append h]
  have some_table (t : Value) : (tables ++ [t]).isEmpty = false := by simp
  rw [Entries.obey, listed, some_table, listed, some_table]
  simp [Entries.within, Entries.alter, last]

/-- **The statements of a channel add its table.** -/
theorem foldlM_statements (c : StoredChannel) (tables : List Value) :
    c.statements.foldlM Entries.obey (listed tables) = some (listed (tables ++ [c.table])) := by
  have lines : c.statements = .element (.single "channels") ::
      c.entries.map fun entry => Statement.entry (.single entry.1) entry.2 := rfl
  have names : (([] ++ c.entries).map Prod.fst).Nodup := by
    simp [StoredChannel.entries]
  have filled := foldlM_entries (fun fresh => obey_entry fresh tables) names
  rw [lines, List.foldlM_cons, obey_element, Option.bind_eq_bind, Option.bind_some, filled]
  rfl

theorem foldlM_channels (channels : List StoredChannel) (tables : List Value) :
    (channels.flatMap StoredChannel.statements).foldlM Entries.obey (listed tables) =
      some (listed (tables ++ channels.map StoredChannel.table)) := by
  induction channels generalizing tables with
  | nil => rw [List.map_nil, List.append_nil]; rfl
  | cons c more ih =>
      rw [List.flatMap_cons, List.foldlM_append, foldlM_statements, Option.bind_eq_bind,
        Option.bind_some, ih, List.append_assoc]
      rfl

/-! ## The channels of tables -/

/-- A list is made element by element exactly if each element is made in its place. -/
theorem mapM_eq_some_iff {α β : Type} {f : α → Option β} {as : List α} {bs : List β} :
    as.mapM f = some bs ↔ as.map f = bs.map some := by
  induction as generalizing bs with
  | nil => cases bs <;> simp
  | cons a rest ih =>
      rw [List.mapM_cons, List.map_cons, Option.bind_eq_bind, Option.bind_eq_some_iff]
      constructor
      · rintro ⟨b, made, more⟩
        obtain ⟨bs', later, same⟩ := Option.bind_eq_some_iff.mp more
        obtain rfl := Option.some.inj same
        rw [made, ih.mp later, List.map_cons]
      · intro made
        cases bs with
        | nil => cases made
        | cons b bs' =>
            obtain ⟨head, tail⟩ := List.cons.inj made
            exact ⟨b, head, Option.bind_eq_some_iff.mpr ⟨bs', ih.mpr tail, rfl⟩⟩

theorem exists_of_mem_mapM {α β : Type} {f : α → Option β} {as : List α} {bs : List β}
    (h : as.mapM f = some bs) {b : β} (hb : b ∈ bs) : ∃ a ∈ as, f a = some b := by
  have somewhere : some b ∈ as.map f := by
    rw [mapM_eq_some_iff.mp h]
    exact List.mem_map_of_mem hb
  exact List.mem_map.mp somewhere

theorem exists_mem_of_mapM {α β : Type} {f : α → Option β} {as : List α} {bs : List β}
    (h : as.mapM f = some bs) {a : α} (ha : a ∈ as) : ∃ b ∈ bs, f a = some b := by
  have somewhere : f a ∈ bs.map some := by
    rw [← mapM_eq_some_iff.mp h]
    exact List.mem_map_of_mem ha
  obtain ⟨b, hb, same⟩ := List.mem_map.mp somewhere
  exact ⟨b, hb, same.symm⟩

theorem exists_mapM {α β : Type} {f : α → Option β} {as : List α}
    (h : ∀ a ∈ as, (f a).isSome = true) : ∃ bs, as.mapM f = some bs := by
  refine ⟨as.filterMap f, mapM_eq_some_iff.mpr ?_⟩
  induction as with
  | nil => rfl
  | cons a rest ih =>
      obtain ⟨b, made⟩ := Option.isSome_iff_exists.mp (h a (by simp))
      rw [List.map_cons, List.filterMap_cons_some made, List.map_cons, made,
        ih fun a ha => h a (List.mem_cons_of_mem _ ha)]

/-! ## The written document -/

/-- The tables of channels in a document. -/
def documentTables? (s : String) : Option (List Value) := (Toml.read? s).bind tables?

theorem channelsOf?_eq (s : String) :
    channelsOf? s = (documentTables? s).bind fun tables => tables.mapM StoredChannel.ofToml? := by
  rw [channelsOf?, documentTables?]
  cases Toml.read? s <;> rfl

/-- **No target of a channel lacks a size that was read from a document.** -/
theorem sized_of_channelsOf? {s : String} {cs : List StoredChannel} (h : channelsOf? s = some cs) :
    ∀ c ∈ cs, c.Sized := by
  intro c hc
  rw [channelsOf?_eq] at h
  obtain ⟨tables, -, made⟩ := Option.bind_eq_some_iff.mp h
  obtain ⟨table, -, read⟩ := exists_of_mem_mapM made hc
  exact StoredChannel.sized_of_ofToml? read

/-- A document of legible lines has the tables that these lines build. -/
theorem documentTables?_of_lines {lines : List Statement} {tables : List Value}
    (legible : ∀ s ∈ lines, s.Legible)
    (tree : lines.foldlM Entries.obey (listed []) = some (listed tables)) :
    documentTables? (Toml.write lines) = some tables := by
  have built : Entries.ofStatements? lines = some (listed tables).1 := by
    rw [Entries.ofStatements?]
    exact congrArg (Option.map Prod.fst) tree
  rw [documentTables?, Toml.read?, readStatements?_write legible, Option.bind_eq_bind,
    Option.bind_some, built, Option.bind_some]
  cases tables <;> rfl

/-- **A written document has the tables of its channels.** -/
theorem documentTables?_write (channels : List StoredChannel) :
    documentTables? (write channels) = some (channels.map StoredChannel.table) := by
  cases channels with
  | nil =>
      have legible : ∀ s ∈ [Statement.entry (.single "channels") (.array false [])], s.Legible := by
        intro s hs
        rw [List.mem_singleton.mp hs]
        exact .entry (by decide) Value.legible_nil
      have lines : readStatements? (write []) = _ := readStatements?_write legible
      rw [documentTables?, Toml.read?, lines]
      rfl
  | cons c more =>
      have legible : ∀ s ∈ (c :: more).flatMap StoredChannel.statements, s.Legible := by
        intro s hs
        obtain ⟨d, -, hs⟩ := List.mem_flatMap.mp hs
        exact d.legible_statements s hs
      exact documentTables?_of_lines legible (foldlM_channels (c :: more) [])

/-- **A written document is read as its channels**, each with the targets that have a size. -/
theorem channelsOf?_write (channels : List StoredChannel) :
    channelsOf? (write channels) = some (channels.map StoredChannel.reread) := by
  have each : StoredChannel.ofToml? ∘ StoredChannel.table = fun c => pure c.reread :=
    funext StoredChannel.ofToml?_table
  rw [channelsOf?_eq, documentTables?_write, Option.bind_some, List.mapM_map, each, List.mapM_pure]
  rfl

/-- Channels none of which has a target without a size come back as they are. -/
theorem channelsOf?_write_of_sized {channels : List StoredChannel} (h : ∀ c ∈ channels, c.Sized) :
    channelsOf? (write channels) = some channels := by
  have same : channels.map StoredChannel.reread = channels.map id :=
    List.map_congr_left fun c hc => c.reread_eq_iff.mpr (h c hc)
  rw [channelsOf?_write, same, List.map_id]

end Keyring

end Livecast
