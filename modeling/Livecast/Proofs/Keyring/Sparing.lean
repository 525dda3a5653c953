import Livecast.Proofs.Keyring.Keeping

/-!
# Which tables a change spares

A channel is stored among those that were read.  If every table of the file is a complete channel,
then all of them were read, and the tables of other identifiers are spared.  If one of them is not,
then the whole file counts as empty, and after the change the stored channel is the only one.

## Main Definitions

* `Keyring.Spared` - the tables of other identifiers are still there

## Main Statements

* `Keyring.documentTables?_put` - the tables after a channel has been stored
* `Keyring.put_spares_iff` - when the tables of other identifiers are spared
-/

namespace Livecast

open Toml

namespace StoredChannel

theorem id?_table (c : StoredChannel) : c.table.id? = some c.id := rfl

theorem key?_table (c : StoredChannel) : c.table.key? = some c.key := rfl

end StoredChannel

namespace Keyring

variable {keyring : Keyring} {v w : Volume} {c : StoredChannel} {s : String} {tables : List Value}

/-- Each table of another identifier is still there, with the same identifier and the same key. -/
def Spared (id : String) (tables after : List Value) : Prop :=
  ∀ t ∈ tables, t.id? ≠ some id → ∃ u ∈ after, u.id? = t.id? ∧ u.key? = t.key?

/-- **The tables after a channel has been stored**: those of the channels that were read, with it in
its place. -/
theorem documentTables?_put (h : keyring.put v c = (w, .ok ())) :
    ∃ after, w.readText keyring.path = .ok after ∧ documentTables? after =
      some ((replaceOrAdd c (keyring.channels v)).map StoredChannel.table) :=
  ⟨_, readText_keep h, documentTables?_write _⟩

/-- The channels of a document are those of its tables. -/
theorem channels_eq (text : v.readText keyring.path = .ok s)
    (read : documentTables? s = some tables) :
    keyring.channels v = (tables.mapM StoredChannel.ofToml?).getD [] := by
  rw [channels, text]
  dsimp only
  rw [channelsOf?_eq, read, Option.bind_some]

/-- If a table is no complete channel, none is read. -/
theorem channels_of_incomplete (text : v.readText keyring.path = .ok s)
    (read : documentTables? s = some tables) (h : ∃ t ∈ tables, StoredChannel.ofToml? t = none) :
    keyring.channels v = [] := by
  rw [channels_eq text read]
  cases made : tables.mapM StoredChannel.ofToml? with
  | none => rfl
  | some cs =>
      obtain ⟨t, ht, incomplete⟩ := h
      obtain ⟨d, -, complete⟩ := exists_mem_of_mapM made ht
      rw [incomplete] at complete
      cases complete

/-- If each table is a complete channel, each is read. -/
theorem channels_of_complete (text : v.readText keyring.path = .ok s)
    (read : documentTables? s = some tables)
    (h : ∀ t ∈ tables, (StoredChannel.ofToml? t).isSome = true) {t : Value} (ht : t ∈ tables) :
    ∃ d ∈ keyring.channels v, t.id? = some d.id ∧ t.key? = some d.key := by
  obtain ⟨cs, made⟩ := exists_mapM h
  obtain ⟨d, hd, complete⟩ := exists_mem_of_mapM made ht
  obtain ⟨id, key, -⟩ := StoredChannel.ofToml?_cases complete
  refine ⟨d, ?_, id, key⟩
  rw [channels_eq text read, made]
  exact hd

/-- **When the tables of other identifiers are spared.**  Let the file be a document with some
tables of channels, and let a channel be stored.  The file is then a document that has the tables of
other identifiers exactly if there are none, or if each table was a complete channel before.  If one
was not, then nothing but the table of the stored channel is left. -/
theorem put_spares_iff (text : v.readText keyring.path = .ok s)
    (read : documentTables? s = some tables) (h : keyring.put v c = (w, .ok ())) :
    ∃ after left, w.readText keyring.path = .ok after ∧ documentTables? after = some left ∧
      (Spared c.id tables left ↔
        (∀ t ∈ tables, (StoredChannel.ofToml? t).isSome = true) ∨
          ∀ t ∈ tables, t.id? = some c.id) ∧
      ((∃ t ∈ tables, StoredChannel.ofToml? t = none) → left = [c.table]) := by
  obtain ⟨after, written, left⟩ := documentTables?_put h
  have alone : (∃ t ∈ tables, StoredChannel.ofToml? t = none) →
      (replaceOrAdd c (keyring.channels v)).map StoredChannel.table = [c.table] := by
    intro incomplete
    rw [channels_of_incomplete text read incomplete]
    rfl
  refine ⟨after, _, written, left, ⟨fun spared => ?_, fun good => ?_⟩, alone⟩
  · by_cases incomplete : ∃ t ∈ tables, StoredChannel.ofToml? t = none
    · -- the only table that is left has no other identifier
      right
      intro t ht
      refine Classical.byContradiction fun other => ?_
      obtain ⟨u, hu, same, -⟩ := spared t ht other
      rw [alone incomplete, List.mem_singleton] at hu
      rw [hu, c.id?_table] at same
      exact other same.symm
    · left
      intro t ht
      rw [Option.isSome_iff_ne_none]
      exact fun none => incomplete ⟨t, ht, none⟩
  · intro t ht other
    rcases good with complete | same
    · obtain ⟨d, hd, id, key⟩ := channels_of_complete text read complete ht
      have kept : d ∈ replaceOrAdd c (keyring.channels v) :=
        mem_replaceOrAdd_of_ne hd fun same => other (by rw [id, same])
      refine ⟨d.table, List.mem_map_of_mem kept, ?_, ?_⟩
      · rw [id, d.id?_table]
      · rw [key, d.key?_table]
    · exact absurd (same t ht) other

/-- A channel takes the place of another one in a file of complete channels, and the table of the
other identifier is spared. -/
theorem put_spares_complete : ∃ w after left,
    put ⟨fileName⟩ (volumeOf (write [.plain "a" "k", .plain "b" "l"])) (.plain "b" "m") =
        (w, .ok ()) ∧
      w.readText fileName = .ok after ∧ documentTables? after = some left ∧
      Spared "b" ([.plain "a" "k", .plain "b" "l"].map StoredChannel.table) left := by
  have read := documentTables?_write [.plain "a" "k", .plain "b" "l"]
  have stored := keep_volumeOf (write [.plain "a" "k", .plain "b" "l"]) (replaceOrAdd
    (.plain "b" "m") (channels ⟨fileName⟩ (volumeOf (write [.plain "a" "k", .plain "b" "l"]))))
  obtain ⟨after, left, written, found, spared, -⟩ :=
    put_spares_iff (readText_volumeOf _) read stored
  refine ⟨_, after, left, stored, written, found, spared.mpr (.inl ?_)⟩
  intro t ht
  obtain ⟨c, -, rfl⟩ := List.mem_map.mp ht
  rw [c.ofToml?_table]
  rfl

/-- The lines of a channel, and of another one that has no key. -/
def keylessLines : List Statement :=
  (StoredChannel.plain "a" "k").statements ++
    [.element (.single "channels"), .entry (.single "id") (.text "b")]

/-- The tables of a channel, and of another one that has no key. -/
def keylessTables : List Value :=
  [(StoredChannel.plain "a" "k").table, .table .headed [("id", .text "b")]]

theorem documentTables?_keyless :
    documentTables? (Toml.write keylessLines) = some keylessTables := by
  have legible : ∀ s ∈ keylessLines, s.Legible := by
    intro s hs
    rcases List.mem_append.mp hs with hs | hs
    · exact StoredChannel.legible_statements _ s hs
    · simp only [List.mem_cons, List.not_mem_nil, or_false] at hs
      rcases hs with rfl | rfl
      · exact .element (by decide)
      · exact .entry (by decide) (Value.legible_text _)
  have first := foldlM_statements (.plain "a" "k") []
  refine documentTables?_of_lines legible ?_
  rw [keylessLines, List.foldlM_append, first]
  rfl

/-- A channel is stored beside one that has no key, and the complete one is lost. -/
theorem put_loses_others :
    documentTables? (Toml.write keylessLines) = some keylessTables ∧ ∃ w after left,
      put ⟨fileName⟩ (volumeOf (Toml.write keylessLines)) (.plain "c" "l") = (w, .ok ()) ∧
      w.readText fileName = .ok after ∧ documentTables? after = some left ∧
      ¬ Spared "c" keylessTables left := by
  have read := documentTables?_keyless
  have stored := keep_volumeOf (Toml.write keylessLines) (replaceOrAdd (.plain "c" "l")
    (channels ⟨fileName⟩ (volumeOf (Toml.write keylessLines))))
  obtain ⟨after, written, left⟩ := documentTables?_put (c := .plain "c" "l") stored
  have incomplete : ∃ t ∈ keylessTables, StoredChannel.ofToml? t = none :=
    ⟨.table .headed [("id", .text "b")], by simp [keylessTables], by rfl⟩
  have none_read : channels ⟨fileName⟩ (volumeOf (Toml.write keylessLines)) = [] :=
    channels_of_incomplete (readText_volumeOf _) read incomplete
  refine ⟨read, _, after, _, stored, written, left, ?_⟩
  intro spared
  obtain ⟨u, hu, same, -⟩ := spared (StoredChannel.plain "a" "k").table
    (by simp [keylessTables]) (by rw [StoredChannel.id?_table]; decide)
  rw [none_read] at hu
  rw [List.mem_singleton.mp hu] at same
  exact absurd same (by decide)

end Keyring

end Livecast
