import Livecast.Api.Records
import Livecast.Proofs.Json.RoundTrip

/-!
# Records of the administration interface

Every value that a client and the server tell each other is read back from its text, whatever the
order of its fields and of those of the records in its lists, and whatever else an object holds.

## Main Statements

* `Api.records_roundTrip` - all types of the interface obey the law of exchanged types
-/

namespace Livecast.Api

open Livecast.Json Livecast.Json.Record

/-! ## Records in lists -/

/-- Rows that were made of values one by one are turned back one by one. -/
theorem mapM_map_of_inverse {α β : Type} {row : α → β} {ofRow? : β → Option α}
    (inverse : ∀ a, ofRow? (row a) = some a) (l : List α) :
    (l.map row).mapM ofRow? = some l := by
  induction l with
  | nil => rfl
  | cons a l ih =>
      rw [List.map_cons, List.mapM_cons, inverse, ih]
      rfl

theorem StreamVariant.conforms_toRow (s : StreamVariant) :
    Conforms (fun k d => d.kind = k) StreamVariant.fields s.toRow where
  distinct := by decide
  values := by simp [StreamVariant.fields, toRow, required]

theorem Recording.conforms_toRow (v : Recording) :
    Conforms (fun k d => d.kind = k) Recording.fields v.toRow where
  distinct := by decide
  values := by simp [Recording.fields, toRow, required]

theorem mapM_variants (l : List StreamVariant) :
    (l.map StreamVariant.toRow).mapM StreamVariant.ofRow? = some l := by
  have inverse (s : StreamVariant) : StreamVariant.ofRow? s.toRow = some s := rfl
  exact mapM_map_of_inverse inverse l

theorem mapM_recordings (l : List Recording) :
    (l.map Recording.toRow).mapM Recording.ofRow? = some l := by
  have inverse (v : Recording) : Recording.ofRow? v.toRow = some v := rfl
  exact mapM_map_of_inverse inverse l

/-! ## The types of the interface -/

theorem IngestBases.lawful : Lawful IngestBases where
  conforms d := ⟨by decide, by simp [Record.fields, toData, single, required, FieldKind.Holds]⟩
  ofData?_toData _ := rfl

theorem ChannelDraft.lawful : Lawful ChannelDraft where
  conforms d := ⟨by decide, by simp [Record.fields, toData, single, required, FieldKind.Holds]⟩
  ofData?_toData _ := rfl

theorem ChannelChange.lawful : Lawful ChannelChange where
  conforms d := ⟨by decide, by simp [Record.fields, toData, single, required, FieldKind.Holds]⟩
  ofData?_toData _ := rfl

theorem ChannelCredentials.lawful : Lawful ChannelCredentials where
  conforms d := ⟨by decide, by simp [Record.fields, toData, single, required, FieldKind.Holds]⟩
  ofData?_toData _ := rfl

theorem StreamVariant.lawful : Lawful StreamVariant where
  conforms s := ⟨by decide, by
    simp [Record.fields, toData, StreamVariant.fields, toRow, single, required, FieldKind.Holds]⟩
  ofData?_toData _ := rfl

theorem ChannelState.lawful : Lawful ChannelState where
  conforms s := ⟨by decide, by
    simp [Record.fields, toData, single, listOf, required, FieldKind.Holds,
      StreamVariant.conforms_toRow]⟩
  ofData?_toData s := by simp only [ofData?, toData, mapM_variants, Option.map_some]

theorem Recording.lawful : Lawful Recording where
  conforms v := ⟨by decide, by
    simp [Record.fields, toData, Recording.fields, toRow, single, required, FieldKind.Holds]⟩
  ofData?_toData _ := rfl

theorem RecordingList.lawful : Lawful RecordingList where
  conforms l := ⟨by decide, by
    simp [Record.fields, toData, listOf, FieldKind.Holds, Recording.conforms_toRow]⟩
  ofData?_toData l := by simp only [ofData?, toData, mapM_recordings, Option.map_some]

theorem RecordingPlayback.lawful : Lawful RecordingPlayback where
  conforms v := ⟨by decide, by
    simp [Record.fields, toData, single, listOf, required, FieldKind.Holds,
      StreamVariant.conforms_toRow]⟩
  ofData?_toData v := by simp only [ofData?, toData, mapM_variants, Option.map_some]

/-- **Every value of the interface is read back** from its compact text, and from this text with the
fields of its objects in another order and with others added. -/
theorem records_roundTrip :
    RoundTrips IngestBases ∧ RoundTrips ChannelDraft ∧ RoundTrips ChannelChange ∧
      RoundTrips ChannelCredentials ∧ RoundTrips StreamVariant ∧ RoundTrips ChannelState ∧
      RoundTrips Recording ∧ RoundTrips RecordingList ∧ RoundTrips RecordingPlayback :=
  ⟨IngestBases.lawful.roundTrips, ChannelDraft.lawful.roundTrips, ChannelChange.lawful.roundTrips,
    ChannelCredentials.lawful.roundTrips, StreamVariant.lawful.roundTrips,
    ChannelState.lawful.roundTrips, Recording.lawful.roundTrips, RecordingList.lawful.roundTrips,
    RecordingPlayback.lawful.roundTrips⟩

/-- A recording whose fields are turned round, in an object that begins with an unknown field. -/
theorem records_roundTrip_reordered :
    decode RecordingList
        "\x7b\"total\":1,\"vod_list\":[\x7b\"timestamp\":\"t\",\"streamId\":\"s\"\x7d]\x7d" =
      .ok ⟨[⟨"s", "t"⟩]⟩ := by
  have inner : List.Forall₂ (Member.Of fun _ (d : Datum) t => t = d.json.chars)
      (Recording.fields.zip (Recording.toRow ⟨"s", "t"⟩))
      [("streamId", stringChars "s"), ("timestamp", stringChars "t")] :=
    .cons ⟨rfl, rfl⟩ (.cons ⟨rfl, rfl⟩ .nil)
  have row : Row Recording.fields (Recording.toRow ⟨"s", "t"⟩)
      (objectChars [("timestamp", stringChars "t"), ("streamId", stringChars "s")]) :=
    .mk inner (List.forall_mem_nil _) (.swap _ _ [])
  have outer : List.Forall₂ (Member.Of FieldDatum.Writes)
      ((Record.fields RecordingList).zip (toData (⟨[⟨"s", "t"⟩]⟩ : RecordingList)))
      [("vod_list", arrayChars
        [objectChars [("timestamp", stringChars "t"), ("streamId", stringChars "s")]])] :=
    .cons ⟨rfl, .records (.cons row .nil)⟩ .nil
  have one : IsScalar ['1'] := by
    have whole : IsWhole ['1'] := ⟨by decide, by decide⟩
    exact .number (.mk (.inl rfl) whole .absent .absent)
  have unknown : ∀ m ∈ [(("total", ['1']) : Member)],
      m.1 ∉ (Record.fields RecordingList).map Field.name ∧ IsScalar m.2 := by
    intro m hm
    obtain rfl := List.mem_singleton.mp hm
    exact ⟨by decide, one⟩
  exact records_roundTrip.2.2.2.2.2.2.2.1.rearranged _ (.mk outer unknown (.swap _ _ []))

end Livecast.Api
