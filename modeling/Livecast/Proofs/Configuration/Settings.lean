import Livecast.Configuration
import Livecast.Proofs.Toml.Tables

/-!
# Settings that a document gives

A configuration has seven settings in three sections.  A document gives some of them: it has the
table of each section of which it gives a setting, and perhaps those of other sections.  Whatever it
gives is taken from it and everything else has its default, which does not depend on whether a whole
section is missing or only a setting in it.

## Main Definitions

* `Configuration.Setting` - the settings, with their section, their name and their value
* `Configuration.overlay` - the standard configuration with some settings replaced
* `Configuration.Gives`, `Configuration.Describes` - a tree or a text gives exactly some settings
  of a configuration
* `Configuration.Layout` - the sections and settings of a document in their order

## Main Statements

* `Configuration.Gives.ofEntries?_eq` - what is read from a tree
* `Configuration.Layout.Of.describes` - every layout is written as a document that gives its
  settings
* `Configuration.ofToml?_toml` - the document of a configuration is read as this configuration
-/

namespace Livecast.Configuration

open Toml

/-! ## Settings -/

/-- The settings of a configuration. -/
inductive Setting where
  /-- The base of the URLs for streams. -/
  | streams
  /-- The base of the URLs for requests. -/
  | requests
  /-- Seconds between two heartbeats. -/
  | heartbeat
  /-- Milliseconds between two captured segments. -/
  | capture
  /-- How many bytes are read from the input at once. -/
  | chunk
  /-- Whether received media are kept after the session has closed. -/
  | retain
  /-- The level of the log. -/
  | level
deriving DecidableEq

namespace Setting

/-- The section that a setting belongs to. -/
def table : Setting → String
  | streams | requests => "server"
  | heartbeat | capture | chunk | retain => "session"
  | level => "logging"

/-- The name of a setting in its section. -/
def name : Setting → String
  | streams => "ws_base_url"
  | requests => "api_base_url"
  | heartbeat => "heartbeat_interval_secs"
  | capture => "capture_interval_ms"
  | chunk => "capture_chunk_bytes"
  | retain => "retain_watch_buffer"
  | level => "log_level"

/-- The value of a setting. -/
def value (c : Configuration) : Setting → Value
  | streams => .text c.server.streams
  | requests => .text c.server.requests
  | heartbeat => .integer c.session.heartbeatSeconds
  | capture => .integer c.session.captureMillis
  | chunk => .integer c.session.captureChunk
  | retain => .boolean c.session.retain
  | level => .text c.logging.level

/-- Whether a document can hold the value of a setting. -/
def Fits (c : Configuration) : Setting → Prop
  | heartbeat => c.session.heartbeatSeconds ≤ maxInteger
  | capture => c.session.captureMillis ≤ maxInteger
  | chunk => c.session.captureChunk ≤ maxInteger
  | _ => True

/-- The name of a setting is that of no other one. -/
theorem name_injective : Function.Injective name := by
  intro s t same
  cases s <;> cases t <;> first | rfl | exact absurd same (by decide)

theorem isBareName_name (s : Setting) : isBareName s.name = true := by cases s <;> decide

theorem legible_value {c : Configuration} {s : Setting} (h : s.Fits c) : (s.value c).Legible := by
  cases s with
  | streams => exact Value.legible_text _
  | requests => exact Value.legible_text _
  | heartbeat => exact Value.legible_integer h
  | capture => exact Value.legible_integer h
  | chunk => exact Value.legible_integer h
  | retain => exact Value.legible_boolean _
  | level => exact Value.legible_text _

end Setting

/-- The standard configuration with some settings replaced by those of another one. -/
def overlay (given : Setting → Bool) (c : Configuration) : Configuration where
  server :=
    { streams := if given .streams then c.server.streams else ServerSection.standard.streams
      requests := if given .requests then c.server.requests else ServerSection.standard.requests }
  session :=
    { heartbeatSeconds :=
        if given .heartbeat then c.session.heartbeatSeconds
        else SessionSection.standard.heartbeatSeconds
      captureMillis :=
        if given .capture then c.session.captureMillis else SessionSection.standard.captureMillis
      captureChunk :=
        if given .chunk then c.session.captureChunk else SessionSection.standard.captureChunk
      retain := if given .retain then c.session.retain else SessionSection.standard.retain }
  logging := { level := if given .level then c.logging.level else LoggingSection.standard.level }

@[simp] theorem overlay_all (c : Configuration) : overlay (fun _ => true) c = c := rfl

@[simp] theorem overlay_none (c : Configuration) : overlay (fun _ => false) c = standard := rfl

/-! ## What a tree gives -/

variable {given : Setting → Bool} {c : Configuration} {entries : Entries}

/-- The entries of a section; none if the section is missing. -/
def inside (entries : Entries) (table : String) : Entries :=
  match entries.lookup table with
  | some (.table _ inner) => inner
  | _ => []

/-- A tree gives exactly some settings of a configuration. -/
structure Gives (given : Setting → Bool) (c : Configuration) (entries : Entries) : Prop where
  /-- The sections that are there are tables, however they are written. -/
  tables : ∀ (s : Setting) (v : Value), entries.lookup s.table = some v →
    ∃ origin inner, v = .table origin inner
  /-- What is given has its value, and nothing else is there. -/
  settings : ∀ s : Setting,
    (inside entries s.table).lookup s.name = if given s then some (s.value c) else none

/-- A text is a document that gives exactly some settings of a configuration. -/
def Describes (given : Setting → Bool) (c : Configuration) (s : String) : Prop :=
  ∃ entries, Toml.read? s = some entries ∧ Gives given c entries

/-- A setting is read where it is given, and has its default elsewhere. -/
theorem Gives.readOr_setting (h : Gives given c entries) (s : Setting) {α : Type}
    {read? : Value → Option α} {a : α} (missing : α) (read : read? (s.value c) = some a) :
    readOr missing read? ((inside entries s.table).lookup s.name) =
      some (if given s then a else missing) := by
  rw [h.settings s]
  cases given s with
  | false => rfl
  | true => exact read

theorem natural?_integer (n : Nat) : (Value.integer n).natural? = some n := by
  simp [Value.natural?]

/-- **A missing section is read as an empty one**, if every setting of it has the default that it
has where the section is missing; and how the table of a section is written does not matter. -/
theorem readOr_table {α : Type} {missing : α} (read? : Value → Option α)
    (empty : read? (.table .headed []) = some missing)
    (uniform : ∀ origin inner, read? (.table origin inner) = read? (.table .headed inner))
    {table : String} (tables : ∀ v, entries.lookup table = some v →
      ∃ origin inner, v = .table origin inner) :
    readOr missing read? (entries.lookup table) =
      read? (.table .headed (inside entries table)) := by
  cases found : entries.lookup table with
  | none => rw [inside, found, empty, readOr]
  | some v =>
      obtain ⟨origin, inner, rfl⟩ := tables v found
      rw [inside, found, readOr, uniform]

theorem Gives.server_eq (h : Gives given c entries) :
    readOr .standard ServerSection.ofToml? (entries.lookup "server") =
      some (overlay given c).server := by
  have streams : readOr ServerSection.standard.streams Value.text?
      ((inside entries "server").lookup "ws_base_url") = _ := h.readOr_setting .streams _ rfl
  have requests : readOr ServerSection.standard.requests Value.text?
      ((inside entries "server").lookup "api_base_url") = _ := h.readOr_setting .requests _ rfl
  have whole : readOr .standard ServerSection.ofToml? (entries.lookup "server") =
      ServerSection.ofToml? (.table .headed (inside entries "server")) :=
    readOr_table ServerSection.ofToml? rfl (fun _ _ => rfl) (h.tables .streams)
  rw [whole, ServerSection.ofToml?]
  dsimp only [Value.member?]
  rw [streams, requests]
  rfl

theorem Gives.session_eq (h : Gives given c entries) :
    readOr .standard SessionSection.ofToml? (entries.lookup "session") =
      some (overlay given c).session := by
  have heartbeat : readOr SessionSection.standard.heartbeatSeconds Value.natural?
      ((inside entries "session").lookup "heartbeat_interval_secs") = _ :=
    h.readOr_setting .heartbeat _ (natural?_integer _)
  have capture : readOr SessionSection.standard.captureMillis Value.natural?
      ((inside entries "session").lookup "capture_interval_ms") = _ :=
    h.readOr_setting .capture _ (natural?_integer _)
  have chunk : readOr SessionSection.standard.captureChunk Value.natural?
      ((inside entries "session").lookup "capture_chunk_bytes") = _ :=
    h.readOr_setting .chunk _ (natural?_integer _)
  have retain : readOr SessionSection.standard.retain Value.boolean?
      ((inside entries "session").lookup "retain_watch_buffer") = _ :=
    h.readOr_setting .retain _ rfl
  have whole : readOr .standard SessionSection.ofToml? (entries.lookup "session") =
      SessionSection.ofToml? (.table .headed (inside entries "session")) :=
    readOr_table SessionSection.ofToml? rfl (fun _ _ => rfl) (h.tables .heartbeat)
  rw [whole, SessionSection.ofToml?]
  dsimp only [Value.member?]
  rw [heartbeat, capture, chunk, retain]
  rfl

theorem Gives.logging_eq (h : Gives given c entries) :
    readOr .standard LoggingSection.ofToml? (entries.lookup "logging") =
      some (overlay given c).logging := by
  have level : readOr LoggingSection.standard.level Value.text?
      ((inside entries "logging").lookup "log_level") = _ := h.readOr_setting .level _ rfl
  have whole : readOr .standard LoggingSection.ofToml? (entries.lookup "logging") =
      LoggingSection.ofToml? (.table .headed (inside entries "logging")) :=
    readOr_table LoggingSection.ofToml? rfl (fun _ _ => rfl) (h.tables .level)
  rw [whole, LoggingSection.ofToml?]
  dsimp only [Value.member?]
  rw [level]
  rfl

/-- **What is read from a tree**: the standard configuration with what the tree gives. -/
theorem Gives.ofEntries?_eq (h : Gives given c entries) :
    ofEntries? entries = some (overlay given c) := by
  rw [ofEntries?, h.server_eq, h.session_eq, h.logging_eq]
  rfl

/-- What is read from a document. -/
theorem Describes.ofToml?_eq {s : String} (h : Describes given c s) :
    ofToml? s = some (overlay given c) := by
  obtain ⟨entries, read, gives⟩ := h
  rw [ofToml?, read, Option.bind_eq_bind, Option.bind_some, gives.ofEntries?_eq]

/-! ## Layouts -/

/-- The sections of a document with the settings in each of them, in their order. -/
abbrev Layout := List (String × List Setting)

namespace Layout

/-- The tables of a layout. -/
def tables (layout : Layout) (c : Configuration) : List Table :=
  layout.map fun part => (part.1, part.2.map fun s => (s.name, s.value c))

/-- The text of a layout. -/
def text (layout : Layout) (c : Configuration) : String :=
  Toml.write ((layout.tables c).flatMap Table.statements)

/-- A layout has exactly some settings, each in its own section, and sections without settings
perhaps. -/
structure Of (layout : Layout) (given : Setting → Bool) : Prop where
  /-- A section is opened once. -/
  distinct : (layout.map Prod.fst).Nodup
  /-- The sections are those of configurations. -/
  known : ∀ part ∈ layout, part.1 = "server" ∨ part.1 = "session" ∨ part.1 = "logging"
  /-- A setting stands in its own section. -/
  own : ∀ part ∈ layout, ∀ s ∈ part.2, s.table = part.1
  /-- A setting stands once. -/
  once : ∀ part ∈ layout, part.2.Nodup
  /-- The settings are those that are to be given. -/
  exact : ∀ s, given s = true ↔ ∃ part ∈ layout, s ∈ part.2

variable {layout : Layout}

/-- Among settings a name leads to its setting. -/
theorem lookup_settings (settings : List Setting) (s : Setting) :
    (settings.map fun s => (s.name, s.value c)).lookup s.name =
      if s ∈ settings then some (s.value c) else none := by
  induction settings with
  | nil => rfl
  | cons t rest ih =>
      rw [List.map_cons, List.lookup_cons]
      by_cases same : s = t
      · subst same
        simp
      · have differs : (s.name == t.name) = false :=
          beq_eq_false_iff_ne.mpr fun named => same (Setting.name_injective named)
        simp only [differs, ih, List.mem_cons, same, false_or]

theorem names_tables (layout : Layout) :
    (layout.tables c).map Prod.fst = layout.map Prod.fst := by
  rw [tables, List.map_map]
  rfl

/-- The section of a setting has it exactly if it is to be given. -/
theorem Of.mem_iff (h : layout.Of given) {part : String × List Setting} (hp : part ∈ layout)
    {s : Setting} (same : s.table = part.1) : s ∈ part.2 ↔ given s = true := by
  rw [h.exact]
  refine ⟨fun hs => ⟨part, hp, hs⟩, ?_⟩
  rintro ⟨other, ho, hs⟩
  have unique := List.inj_on_of_nodup_map h.distinct ho hp ((h.own other ho s hs).symm.trans same)
  rwa [unique] at hs

theorem Of.gives (h : layout.Of given) : Gives given c (treeOf (layout.tables c)) := by
  have distinct : ((treeOf (layout.tables c)).map Prod.fst).Nodup := by
    rw [names_treeOf, names_tables]
    exact h.distinct
  refine ⟨fun s v found => ?_, fun s => ?_⟩
  · obtain ⟨front, back, split, -⟩ := List.lookup_eq_some_iff.mp found
    have inside : (s.table, v) ∈ treeOf (layout.tables c) := by rw [split]; simp
    obtain ⟨t, -, same⟩ := List.mem_map.mp inside
    exact ⟨_, _, (Prod.mk.inj same).2.symm⟩
  · by_cases there : ∃ part ∈ layout, part.1 = s.table
    · obtain ⟨part, hp, same⟩ := there
      have member : (s.table, Value.table .headed (part.2.map fun s => (s.name, s.value c))) ∈
          treeOf (layout.tables c) := by
        rw [← same, treeOf, tables, List.map_map]
        exact List.mem_map.mpr ⟨part, hp, rfl⟩
      rw [inside, Entries.lookup_of_mem distinct member]
      simp only [lookup_settings, h.mem_iff hp same.symm]
    · have absent : s.table ∉ (treeOf (layout.tables c)).map Prod.fst := by
        rw [names_treeOf, names_tables]
        exact fun named => there (by simpa using named)
      have missing : given s = false := by
        refine Bool.eq_false_iff.mpr fun yes => ?_
        obtain ⟨part, hp, hs⟩ := (h.exact s).mp yes
        exact there ⟨part, hp, (h.own part hp s hs).symm⟩
      rw [inside, Entries.lookup_of_not_mem absent, missing]
      rfl

/-- **Every layout is written as a document that gives its settings**, if their numbers are not too
large for a document. -/
theorem Of.describes (h : layout.Of given) (fits : ∀ s, given s = true → s.Fits c) :
    Describes given c (layout.text c) := by
  refine ⟨treeOf (layout.tables c), ?_, h.gives⟩
  refine read?_tables ?_ ?_ ?_
  · rw [names_tables]
    exact h.distinct
  · intro t ht
    obtain ⟨part, hp, rfl⟩ := List.mem_map.mp ht
    rw [List.map_map]
    exact (h.once part hp).map Setting.name_injective
  · intro t ht statement hs
    obtain ⟨part, hp, rfl⟩ := List.mem_map.mp ht
    rcases List.mem_cons.mp hs with rfl | hs
    · refine .table ?_
      rcases h.known part hp with named | named | named <;> rw [named] <;> decide
    · rw [List.map_map] at hs
      obtain ⟨s, inside, rfl⟩ := List.mem_map.mp hs
      have yes : given s = true := (h.exact s).mpr ⟨part, hp, inside⟩
      exact .entry s.isBareName_name (Setting.legible_value (fits s yes))

end Layout

/-! ## Whole configurations -/

/-- All settings, in the order in which they are written. -/
def layout : Layout :=
  [("server", [.streams, .requests]), ("session", [.heartbeat, .capture, .chunk, .retain]),
    ("logging", [.level])]

theorem layout_of : layout.Of fun _ => true where
  distinct := by decide
  known := by simp [layout]
  own := by simp [layout, Setting.table]
  once := by simp [layout]
  exact s := by cases s <;> simp [layout]

theorem fits_iff : c.fits = true ↔ ∀ s : Setting, s.Fits c := by
  rw [fits, Bool.and_eq_true, Bool.and_eq_true, decide_eq_true_eq, decide_eq_true_eq,
    decide_eq_true_eq]
  refine ⟨fun h s => ?_, fun h => ⟨⟨h .heartbeat, h .capture⟩, h .chunk⟩⟩
  cases s with
  | heartbeat => exact h.1.1
  | capture => exact h.1.2
  | chunk => exact h.2
  | streams | requests | retain | level => exact trivial

/-- **The document of a configuration is read as this configuration.** -/
theorem ofToml?_toml {s : String} (h : c.toml? = some s) : ofToml? s = some c := by
  rw [toml?] at h
  split at h
  · next fits =>
      have all := fits_iff.mp fits
      obtain rfl := Option.some.inj h
      have whole : Describes (fun _ => true) c (layout.text c) :=
        layout_of.describes fun s _ => all s
      exact whole.ofToml?_eq
  · cases h

end Livecast.Configuration
