import Livecast.Files.Volume
import Livecast.Session.Event
import Livecast.Toml.Document

/-!
# Configuration

The configuration says where the server is, how a session is timed and what is logged.  It is kept
in a TOML file in which everything may be missing; what is missing has a default.

## Main Definitions

* `Configuration` and its sections `ServerSection`, `SessionSection`, `LoggingSection`
* `Configuration.ofToml?`, `Configuration.toml?` - reading and writing a document
* `Configuration.load`, `Configuration.save` - reading and writing a file
* `Configuration.folder?` - the folder that holds the files of the program
* `ConfigurationError` - why a configuration cannot be had or kept
-/

namespace Livecast

/-- Where the server is. -/
structure ServerSection where
  /-- The base of the URLs for streams. -/
  streams : String
  /-- The base of the URLs for requests. -/
  requests : String
deriving DecidableEq

/-- How a session is timed, and what it keeps. -/
structure SessionSection where
  /-- Seconds between two heartbeats. -/
  heartbeatSeconds : Nat
  /-- Milliseconds between two captured segments. -/
  captureMillis : Nat
  /-- How many bytes are read from the input at once. -/
  captureChunk : Nat
  /-- Whether received media are kept after the session has closed. -/
  retain : Bool
deriving DecidableEq

/-- What is logged. -/
structure LoggingSection where
  /-- The level. -/
  level : String
deriving DecidableEq

/-- Everything that can be configured. -/
structure Configuration where
  /-- Where the server is. -/
  server : ServerSection
  /-- How a session is timed, and what it keeps. -/
  session : SessionSection
  /-- What is logged. -/
  logging : LoggingSection
deriving DecidableEq

/-- A server on this machine. -/
def ServerSection.standard : ServerSection := ⟨"ws://127.0.0.1", "http://127.0.0.1"⟩

/-- A heartbeat every twenty seconds, a segment every half second, 64 KiB at once, nothing kept. -/
def SessionSection.standard : SessionSection := ⟨20, 500, 65536, false⟩

/-- Lines that say what happens. -/
def LoggingSection.standard : LoggingSection := ⟨"info"⟩

/-- The configuration of a file in which everything is missing. -/
def Configuration.standard : Configuration := ⟨.standard, .standard, .standard⟩

/-- The settings of a session; no period is zero. -/
def SessionSection.settings (s : SessionSection) : SessionPolicy where
  heartbeat := .ofSeconds (max s.heartbeatSeconds 1)
  capture := .ofMillis (max s.captureMillis 1)
  retain := s.retain

/-! ## Documents -/

open Toml in
/-- Reads the section about the server. -/
def ServerSection.ofToml? (v : Value) : Option ServerSection := do
  guard v.isRecord
  let streams ← readOr standard.streams Value.text? (v.member? 0 "ws_base_url")
  let requests ← readOr standard.requests Value.text? (v.member? 1 "api_base_url")
  return ⟨streams, requests⟩

open Toml in
/-- Reads the section about sessions. -/
def SessionSection.ofToml? (v : Value) : Option SessionSection := do
  guard v.isRecord
  let heartbeat ← readOr standard.heartbeatSeconds Value.natural?
    (v.member? 0 "heartbeat_interval_secs")
  let capture ← readOr standard.captureMillis Value.natural? (v.member? 1 "capture_interval_ms")
  let chunk ← readOr standard.captureChunk Value.natural? (v.member? 2 "capture_chunk_bytes")
  let retain ← readOr standard.retain Value.boolean? (v.member? 3 "retain_watch_buffer")
  return ⟨heartbeat, capture, chunk, retain⟩

open Toml in
/-- Reads the section about the log. -/
def LoggingSection.ofToml? (v : Value) : Option LoggingSection := do
  guard v.isRecord
  let level ← readOr standard.level Value.text? (v.member? 0 "log_level")
  return ⟨level⟩

namespace Configuration

open Toml

/-- Reads the tree of a document. -/
def ofEntries? (entries : Entries) : Option Configuration := do
  let server ← readOr .standard ServerSection.ofToml? (entries.lookup "server")
  let session ← readOr .standard SessionSection.ofToml? (entries.lookup "session")
  let logging ← readOr .standard LoggingSection.ofToml? (entries.lookup "logging")
  return ⟨server, session, logging⟩

/-- Reads a document. -/
def ofToml? (s : String) : Option Configuration := do
  ofEntries? (← Toml.read? s)

/-- The entry for a name. -/
def entry (name : String) (value : Value) : Statement := .entry (.single name) value

/-- The statements of a configuration. -/
def statements (c : Configuration) : List Statement :=
  [.table (.single "server"),
    entry "ws_base_url" (.text c.server.streams),
    entry "api_base_url" (.text c.server.requests),
    .table (.single "session"),
    entry "heartbeat_interval_secs" (.integer c.session.heartbeatSeconds),
    entry "capture_interval_ms" (.integer c.session.captureMillis),
    entry "capture_chunk_bytes" (.integer c.session.captureChunk),
    entry "retain_watch_buffer" (.boolean c.session.retain),
    .table (.single "logging"),
    entry "log_level" (.text c.logging.level)]

/-- Whether a document can hold the numbers of a configuration. -/
def fits (c : Configuration) : Bool :=
  c.session.heartbeatSeconds ≤ maxInteger && c.session.captureMillis ≤ maxInteger &&
    c.session.captureChunk ≤ maxInteger

/-- The document of a configuration; none if a number is too large for it. -/
def toml? (c : Configuration) : Option String :=
  if c.fits then some (Toml.write c.statements) else none

end Configuration

/-! ## Files -/

/-- Why a configuration cannot be had or kept. -/
inductive ConfigurationError where
  /-- The environment names no folder for it. -/
  | noFolder
  /-- A file or folder cannot be accessed. -/
  | inaccessible (path : Path) (cause : FileError)
  /-- The file is no document, or not one of a configuration. -/
  | malformed
  /-- A number is too large for the file. -/
  | unwritable
deriving DecidableEq

/-- What an error says, and then what caused it. -/
def ConfigurationError.messages : ConfigurationError → List String
  | .noFolder => ["could not determine platform config directory"]
  | .inaccessible path cause =>
    ["I/O error accessing config at " ++ path.text ++ ": " ++ cause.message, cause.message]
  | .malformed => ["failed to parse config TOML"]
  | .unwritable => ["failed to serialize config"]

/-- What an error says. -/
def ConfigurationError.message (e : ConfigurationError) : String := e.messages.headD ""

namespace Configuration

/-- The configuration in a file; the standard one if there is no file. -/
def load (v : Volume) (path : Path) : Except ConfigurationError Configuration :=
  match v.readText path with
  | .ok s =>
    match ofToml? s with
    | some c => .ok c
    | none => .error .malformed
  | .error .notFound => .ok .standard
  | .error cause => .error (.inaccessible path cause)

/-- Keeps a configuration in a file, whose folder is made if it is missing. -/
def save (v : Volume) (path : Path) (c : Configuration) :
    Volume × Except ConfigurationError Unit :=
  match v.makeParent path with
  | (v, .error (folder, cause)) => (v, .error (.inaccessible folder cause))
  | (v, .ok ()) =>
    match c.toml? with
    | none => (v, .error .unwritable)
    | some s =>
      match v.write path (.ofText s) with
      | .ok v => (v, .ok ())
      | .error cause => (v, .error (.inaccessible path cause))

/-- The folder for the files of the program, from the folder for configurations and the home folder
that the environment names. -/
def folder? (configurations home : Option String) : Option Path :=
  match configurations, home with
  | some base, _ => some ((Path.mk base).join ⟨"vstream"⟩)
  | none, some base => some (((Path.mk base).join ⟨".config"⟩).join ⟨"vstream"⟩)
  | none, none => none

/-- The name of the file of a configuration. -/
def fileName : Path := ⟨"config.toml"⟩

/-- The configuration in the folder for the files of the program. -/
def loadFrom (v : Volume) (folder : Option Path) : Except ConfigurationError Configuration :=
  match folder with
  | some folder => load v (folder.join fileName)
  | none => .error .noFolder

end Configuration

end Livecast
