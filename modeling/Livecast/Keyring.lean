import Livecast.Files.Volume
import Livecast.Log
import Livecast.Previews
import Livecast.ResolutionList
import Livecast.Toml.Document

/-!
# The keyring

The channels that the user can publish to are kept with their keys in a TOML file, one table for
each.  Their targets and previews are kept in the written form.  A file that cannot be read counts
as empty, so that a damaged file never stands in the way of a key that is given; a change writes
the whole file anew.

## Main Definitions

* `StoredChannel` - a channel with its key, targets and previews
* `Keyring` - the file that holds the channels
* `Keyring.channels`, `Keyring.find?` - what is stored
* `Keyring.put`, `Keyring.remove` - changes
* `KeyringError` - why a change cannot be kept
-/

namespace Livecast

/-- A channel that the user can publish to. -/
structure StoredChannel where
  /-- Its identifier. -/
  id : String
  /-- Its key. -/
  key : String
  /-- Whether its streams are recorded. -/
  record : Bool
  /-- Its targets. -/
  resolutions : ResolutionList
  /-- Its previews. -/
  previews : Previews
deriving DecidableEq

namespace StoredChannel

open Toml

/-- A channel with nothing but its key: no recording, passthrough, no previews. -/
def plain (id key : String) : StoredChannel := ⟨id, key, false, .passthrough, .disabled⟩

/-- Reads the table of a channel, which must have an identifier and a key. -/
def ofToml? (v : Value) : Option StoredChannel := do
  guard v.isRecord
  let id ← (← v.member? 0 "id").text?
  let key ← (← v.member? 1 "key").text?
  let record ← readOr false Value.boolean? (v.member? 2 "record")
  let resolutions ← readOr .passthrough (fun v => v.text?.map ResolutionList.decode)
    (v.member? 3 "resolutions")
  let previews ← readOr .disabled (fun v => v.text?.map Previews.decode) (v.member? 4 "previews")
  return ⟨id, key, record, resolutions, previews⟩

/-- The statements that write the table of a channel. -/
def statements (c : StoredChannel) : List Statement :=
  [.element (.single "channels"),
    .entry (.single "id") (.text c.id),
    .entry (.single "key") (.text c.key),
    .entry (.single "record") (.boolean c.record),
    .entry (.single "resolutions") (.text c.resolutions.text),
    .entry (.single "previews") (.text c.previews.text)]

end StoredChannel

/-- Why a change cannot be kept. -/
inductive KeyringError where
  /-- A file or folder cannot be accessed. -/
  | inaccessible (path : Path) (cause : FileError)
deriving DecidableEq

/-- What an error says, and then what caused it. -/
def KeyringError.messages : KeyringError → List String
  | .inaccessible path cause =>
    ["I/O error accessing channel store at " ++ path.text ++ ": " ++ cause.message, cause.message]

/-- What an error says. -/
def KeyringError.message (e : KeyringError) : String := e.messages.headD ""

/-- The lines about the parts of a list of targets that are skipped. -/
def ResolutionList.log (s : String) : List LogLine :=
  (rejections s).map fun e => ⟨.debug, .resolutions, "skipping resolution entry: " ++ e.message⟩

/-- The file that holds the channels. -/
structure Keyring where
  /-- Where it is. -/
  path : Path
deriving DecidableEq

namespace Keyring

open Toml

/-- The name of the file. -/
def fileName : Path := ⟨"channels.toml"⟩

/-- The tables of channels in the tree of a document. -/
def tables? (entries : Entries) : Option (List Value) :=
  readOr [] Value.items? (entries.lookup "channels")

/-- The channels of a document. -/
def channelsOf? (s : String) : Option (List StoredChannel) := do
  (← tables? (← Toml.read? s)).mapM StoredChannel.ofToml?

/-- The texts of targets in a document. -/
def targetTexts (s : String) : List String :=
  match (Toml.read? s).bind tables? with
  | some tables => tables.filterMap fun v => (v.member? 3 "resolutions").bind Value.text?
  | none => []

/-- The document that holds some channels. -/
def write (channels : List StoredChannel) : String :=
  Toml.write
    (if channels.isEmpty then [.entry (.single "channels") (.array false [])]
    else channels.flatMap StoredChannel.statements)

/-- The channels that the file holds; none if it is missing, cannot be read or is malformed. -/
def channels (keyring : Keyring) (v : Volume) : List StoredChannel :=
  match v.readText keyring.path with
  | .ok s => (channelsOf? s).getD []
  | .error _ => []

/-- A line about the file. -/
def line (keyring : Keyring) (level : LogLevel) (message : String) : LogLine :=
  ⟨level, .channels, "channel store " ++ keyring.path.text ++ ": " ++ message⟩

/-- The lines about a reading of the file. -/
def readingLog (keyring : Keyring) (v : Volume) : List LogLine :=
  match v.readText keyring.path with
  | .ok s =>
    match channelsOf? s with
    | some _ => (targetTexts s).flatMap ResolutionList.log
    | none => [keyring.line .warn "malformed, ignoring"]
  | .error .notFound => []
  | .error e => [keyring.line .warn ("cannot read: " ++ e.message)]

/-- The first stored channel with an identifier. -/
def find? (keyring : Keyring) (v : Volume) (id : String) : Option StoredChannel :=
  (keyring.channels v).find? (·.id = id)

/-- The list with a channel in the place of the first one that has its identifier, or at the end. -/
def replaceOrAdd (c : StoredChannel) : List StoredChannel → List StoredChannel
  | [] => [c]
  | d :: rest => if d.id = c.id then c :: rest else d :: replaceOrAdd c rest

/-- Keeps channels in the file, whose folder is made if it is missing. -/
def keep (keyring : Keyring) (v : Volume) (channels : List StoredChannel) :
    Volume × Except KeyringError Unit :=
  match v.makeParent keyring.path with
  | (v, .error (folder, cause)) => (v, .error (.inaccessible folder cause))
  | (v, .ok ()) =>
    match v.write keyring.path (.ofText (write channels)) with
    | .ok v => (v, .ok ())
    | .error cause => (v, .error (.inaccessible keyring.path cause))

/-- The line about channels that have been kept. -/
def keptLine (keyring : Keyring) (channels : List StoredChannel) : LogLine :=
  keyring.line .debug ("wrote " ++ Text.natText channels.length ++ " channel(s)")

/-- Stores a channel in the place of the first one with its identifier, or behind all others. -/
def put (keyring : Keyring) (v : Volume) (c : StoredChannel) :
    Volume × Except KeyringError Unit :=
  keyring.keep v (replaceOrAdd c (keyring.channels v))

/-- The channels without those of an identifier. -/
def without (id : String) (channels : List StoredChannel) : List StoredChannel :=
  channels.filter (·.id ≠ id)

/-- Removes the channels with an identifier, and says whether there were any.  If not, the file is
left as it is. -/
def remove (keyring : Keyring) (v : Volume) (id : String) : Volume × Except KeyringError Bool :=
  let kept := without id (keyring.channels v)
  if kept.length = (keyring.channels v).length then (v, .ok false)
  else match keyring.keep v kept with
    | (v, .ok ()) => (v, .ok true)
    | (v, .error e) => (v, .error e)

end Keyring

end Livecast
