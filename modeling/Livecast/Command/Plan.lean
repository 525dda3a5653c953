import Livecast.Keyring
import Livecast.Command.Arguments
import Livecast.Command.Ending
import Livecast.Configuration
import Livecast.Endpoint
import Livecast.Json.Value
import Livecast.Playback.Output

/-!
# From a command line to its session

A command first finds its configuration and the keyring.  The commands on stored channels
are then done at once; publishing and watching find the key, the address and the input or output,
and what they are left with is the session that they are to run.

## Main Definitions

* `Host` - the files and the environment that a command meets
* `Setting` - configuration, keyring and log filter in force
* `Setup` - the session that is to be run
* `Plan` - what a command line leads to
* `CommandLine.paths` - the files that a command line may touch
* `CommandLine.plan` - the plan of a command line
-/

namespace Livecast

/-- What a command meets. -/
structure Host where
  /-- The files. -/
  volume : Volume
  /-- The environment. -/
  environment : Environment

/-- What is in force for a command. -/
structure Setting where
  /-- The configuration. -/
  config : Configuration
  /-- The keyring. -/
  keyring : Keyring
  /-- Which log lines are shown. -/
  filter : LogFilter
  /-- The base of the addresses of streams. -/
  base : String

/-- What a session's media come from or go to. -/
inductive Media where
  /-- They are captured from a source. -/
  | input (source : ReaderSource)
  /-- They are played back into the output at a path. -/
  | output (path : Path) (recorder : Recorder)

/-- A session that is to be run. -/
structure Setup where
  /-- What identifies it. -/
  id : SessionIdentity
  /-- Its timing and retention. -/
  settings : SessionPolicy
  /-- The address of its endpoint. -/
  url : String
  /-- Its media. -/
  media : Media
  /-- The lines that have been logged before it runs. -/
  log : List LogLine
  /-- Which log lines are shown. -/
  filter : LogFilter

/-- What a command line leads to. -/
inductive Plan where
  /-- The command has ended. -/
  | ended (ending : Ending)
  /-- A session is to be run. -/
  | session (setup : Setup)

namespace CommandLine

/-- The text of the version. -/
def versionText : String := "vstream 0.1.0\n"

/-- The text of help. -/
def helpText : String :=
  "Publish or watch a live channel\n\n" ++
    "vstream publish --channel C [--key K] [--input PATH] [--cadence-ms N]\n" ++
    "vstream watch --channel C [--key K] --output PATH\n" ++
    "vstream channels list | show ID | save --id ID --key K | remove ID\n"

/-- What a stop leads to. -/
def stopEnding : Stop → Ending
  | .misuse => ⟨2, [], ["error: the arguments name no command", "",
      "For more information, try '--help'."]⟩
  | .version => ⟨0, .ofText versionText, []⟩
  | .help => ⟨0, .ofText helpText, []⟩

/-- The folder for the files of the program. -/
def folder? (env : Environment) : Option Path :=
  Configuration.folder? (env.lookup "XDG_CONFIG_HOME") (env.lookup "HOME")

/-- The configuration in force.  Where the environment names no folder for it, the standard one
is. -/
def configuration (host : Host) (i : Invocation) : Except ConfigurationError Configuration :=
  match i.config with
  | some path => Configuration.load host.volume path
  | none =>
    match Configuration.loadFrom host.volume (folder? host.environment) with
    | .error .noFolder => .ok .standard
    | other => other

/-- The keyring: beside the file of the configuration that is given, else in the folder
for the files of the program. -/
def keyring? (env : Environment) (i : Invocation) : Option Keyring :=
  match i.config with
  | some path => some ⟨path.withName Keyring.fileName.text⟩
  | none => (folder? env).map fun folder => ⟨folder.join Keyring.fileName⟩

/-- The paths that a command line may lead to. -/
def paths (env : Environment) (words : List String) : List Path :=
  match parse env words with
  | .error _ => []
  | .ok i =>
    let media := match i.command with
      | .publish _ _ input _ => input.toList
      | .watch _ _ output => [output]
      | _ => []
    i.config.toList ++ ((folder? env).map (·.join Configuration.fileName)).toList ++
      ((keyring? env i).map Keyring.path).toList ++ media

/-- What is in force for an invocation. -/
def setting (host : Host) (i : Invocation) : Except Failure Setting := do
  let config ← match configuration host i with
    | .ok c => pure c
    | .error e => throw ((Failure.ofMessages e.messages).within "failed to load configuration")
  let filter := LogFilter.choose (host.environment.lookup "RUST_LOG")
    (i.logLevel.getD config.logging.level)
  match keyring? host.environment i with
  | some keyring => return ⟨config, keyring, filter, i.server.getD config.server.streams⟩
  | none =>
    throw ((Failure.ofMessages ConfigurationError.noFolder.messages).within
      "failed to locate the channel store")

/-- A line of the command itself. -/
def line (level : LogLevel) (message : String) : LogLine := ⟨level, .command, message⟩

/-- The key for a channel: the one that is given, else the stored one. -/
def keyFor (s : Setting) (v : Volume) (channel : String) (given : Option String) :
    List LogLine × Except Failure String :=
  match given with
  | some key => ([], .ok key)
  | none =>
    (s.keyring.readingLog v,
      match s.keyring.find? v channel with
      | some stored => .ok stored.key
      | none => .error (.plain ("no key for channel '" ++ channel ++
          "': pass --key or run \x60vstream channels save\x60")))

/-- The key and the address for a session. -/
def address (s : Setting) (v : Volume) (channel : String) (given : Option String) (role : Role) :
    List LogLine × Except Failure (String × String) :=
  let (log, key) := keyFor s v channel given
  (log, do
    let key ← key
    match streamUrl s.base channel key role with
    | .ok url => return (key, url)
    | .error e => throw (.plain e.message))

/-- The plan of publishing. -/
def planPublish (s : Setting) (v : Volume) (channel : String) (key : Option String)
    (input : Option Path) (cadence : Option Nat) : Plan :=
  match address s v channel key .publish with
  | (log, .error f) => .ended (.failure [] s.filter log f)
  | (log, .ok (key, url)) =>
    let path := mediaInput input
    let session := { s.config.session with
      captureMillis := cadence.getD s.config.session.captureMillis }
    match ReaderSource.openPath v path session.captureChunk with
    | .error e =>
      .ended (.failure [] s.filter log
        (⟨"failed to open media input " ++ path.text, e.message :: e.cause?.toList⟩))
    | .ok source =>
      .session {
        id := ⟨channel, key, .publish⟩, settings := session.settings, url := url,
        media := .input source, filter := s.filter,
        log := log ++
          [line .info ("publishing " ++ source.label ++ " to channel '" ++ channel ++ "'")] }

/-- The plan of watching, and the volume with the output emptied. -/
def planWatch (s : Setting) (v : Volume) (channel : String) (key : Option String) (output : Path) :
    Volume × Plan :=
  match address s v channel key .watch with
  | (log, .error f) => (v, .ended (.failure [] s.filter log f))
  | (log, .ok (key, url)) =>
    match Recorder.create v output with
    | .error e =>
      (v, .ended (.failure [] s.filter log ⟨"failed to create " ++ output.text, [e.message]⟩))
    | .ok (v, recorder) =>
      (v, .session {
        id := ⟨channel, key, .watch⟩, settings := s.config.session.settings, url := url,
        media := .output output recorder, filter := s.filter,
        log := log ++
          [line .info ("watching channel '" ++ channel ++ "' into " ++ output.text)] })

/-- A stored channel on a line. -/
def channelLine (c : StoredChannel) : String :=
  c.id ++ "\trecord=" ++ (if c.record then "true" else "false") ++ "\tresolutions=" ++
    c.resolutions.text ++ "\tpreviews=" ++ c.previews.text ++ "\n"

/-- A stored channel as an object. -/
def channelJson (c : StoredChannel) : Json.Value :=
  .object [("id", .string c.id), ("key", .string c.key), ("record", .bool c.record),
    ("resolutions", .string c.resolutions.text), ("previews", .string c.previews.text)]

/-- Lists the stored channels. -/
def list (s : Setting) (v : Volume) : Ending :=
  .success (.ofText (String.join ((s.keyring.channels v).map channelLine))) s.filter
    (s.keyring.readingLog v)

/-- Shows a stored channel. -/
def details (s : Setting) (v : Volume) (id : String) : Ending :=
  match s.keyring.find? v id with
  | some c => .success (.ofText ((channelJson c).pretty ++ "\n")) s.filter (s.keyring.readingLog v)
  | none =>
    .failure [] s.filter (s.keyring.readingLog v) (.plain ("channel '" ++ id ++ "' is not stored"))

/-- Stores a channel. -/
def save (s : Setting) (v : Volume) (id key : String) (record : Bool)
    (resolutions previews : String) : Volume × Ending :=
  let c : StoredChannel := ⟨id, key, record, .decode resolutions, .decode previews⟩
  let log := ResolutionList.log resolutions ++
    line .info ("saving channel '" ++ id ++ "' to " ++ s.keyring.path.text) ::
      s.keyring.readingLog v
  match s.keyring.put v c with
  | (w, .ok ()) =>
    let kept := Keyring.replaceOrAdd c (s.keyring.channels v)
    (w, .success [] s.filter (log ++ [s.keyring.keptLine kept]))
  | (w, .error e) => (w, .failure [] s.filter log (.ofMessages e.messages))

/-- Removes a stored channel; it is no failure if there is none. -/
def remove (s : Setting) (v : Volume) (id : String) : Volume × Ending :=
  let log := s.keyring.readingLog v
  match s.keyring.remove v id with
  | (w, .ok true) =>
    (w, .success [] s.filter
      (log ++ [s.keyring.keptLine (Keyring.without id (s.keyring.channels v))]))
  | (w, .ok false) =>
    (w, .success [] s.filter (log ++ [line .warn ("channel '" ++ id ++ "' was not stored")]))
  | (w, .error e) => (w, .failure [] s.filter log (.ofMessages e.messages))

/-- The plan of a command. -/
def planCommand (s : Setting) (v : Volume) : Command → Volume × Plan
  | .publish channel key input cadence => (v, planPublish s v channel key input cadence)
  | .watch channel key output => planWatch s v channel key output
  | .list => (v, .ended (list s v))
  | .details id => (v, .ended (details s v id))
  | .save id key record resolutions previews =>
    let (v, ending) := save s v id key record resolutions previews
    (v, .ended ending)
  | .remove id =>
    let (v, ending) := remove s v id
    (v, .ended ending)

/-- The plan of a command line, and the files after it. -/
def plan (host : Host) (words : List String) : Volume × Plan :=
  match parse host.environment words with
  | .error stop => (host.volume, .ended (stopEnding stop))
  | .ok i =>
    match setting host i with
    | .error f => (host.volume, .ended (.failure [] [] [] f))
    | .ok s => planCommand s host.volume i.command

end CommandLine

end Livecast
