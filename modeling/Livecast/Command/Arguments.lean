import Livecast.Files.Path
import Livecast.Text.Cut
import Livecast.Text.Decimal

/-!
# Command lines

A command line names a command in up to three words and gives values to switches.  Some switches may
stand behind any word; a value that is given behind a later word wins.  What the command line leaves
open, a variable of the environment may give.

## Main Definitions

* `Level` - the words read so far, `Switch` - what can be given behind them
* `Reading.read` - reads the arguments from left to right
* `Invocation`, `Command` - what is asked for
* `CommandLine.parse` - the invocation of a command line, or why there is none

## Design Notes

A word that begins with a dash is never taken for a value, except for a single dash; a value of that
form is given behind an equals sign, or, in place of an identifier, behind two dashes.
-/

namespace Livecast

open Livecast.Text

/-! ## Levels and switches -/

/-- The words of a command that have been read. -/
inductive Level where
  /-- None. -/
  | program
  /-- `publish` -/
  | publish
  /-- `watch` -/
  | watch
  /-- `channels` -/
  | channels
  /-- `channels list` -/
  | list
  /-- `channels show` -/
  | details
  /-- `channels save` -/
  | save
  /-- `channels remove` -/
  | remove
deriving DecidableEq

namespace Level

/-- The level behind one more word. -/
def enter? : Level → String → Option Level
  | program, "publish" => some publish
  | program, "watch" => some watch
  | program, "channels" => some channels
  | channels, "list" => some list
  | channels, "show" => some details
  | channels, "save" => some save
  | channels, "remove" => some remove
  | _, _ => none

/-- Whether more words must follow. -/
def isOpen (l : Level) : Bool := l = program || l = channels

/-- How many identifiers follow the words. -/
def places : Level → Nat
  | details | remove => 1
  | _ => 0

end Level

/-- What a switch takes. -/
inductive SwitchKind where
  /-- Nothing. -/
  | flag
  /-- Any text. -/
  | text
  /-- A path, which is not empty. -/
  | path
  /-- A number of 64 bits. -/
  | number
deriving DecidableEq

/-- Something that can be given behind the words of a command. -/
structure Switch where
  /-- Its name behind two dashes. -/
  name : String
  /-- Its letter behind one dash. -/
  letter : Option Char
  /-- What it takes. -/
  kind : SwitchKind
  /-- The variable of the environment that can give its value. -/
  fallback : Option String
deriving DecidableEq

/-- Whether a switch takes a value. -/
def SwitchKind.accepts : SwitchKind → String → Bool
  | .flag, _ => false
  | .text, _ => true
  | .path, value => !value.isEmpty
  | .number, value => (readNat? maxUnsigned value.toList).isSome

namespace Switch

/-- The switches that may stand behind any word. -/
def everywhere : List Switch :=
  [⟨"config", none, .path, some "VSTREAM_CONFIG"⟩, ⟨"server", none, .text, some "VSTREAM_SERVER"⟩,
    ⟨"log-level", none, .text, some "VSTREAM_LOG_LEVEL"⟩, ⟨"help", some 'h', .flag, none⟩]

/-- The switch for the key of a channel. -/
def key : Switch := ⟨"key", none, .text, some "VSTREAM_KEY"⟩

end Switch

open Switch in
/-- The switches behind the words of a level. -/
def Level.switches : Level → List Switch
  | .program => ⟨"version", some 'V', .flag, none⟩ :: everywhere
  | .publish => [⟨"channel", none, .text, none⟩, key, ⟨"input", some 'i', .path, none⟩,
      ⟨"cadence-ms", none, .number, none⟩] ++ everywhere
  | .watch => [⟨"channel", none, .text, none⟩, key, ⟨"output", some 'o', .path, none⟩] ++ everywhere
  | .save => [⟨"id", none, .text, none⟩, ⟨"key", none, .text, none⟩, ⟨"record", none, .flag, none⟩,
      ⟨"resolutions", none, .text, none⟩, ⟨"previews", none, .text, none⟩] ++ everywhere
  | _ => everywhere

/-! ## Reading -/

/-- Why the arguments ask for no command. -/
inductive Stop where
  /-- They cannot be understood. -/
  | misuse
  /-- The version is asked for. -/
  | version
  /-- Help is asked for. -/
  | help
deriving DecidableEq

/-- A switch that was given. -/
structure Given where
  /-- The level behind whose words it stands. -/
  level : Level
  /-- The switch. -/
  name : String
  /-- Its value; empty for a flag. -/
  value : String
deriving DecidableEq

/-- What has been read of the arguments. -/
structure Reading where
  /-- The levels that were passed, the last one first. -/
  levels : List Level
  /-- The switches that were given, in order. -/
  given : List Given
  /-- The identifiers, in order. -/
  places : List String

namespace Reading

/-- Nothing has been read. -/
def start : Reading := ⟨[.program], [], []⟩

/-- The level that has been reached. -/
def level (r : Reading) : Level := r.levels.headD .program

/-- Takes in a switch with its value; a switch can be given once at a level. -/
def give (r : Reading) (s : Switch) (value : String) : Except Stop Reading :=
  if r.given.any fun g => g.level = r.level && g.name = s.name then .error .misuse
  else .ok { r with given := r.given ++ [⟨r.level, s.name, value⟩] }

/-- Takes in a switch that takes a value, if it is one for it. -/
def giveValue (r : Reading) (s : Switch) (value : String) : Except Stop Reading :=
  if s.kind.accepts value then r.give s value else .error .misuse

/-- Takes in a switch without a value. -/
def giveFlag (r : Reading) (s : Switch) : Except Stop Reading :=
  if s.name = "version" then .error .version
  else if s.name = "help" then .error .help
  else r.give s ""

/-- Takes in an identifier. -/
def place (r : Reading) (value : String) : Except Stop Reading :=
  if r.places.length < r.level.places then .ok { r with places := r.places ++ [value] }
  else .error .misuse

/-- What a word that begins with a dash is. -/
inductive Dashed where
  /-- The end of the switches. -/
  | endOfSwitches
  /-- A switch that takes no value. -/
  | flag (s : Switch)
  /-- A switch with its value. -/
  | valued (s : Switch) (value : String)
  /-- A switch whose value is the next word. -/
  | awaiting (s : Switch)
  /-- No known switch, or a value for one that takes none. -/
  | unknown

/-- The name and the value of a word behind its dashes. -/
def splitValue (t : List Char) : List Char × Option (List Char) :=
  match cutAt? (· = '=') t with
  | some (name, value) => (name, some value)
  | none => (t, none)

/-- What a switch becomes with the value that is attached to it. -/
def Dashed.ofSwitch (s : Switch) (value : Option (List Char)) : Dashed :=
  match s.kind, value with
  | .flag, none => .flag s
  | .flag, some _ => .unknown
  | _, some value => .valued s (String.ofList value)
  | _, none => .awaiting s

/-- What a word is that begins with a dash and is longer than it. -/
def dashed? (l : Level) (word : String) : Option Dashed :=
  match word.toList with
  | ['-', '-'] => some .endOfSwitches
  | '-' :: '-' :: r =>
    let (name, value) := splitValue r
    match l.switches.find? (·.name.toList = name) with
    | some s => some (.ofSwitch s value)
    | none => some .unknown
  | '-' :: letter :: r =>
    match l.switches.find? (·.letter = some letter) with
    | some s =>
      if s.kind = .flag then some (.flag s)
      else match r with
        | [] => some (.awaiting s)
        | '=' :: value => some (.valued s (String.ofList value))
        | value => some (.valued s (String.ofList value))
    | none => some .unknown
  | _ => none

/-- Whether words name a command from a level on, as help is asked for it. -/
def namesCommand : Level → List String → Bool
  | _, [] => true
  | l, word :: rest =>
    match l.enter? word with
    | some l => namesCommand l rest
    | none => word = "help" && l.isOpen && rest.isEmpty

/-- Takes in identifiers behind two dashes. -/
def readPlaces (r : Reading) (words : List String) : Except Stop Reading := words.foldlM place r

/-- Reads words from left to right. -/
def read (r : Reading) : List String → Except Stop Reading
  | [] => .ok r
  | word :: rest =>
    match r.level.enter? word with
    | some l => read { r with levels := l :: r.levels } rest
    | none =>
      if word = "help" && r.level.isOpen then
        .error (if namesCommand r.level rest then .help else .misuse)
      else match dashed? r.level word with
        | none =>
          match r.place word with
          | .ok r => read r rest
          | .error e => .error e
        | some .endOfSwitches => readPlaces r rest
        | some (.flag s) =>
          match r.giveFlag s with
          | .ok r => read r rest
          | .error e => .error e
        | some (.valued s value) =>
          match r.giveValue s value with
          | .ok r => read r rest
          | .error e => .error e
        | some .unknown => .error .misuse
        | some (.awaiting s) =>
          match rest with
          | [] => .error .misuse
          | value :: rest =>
            if (dashed? r.level value).isSome then .error .misuse
            else match r.giveValue s value with
              | .ok r => read r rest
              | .error e => .error e

/-- The value of a switch as the command line gives it: the last one counts. -/
def value? (r : Reading) (name : String) : Option String :=
  (r.given.reverse.find? (·.name = name)).map Given.value

/-- Whether a flag was given. -/
def hasFlag (r : Reading) (name : String) : Bool := r.given.any (·.name = name)

end Reading

/-! ## Invocations -/

/-- The variables of the environment. -/
abbrev Environment := List (String × String)

/-- The commands. -/
inductive Command where
  /-- Send the input to a channel. -/
  | publish (channel : String) (key : Option String) (input : Option Path) (cadence : Option Nat)
  /-- Receive a channel. -/
  | watch (channel : String) (key : Option String) (output : Path)
  /-- List the stored channels. -/
  | list
  /-- Show a stored channel. -/
  | details (id : String)
  /-- Store a channel, with its targets and previews as they were given. -/
  | save (id key : String) (record : Bool) (resolutions previews : String)
  /-- Remove a stored channel. -/
  | remove (id : String)
deriving DecidableEq

/-- What a command line asks for. -/
structure Invocation where
  /-- The file of the configuration. -/
  config : Option Path
  /-- The base of the server's URLs. -/
  server : Option String
  /-- The level of the log. -/
  logLevel : Option String
  /-- The command. -/
  command : Command
deriving DecidableEq

namespace CommandLine

/-- Whether the variables of the environment give fit values to the switches that a level does not
give. -/
def fitsEnvironment (env : Environment) (r : Reading) : Bool :=
  r.levels.all fun l => l.switches.all fun s =>
    match s.fallback.bind (env.lookup ·) with
    | some value =>
      s.kind.accepts value || r.given.any fun g => g.level = l && g.name = s.name
    | none => true

/-- The value of a switch: from the command line, else from its variable. -/
def value? (env : Environment) (r : Reading) (name : String) : Option String :=
  match r.value? name with
  | some value => some value
  | none => (r.level.switches.find? (·.name = name)).bind fun s => s.fallback.bind (env.lookup ·)

/-- The command of a reading; none if a value that it needs is missing. -/
def command? (env : Environment) (r : Reading) : Option Command :=
  let value? := value? env r
  match r.level with
  | .program | .channels => none
  | .publish => do
    let channel ← value? "channel"
    let cadence := (value? "cadence-ms").bind fun s => readNat? maxUnsigned s.toList
    return .publish channel (value? "key") ((value? "input").map Path.mk) cadence
  | .watch => do
    let channel ← value? "channel"
    let output ← value? "output"
    return .watch channel (value? "key") ⟨output⟩
  | .list => some .list
  | .details => do return .details (← r.places[0]?)
  | .save => do
    let id ← value? "id"
    let key ← value? "key"
    return .save id key (r.hasFlag "record") ((value? "resolutions").getD "")
      ((value? "previews").getD "false")
  | .remove => do return .remove (← r.places[0]?)

/-- The invocation of a command line. -/
def parse (env : Environment) (words : List String) : Except Stop Invocation := do
  let r ← Reading.start.read words
  if !fitsEnvironment env r then throw .misuse
  match command? env r with
  | none => throw .misuse
  | some command =>
    return { config := (value? env r "config").map Path.mk, server := value? env r "server",
             logLevel := value? env r "log-level", command := command }

end CommandLine

end Livecast
