import Livecast.Text.Blank
import Livecast.Text.Cut
import Livecast.Text.Decimal
import Livecast.Text.Hex

/-!
# Log lines and filters

The parts of the program report what they do as log lines of five levels.  A filter decides which
lines are shown: a list of directives, each a level, perhaps for the sources whose name begins in a
certain way.  The directive with the longest such beginning decides.

## Main Definitions

* `LogLevel`, `LogSource`, `LogLine` - a line, how important it is and what part wrote it
* `LogFilter.parse?` - a filter from its text
* `LogFilter.allows` - whether a line is shown
* `LogFilter.choose` - the filter in force
-/

namespace Livecast

open Livecast.Text

/-- How important a line is. -/
inductive LogLevel where
  /-- Something failed. -/
  | error
  /-- Something is not as it should be. -/
  | warn
  /-- Something happened. -/
  | info
  /-- Something for those who look for a fault. -/
  | debug
  /-- Everything. -/
  | trace
deriving DecidableEq

namespace LogLevel

/-- The level's place, the most important one first. -/
def rank : LogLevel → Nat
  | error => 1
  | warn => 2
  | info => 3
  | debug => 4
  | trace => 5

/-- The name of a level. -/
def name : LogLevel → String
  | error => "ERROR"
  | warn => "WARN"
  | info => "INFO"
  | debug => "DEBUG"
  | trace => "TRACE"

end LogLevel

/-- The parts of the program that write log lines. -/
inductive LogSource where
  /-- The command line. -/
  | command
  /-- The keyring. -/
  | channels
  /-- The reader of resolution lists. -/
  | resolutions
  /-- The sessions. -/
  | sessions
  /-- The forwarder of a session. -/
  | capture
  /-- The sources of media. -/
  | sources
  /-- The connections. -/
  | connections
deriving DecidableEq

/-- The name under which a part writes. -/
def LogSource.name : LogSource → String
  | command => "vstream"
  | channels => "vstream_client::infrastructure::storage::channels"
  | resolutions => "vstream_core::domain::resolutions"
  | sessions => "vstream_client::application::session"
  | capture => "vstream_client::application::capture"
  | sources => "vstream_client::infrastructure::capture::file"
  | connections => "vstream_client::infrastructure::network"

/-- A line of the log. -/
structure LogLine where
  /-- How important it is. -/
  level : LogLevel
  /-- Which part wrote it. -/
  source : LogSource
  /-- What it says. -/
  message : String
deriving DecidableEq

/-- A character of a message; those that a terminal would act on are shown as escapes. -/
def LogLine.shownChar (c : Char) : List Char :=
  if c ∈ ['\x1b', '\x07', '\x08', '\x0c', '\x7f'] then
    ['\\', 'x', lowerHexDigit (c.toNat / 16), lowerHexDigit (c.toNat % 16)]
  else if 128 ≤ c.toNat && c.toNat < 160 then
    ['\\', 'u', '\x7b'] ++ hexDigits c.toNat ++ ['\x7d']
  else [c]

/-- A line as it is shown. -/
def LogLine.text (l : LogLine) : String :=
  l.level.name ++ " " ++ l.source.name ++ ": " ++
    String.ofList (l.message.toList.flatMap LogLine.shownChar)

/-- One rule of a filter. -/
structure LogDirective where
  /-- How the names of the sources begin that it is for; none if it is for no source at all. -/
  scope : Option String
  /-- The rank of the least important level that it shows. -/
  limit : Nat
deriving DecidableEq

namespace LogDirective

/-- The names of the limits. -/
def limitNames : List (List Char × Nat) :=
  [(['o', 'f', 'f'], 0), (['e', 'r', 'r', 'o', 'r'], 1), (['w', 'a', 'r', 'n'], 2),
    (['i', 'n', 'f', 'o'], 3), (['d', 'e', 'b', 'u', 'g'], 4), (['t', 'r', 'a', 'c', 'e'], 5)]

/-- A limit by its number or by its name in any case. -/
def limit? (t : List Char) : Option Nat :=
  match readNat? 5 t with
  | some n => some n
  | none => limitNames.lookup (t.map Char.toLower)

/-- A limit behind an equals sign; all levels if nothing is given. -/
def givenLimit? (t : List Char) : Option Nat := if t.isEmpty then some 5 else limit? t

/-- What follows the bracket of a condition on spans: nothing, or a limit. -/
def readConditional? (t : List Char) : Option LogDirective := do
  let (_, after) ← cutAt? (· = ']') t
  match after with
  | [] => return ⟨none, 5⟩
  | '=' :: r => return ⟨none, ← givenLimit? r⟩
  | _ => none

/-- A directive: a limit, the beginning of sources, or both with an equals sign between them.  No
span is ever entered, so that a directive for spans is for no source. -/
def parse? (t : List Char) : Option LogDirective :=
  match trim t with
  | [] => none
  | '[' :: r => readConditional? r
  | c :: r =>
    if !(c.isAlphanum || 128 ≤ c.toNat || c ∈ ['-', ':', '_']) then none
    else
      let length := 1 + (r.takeWhile fun d => d ≠ '=' && d ≠ '[').length
      match (trim t).drop length with
      | '=' :: _ => (givenLimit? (t.drop (length + 1))).map fun limit =>
          ⟨some (String.ofList (t.take length)), limit⟩
      | '[' :: rest => readConditional? rest
      | _ =>
        match limit? t with
        | some limit => some ⟨some "", limit⟩
        | none => some ⟨some (String.ofList t), 5⟩

/-- Whether the directive is for a source of a name. -/
def covers (d : LogDirective) (name : String) : Bool :=
  match d.scope with
  | none => false
  | some scope => scope.toList.isPrefixOf name.toList

/-- How long the beginning of names is that the directive asks for. -/
def weight (d : LogDirective) : Nat := (d.scope.getD "").length

end LogDirective

/-- The directives that decide which lines are shown. -/
abbrev LogFilter := List LogDirective

namespace LogFilter

/-- A filter of directives with commas between them; none if one of them is no directive. -/
def parse? (s : String) : Option LogFilter :=
  ((pieces (· = ',') s.toList).filter fun piece => !piece.isEmpty).mapM LogDirective.parse?

/-- The directive that decides about a source: the one that asks for the longest beginning of its
name, and of two such the later one. -/
def deciding? (f : LogFilter) (name : String) : Option LogDirective :=
  f.foldl
    (fun best d =>
      if d.covers name && (best.map LogDirective.weight).getD 0 ≤ d.weight then some d else best)
    none

/-- Whether a line is shown. -/
def allows (f : LogFilter) (l : LogLine) : Bool :=
  match f.deciding? l.source.name with
  | some d => l.level.rank ≤ d.limit
  | none => false

/-- The filter that shows what happens, but no more. -/
def standard : LogFilter := [⟨some "", 3⟩]

/-- The filter in force: the one from the environment if it can be read, else the one of the given
level, else the standard one. -/
def choose (environment : Option String) (level : String) : LogFilter :=
  match environment.bind parse? with
  | some f => f
  | none => (parse? level).getD standard

/-- The lines of a log that are shown. -/
def shown (f : LogFilter) (log : List LogLine) : List LogLine := log.filter f.allows

end LogFilter

end Livecast
