import Livecast.Text.Blank
import Livecast.Text.Hex

/-!
# Quoted texts of TOML

A text stands between double or single quotes, one of them for a text on one line, three for a text
of any lines.  Between double quotes a backslash begins an escape; between single quotes every
character stands for itself.  A text is written in the plainest of the four forms that can hold it.

## Main Definitions

* `Toml.isBlank` - the blanks within a line
* `Toml.basicBody?`, `Toml.literalBody?` - what stands between double and between single quotes
* `Toml.readQuoted?` - a quoted text in any form
* `Toml.writeQuoted` - the quoted form of a text
-/

namespace Livecast.Toml

open Livecast.Text

/-- The blanks within a line. -/
def isBlank (c : Char) : Bool := c = ' ' || c = '\t'

/-- The characters that may stand for themselves in a comment or between single quotes. -/
def isPrintable (c : Char) : Bool := c = '\t' || (32 ≤ c.toNat && c.toNat ≠ 127)

/-! ## Reading -/

/-- How many quotes stand at the start of a text. -/
def quoteRun (q : Char) (t : List Char) : Nat := (t.takeWhile (· = q)).length

/-- The quotes that still belong to the text, and what follows its end, if its end is here.  Three
quotes end a text of any lines; up to two more before them belong to it. -/
def closing? (q : Char) (lines : Bool) (t : List Char) : Option (List Char × List Char) :=
  if lines then
    if quoteRun q t < 3 then none
    else
      let kept := min (quoteRun q t - 3) 2
      some (List.replicate kept q, t.drop (kept + 3))
  else if quoteRun q t = 0 then none
  else some ([], t.drop 1)

/-- What an escape of one letter stands for. -/
def escaped? (c : Char) : Option Char :=
  if c = '"' || c = '\\' then some c
  else if c = 'b' then some '\x08'
  else if c = 't' then some '\t'
  else if c = 'n' then some '\n'
  else if c = 'f' then some '\x0c'
  else if c = 'r' then some '\r'
  else none

/-- The character of a code point given by hexadecimal digits. -/
def codePoint? (t : List Char) : Option Char := do
  let n ← hexNumber? t
  if n.isValidChar then some (Char.ofNat n) else none

/-- Puts a character before what was read. -/
def consRead (c : Char) (r : Option (List Char × List Char)) : Option (List Char × List Char) :=
  r.map fun (text, rest) => (c :: text, rest)

/-- The text up to the closing double quotes, and what follows them.  While `skipping`, blanks and
line ends are left out: a backslash at the end of a line joins it to the next text. -/
def basicBody? (lines skipping : Bool) (t : List Char) : Option (List Char × List Char) :=
  match closing? '"' lines t with
  | some done => some done
  | none =>
    match t with
    | [] => none
    | '\\' :: 'u' :: a :: b :: c :: d :: r =>
      match codePoint? [a, b, c, d] with
      | some x => consRead x (basicBody? lines false r)
      | none => none
    | '\\' :: 'U' :: a :: b :: c :: d :: e :: f :: g :: h :: r =>
      match codePoint? [a, b, c, d, e, f, g, h] with
      | some x => consRead x (basicBody? lines false r)
      | none => none
    | '\\' :: e :: r =>
      match escaped? e with
      | some x => consRead x (basicBody? lines false r)
      | none =>
        if lines && ((e :: r).dropWhile isBlank).head? = some '\n' then basicBody? lines true r
        else none
    | c :: r =>
      if skipping && (isBlank c || c = '\n') then basicBody? lines true r
      else if c ≠ '\\' && (isPrintable c || (lines && c = '\n')) then
        consRead c (basicBody? lines false r)
      else none

/-- The text up to the closing single quotes, and what follows them. -/
def literalBody? (lines : Bool) (t : List Char) : Option (List Char × List Char) :=
  match closing? '\x27' lines t with
  | some done => some done
  | none =>
    match t with
    | [] => none
    | c :: r =>
      if isPrintable c || (lines && c = '\n') then consRead c (literalBody? lines r) else none

/-- The text without a line end at its start. -/
def dropLineEnd : List Char → List Char
  | '\n' :: r => r
  | t => t

/-- A text between quotes on one line, and what follows it. -/
def readLineQuoted? (t : List Char) : Option (String × List Char) :=
  match t with
  | '"' :: r => (basicBody? false false r).map fun (text, rest) => (String.ofList text, rest)
  | '\x27' :: r => (literalBody? false r).map fun (text, rest) => (String.ofList text, rest)
  | _ => none

/-- A text between quotes, and what follows it. -/
def readQuoted? (t : List Char) : Option (String × List Char) :=
  match t with
  | '"' :: '"' :: '"' :: r =>
    (basicBody? true false (dropLineEnd r)).map fun (text, rest) => (String.ofList text, rest)
  | '\x27' :: '\x27' :: '\x27' :: r =>
    (literalBody? true (dropLineEnd r)).map fun (text, rest) => (String.ofList text, rest)
  | _ => readLineQuoted? t

/-! ## Writing -/

/-- The longest run of a quote in a text, when `run` of them stand before it. -/
def longestRun (q : Char) (run : Nat) : List Char → Nat
  | [] => run
  | c :: r => if c = q then longestRun q (run + 1) r else max run (longestRun q 0 r)

/-- The characters that only an escape can hold. -/
def needsEscape (c : Char) : Bool := (c.toNat < 32 && c ≠ '\t' && c ≠ '\n') || c.toNat = 127

/-- A character other than a quote between double quotes. -/
def escapeChar (lines : Bool) (c : Char) : List Char :=
  if c = '\x08' then ['\\', 'b']
  else if c = '\t' then ['\\', 't']
  else if c = '\n' then if lines then ['\n'] else ['\\', 'n']
  else if c = '\x0c' then ['\\', 'f']
  else if c = '\r' then ['\\', 'r']
  else if c = '\\' then ['\\', '\\']
  else if needsEscape c then
    ['\\', 'u', '0', '0', upperHexDigit (c.toNat / 16), upperHexDigit (c.toNat % 16)]
  else [c]

/-- A text between double quotes, when `run` unescaped quotes stand before it: no quote is left as
it is on one line, and no third one in a row on several lines. -/
def escapeText (lines : Bool) (run : Nat) : List Char → List Char
  | [] => []
  | c :: r =>
    if c = '"' then
      if lines && run < 2 then '"' :: escapeText lines (run + 1) r
      else '\\' :: '"' :: escapeText lines 0 r
    else escapeChar lines c ++ escapeText lines 0 r

/-- The quoted form of a text: the first form that holds it, of double quotes and single quotes on
one line, three double quotes and three single quotes without any escape, and double quotes with
escapes. -/
def writeQuoted (s : String) : List Char :=
  let t := s.toList
  let control := t.any needsEscape
  let backslash := t.contains '\\'
  let newline := t.contains '\n'
  let doubles := longestRun '"' 0 t
  let singles := longestRun '\x27' 0 t
  let start := if newline then ['\n'] else []
  let onLine := ['"'] ++ escapeText false 0 t ++ ['"']
  let onLines := ['"', '"', '"'] ++ start ++ escapeText true 0 t ++ ['"', '"', '"']
  if !control && !backslash && !newline && doubles = 0 then onLine
  else if !control && !newline && singles = 0 then ['\x27'] ++ t ++ ['\x27']
  else if !control && !backslash && doubles < 3 then onLines
  else if !control && singles < 3 then
    ['\x27', '\x27', '\x27'] ++ start ++ t ++ ['\x27', '\x27', '\x27']
  else if newline then onLines
  else onLine

end Livecast.Toml
