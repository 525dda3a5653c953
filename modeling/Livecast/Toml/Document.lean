import Livecast.Toml.Quoted
import Livecast.Toml.Word

/-!
# TOML documents

A document is read into its statements, which then build the tree of tables.  It is written from
statements, each on its own line, with an empty line before a header.

## Main Definitions

* `Toml.readStatements?` - the statements of a text
* `Toml.read?` - the tree of a text; none if it is no document
* `Toml.write` - the text of statements

## Design Notes

A carriage return before a line feed is the same line end, and it is made so before reading; a
carriage return anywhere else is refused.  Lists and inline tables nest within a limit, and a dotted
key has fewer names than that.
-/

namespace Livecast.Toml

open Livecast.Text

/-! ## Blanks and line ends -/

/-- The text from its first character that is no blank. -/
def skipBlanks (t : List Char) : List Char := t.dropWhile isBlank

/-- The text with every carriage return left out that stands before a line feed. -/
def unifyLineEnds : List Char → List Char
  | '\r' :: '\n' :: r => '\n' :: unifyLineEnds r
  | c :: r => c :: unifyLineEnds r
  | [] => []

/-- What follows the end of a line, behind blanks and perhaps a comment. -/
def afterLine? (comment : Bool) : List Char → Option (List Char)
  | [] => some []
  | '\n' :: r => some r
  | c :: r =>
    if comment then if isPrintable c then afterLine? true r else none
    else if isBlank c then afterLine? false r
    else if c = '#' then afterLine? true r
    else none

/-- The text from its first character that is no blank, no line end and in no comment. -/
def skipGap (comment : Bool) : List Char → List Char
  | [] => []
  | c :: r =>
    if c = '\n' then skipGap false r
    else if comment then if isPrintable c then skipGap true r else c :: r
    else if isBlank c then skipGap false r
    else if c = '#' then skipGap true r
    else c :: r

/-! ## Keys -/

/-- The characters of names without quotes. -/
def isBareChar (c : Char) : Bool := c.isAlphanum || c = '-' || c = '_'

/-- One name of a key, and what follows it. -/
def readName? (t : List Char) : Option (String × List Char) :=
  match t with
  | '"' :: _ => readLineQuoted? t
  | '\x27' :: _ => readLineQuoted? t
  | _ =>
    let name := t.takeWhile isBareChar
    if name.isEmpty then none else some (String.ofList name, t.dropWhile isBareChar)

/-- How deep values nest at most, and how many names a key has, each plus one. -/
def nestingLimit : Nat := 80

/-- The names of a dotted key with blanks around them, and what follows them. -/
def readNames? (limit : Nat) (t : List Char) : Option (List String × List Char) := do
  let (name, rest) ← readName? (skipBlanks t)
  match skipBlanks rest with
  | '.' :: r =>
    match limit with
    | 0 => none
    | limit + 1 =>
      let (names, rest) ← readNames? limit r
      return (name :: names, rest)
  | r => return ([name], r)

/-- A dotted key, and what follows it. -/
def readKey? (t : List Char) : Option (Key × List Char) := do
  let (names, rest) ← readNames? (nestingLimit - 2) t
  match names.getLast? with
  | some name => return (⟨names.dropLast, name⟩, rest)
  | none => none

/-! ## Values -/

mutual

/-- A value, and what follows it.  At most `fuel` steps are taken, and `depth` levels may be
opened. -/
def readValue? (fuel depth : Nat) (t : List Char) : Option (Value × List Char) :=
  match fuel with
  | 0 => none
  | fuel + 1 =>
    match t, depth with
    | '"' :: _, _ => (readQuoted? t).map fun (s, rest) => (.text s, rest)
    | '\x27' :: _, _ => (readQuoted? t).map fun (s, rest) => (.text s, rest)
    | '[' :: r, depth + 1 =>
      (readItems? fuel depth r).map fun (items, rest) => (.array false items, rest)
    | '\x7b' :: r, depth + 1 => do
      let (pairs, rest) ← readPairs? fuel depth true r
      let entries ← pairs.foldlM (fun entries pair => Entries.assign entries pair.1 pair.2) []
      return (.table .whole entries, rest)
    | _, _ => readWord? t

/-- The items of a list up to its bracket, and what follows it. -/
def readItems? (fuel depth : Nat) (t : List Char) : Option (List Value × List Char) :=
  match fuel with
  | 0 => none
  | fuel + 1 =>
    match skipGap false t with
    | ']' :: r => some ([], r)
    | u => do
      let (item, rest) ← readValue? fuel depth u
      match skipGap false rest with
      | ',' :: r =>
        let (items, rest) ← readItems? fuel depth r
        return (item :: items, rest)
      | ']' :: r => return ([item], r)
      | _ => none

/-- The entries of an inline table up to its brace, and what follows it; only at its start may the
brace stand in place of an entry. -/
def readPairs? (fuel depth : Nat) (first : Bool) (t : List Char) :
    Option (List (Key × Value) × List Char) :=
  match fuel with
  | 0 => none
  | fuel + 1 =>
    match skipBlanks t, first with
    | '\x7d' :: r, true => some ([], r)
    | u, _ => do
      let (key, rest) ← readKey? u
      let rest ← expect? '=' rest
      let (value, rest) ← readValue? fuel depth (skipBlanks rest)
      match skipBlanks rest with
      | ',' :: r =>
        let (pairs, rest) ← readPairs? fuel depth false r
        return ((key, value) :: pairs, rest)
      | '\x7d' :: r => return ([(key, value)], r)
      | _ => none

end

/-! ## Statements -/

/-- The statement at the start of a text, and what follows it on its line. -/
def readStatement? (t : List Char) : Option (Statement × List Char) :=
  match t with
  | '[' :: '[' :: r => do
    let (key, rest) ← readKey? r
    let rest ← expect? ']' rest
    let rest ← expect? ']' rest
    return (.element key, rest)
  | '[' :: r => do
    let (key, rest) ← readKey? r
    let rest ← expect? ']' rest
    return (.table key, rest)
  | _ => do
    let (key, rest) ← readKey? t
    let rest ← expect? '=' rest
    let (value, rest) ← readValue? (2 * t.length + 2) (nestingLimit - 1) (skipBlanks rest)
    return (.entry key value, rest)

/-- The statements of a text, of which at most `fuel` lines are read. -/
def readLines? (fuel : Nat) (t : List Char) : Option (List Statement) :=
  match fuel with
  | 0 => none
  | fuel + 1 =>
    match skipBlanks t with
    | [] => some []
    | '#' :: r => do readLines? fuel (← afterLine? true r)
    | '\n' :: r => readLines? fuel r
    | u => do
      let (statement, rest) ← readStatement? u
      let statements ← readLines? fuel (← afterLine? false rest)
      return statement :: statements

/-- The text without a byte order mark at its start. -/
def dropMark : List Char → List Char
  | c :: r => if c.toNat = 0xFEFF then r else c :: r
  | [] => []

/-- The statements of a text. -/
def readStatements? (s : String) : Option (List Statement) :=
  readLines? (s.length + 1) (unifyLineEnds (dropMark s.toList))

/-- The tree of a text; none if it is no document. -/
def read? (s : String) : Option Entries := do
  Entries.ofStatements? (← readStatements? s)

/-! ## Writing -/

/-- A name, between quotes if it needs them. -/
def writeName (name : String) : List Char :=
  if !name.isEmpty && name.toList.all isBareChar then name.toList else writeQuoted name

/-- A dotted key. -/
def writeKey (key : Key) : List Char := List.intercalate ['.'] (key.names.map writeName)

mutual

/-- A value on one line, apart from line ends in texts. -/
def writeValue : Value → List Char
  | .text s => writeQuoted s
  | .integer i => (intText i).toList
  | .decimal written => written.toList
  | .boolean b => if b then ['t', 'r', 'u', 'e'] else ['f', 'a', 'l', 's', 'e']
  | .moment written => written.toList
  | .array _ items => '[' :: writeItems items ++ [']']
  | .table _ entries => ['\x7b', ' '] ++ writePairs entries ++ ['\x7d']

/-- The items of a list with commas between them. -/
def writeItems : List Value → List Char
  | [] => []
  | [item] => writeValue item
  | item :: rest => writeValue item ++ [',', ' '] ++ writeItems rest

/-- The entries of an inline table with commas between them. -/
def writePairs : List (String × Value) → List Char
  | [] => []
  | [(name, value)] => writeName name ++ [' ', '=', ' '] ++ writeValue value ++ [' ']
  | (name, value) :: rest =>
    writeName name ++ [' ', '=', ' '] ++ writeValue value ++ [',', ' '] ++ writePairs rest

end

/-- A statement on a line of its own; behind others, an empty line stands before a header. -/
def writeStatement (first : Bool) (s : Statement) : List Char :=
  let gap := if first then [] else ['\n']
  match s with
  | .table key => gap ++ ['['] ++ writeKey key ++ [']', '\n']
  | .element key => gap ++ ['[', '['] ++ writeKey key ++ [']', ']', '\n']
  | .entry key value => writeKey key ++ [' ', '=', ' '] ++ writeValue value ++ ['\n']

/-- The text of statements. -/
def write (statements : List Statement) : String :=
  match statements with
  | [] => ""
  | s :: rest =>
    String.ofList (writeStatement true s ++ rest.flatMap (writeStatement false))

end Livecast.Toml
