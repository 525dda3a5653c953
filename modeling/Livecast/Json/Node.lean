import Livecast.Text.Decimal
import Livecast.Text.Hex

/-!
# Reading JSON texts

A text is read into a tree that also has a place for the point at which the text stops being JSON.
Whoever walks the tree from left to right therefore meets the problems of a text in the order of the
text: a value of the wrong kind before a later missing bracket, and the bracket before a wrong value
behind it.

## Main Definitions

* `Json.Node` - the tree of a text, with `broken` where it stops being JSON
* `Json.Node.ofText` - the tree of a text, and whether anything but blanks follows the value
* `Json.Node.isIntact` - no part of the tree is broken

## Design Notes

A string that escapes half a surrogate pair is well formed as a text but denotes no text; it is
`string none`, so that only a reader that wants the text refuses it.  The same holds for a number
that is too large for a double.
-/

namespace Livecast.Json

open Livecast.Text

/-- A number as it is written. -/
structure Number where
  /-- The whole number it denotes, if it has neither fraction nor exponent and is no minus zero. -/
  integer? : Option Int
  /-- It is too large for a double. -/
  tooLarge : Bool
deriving DecidableEq

mutual

/-- The tree of a JSON text. -/
inductive Node where
  /-- The value `null`. -/
  | null
  /-- A truth value. -/
  | bool (b : Bool)
  /-- A number. -/
  | number (n : Number)
  /-- A string, and the text it denotes if it denotes one. -/
  | string (s : Option String)
  /-- A list. -/
  | array (items : Items)
  /-- An object. -/
  | object (fields : Fields)
  /-- The text stops being JSON here. -/
  | broken

/-- The items of a list. -/
inductive Items where
  /-- The closing bracket. -/
  | close
  /-- The text stops being a list here. -/
  | broken
  /-- An item and those that follow it. -/
  | item (head : Node) (rest : Items)

/-- The fields of an object. -/
inductive Fields where
  /-- The closing brace. -/
  | close
  /-- The text stops being an object here. -/
  | broken
  /-- The first name is missing; this value stands in its place. -/
  | nameless (found : Node)
  /-- A field, its name if the name denotes a text, and the fields that follow it. -/
  | field (name : Option String) (value : Node) (rest : Fields)

end

/-! ## Blanks, strings and numbers -/

/-- The blanks of JSON. -/
def isSpace (c : Char) : Bool := c = ' ' || c = '\t' || c = '\n' || c = '\r'

/-- The text from its first character that is no blank. -/
def skipSpace (t : List Char) : List Char := t.dropWhile isSpace

/-- What an escape with a single letter stands for. -/
def shortEscape? (c : Char) : Option Char :=
  if c = '"' || c = '\\' || c = '/' then some c
  else if c = 'b' then some '\x08'
  else if c = 'f' then some '\x0c'
  else if c = 'n' then some '\n'
  else if c = 'r' then some '\r'
  else if c = 't' then some '\t'
  else none

/-- What one position of a string is: a character, or a unit of 16 bits from an escape. -/
inductive StringPart where
  /-- A character. -/
  | char (c : Char)
  /-- An escaped unit. -/
  | unit (n : Nat)

/-- The parts of a string up to its closing quote, and what follows it. -/
def stringParts? : List Char → Option (List StringPart × List Char)
  | [] => none
  | '"' :: r => some ([], r)
  | '\\' :: 'u' :: a :: b :: c :: d :: r => do
    let n ← hexNumber? [a, b, c, d]
    let (parts, rest) ← stringParts? r
    return (.unit n :: parts, rest)
  | '\\' :: e :: r => do
    let c ← shortEscape? e
    let (parts, rest) ← stringParts? r
    return (.char c :: parts, rest)
  | c :: r =>
    if c.toNat < 32 || c = '\\' then none
    else (stringParts? r).map fun (parts, rest) => (.char c :: parts, rest)

/-- The characters that the parts of a string denote; half a surrogate pair denotes none. -/
def joinParts? : List StringPart → Option (List Char)
  | [] => some []
  | .char c :: r => (joinParts? r).map (c :: ·)
  | .unit n :: .unit m :: r =>
    if n < 0xD800 || 0xE000 ≤ n then (joinParts? (.unit m :: r)).map (Char.ofNat n :: ·)
    else if n < 0xDC00 && 0xDC00 ≤ m && m < 0xE000 then
      (joinParts? r).map (Char.ofNat (0x10000 + (n - 0xD800) * 1024 + (m - 0xDC00)) :: ·)
    else none
  | .unit n :: r =>
    if n < 0xD800 || 0xE000 ≤ n then (joinParts? r).map (Char.ofNat n :: ·) else none

/-- The text of a string behind its opening quote, and what follows the closing one. -/
def readString? (t : List Char) : Option (Option String × List Char) :=
  (stringParts? t).map fun (parts, rest) => ((joinParts? parts).map String.ofList, rest)

/-- Digits, at least one, and what follows them. -/
def digitRun? (t : List Char) : Option (List Char × List Char) :=
  let run := t.takeWhile Char.isDigit
  if run.isEmpty then none else some (run, t.dropWhile Char.isDigit)

/-- A fraction if there is a point, and what follows it. -/
def fraction? (t : List Char) : Option (Option (List Char) × List Char) :=
  match t with
  | '.' :: r => (digitRun? r).map fun (run, rest) => (some run, rest)
  | _ => some (none, t)

/-- A power of ten if there is an exponent, and what follows it. -/
def exponent? (t : List Char) : Option (Option Int × List Char) :=
  match t with
  | c :: r =>
    if c = 'e' || c = 'E' then
      match r with
      | '-' :: r => (digitRun? r).map fun (run, rest) => (some (-(digitsValue run : Int)), rest)
      | '+' :: r => (digitRun? r).map fun (run, rest) => (some (digitsValue run : Int), rest)
      | _ => (digitRun? r).map fun (run, rest) => (some (digitsValue run : Int), rest)
    else some (none, t)
  | [] => some (none, t)

/-- A number without its sign, and what follows it. -/
def magnitude? (negative : Bool) (t : List Char) : Option (Number × List Char) := do
  let (whole, afterWhole) ← digitRun? t
  if 1 < whole.length && whole.head? == some '0' then none
  let (fraction, afterFraction) ← fraction? afterWhole
  let (exponent, rest) ← exponent? afterFraction
  let value := digitsValue whole
  let places := (fraction.getD []).length
  let plain := fraction.isNone && exponent.isNone && !(negative && value == 0)
  return ({ integer? := if plain then some (if negative then -(value : Int) else value) else none,
            tooLarge := exceedsDouble (digitsValue (whole ++ fraction.getD []))
              (exponent.getD 0 - places) }, rest)

/-- A number, and what follows it. -/
def readNumber? (t : List Char) : Option (Number × List Char) :=
  match t with
  | '-' :: r => magnitude? true r
  | _ => magnitude? false t

/-! ## Trees -/

/-- The deepest nesting of lists and objects that is read. -/
def maxDepth : Nat := 128

namespace Node

mutual

/-- The tree of the value at the start of a text, and what follows it unless it is broken.  At most
`fuel` characters are looked at, and `depth` more levels may be opened. -/
def read (fuel depth : Nat) (t : List Char) : Node × List Char :=
  match fuel with
  | 0 => (broken, [])
  | fuel + 1 =>
    match skipSpace t with
    | 'n' :: 'u' :: 'l' :: 'l' :: r => (null, r)
    | 't' :: 'r' :: 'u' :: 'e' :: r => (bool true, r)
    | 'f' :: 'a' :: 'l' :: 's' :: 'e' :: r => (bool false, r)
    | '"' :: r =>
      match readString? r with
      | some (s, rest) => (string s, rest)
      | none => (broken, [])
    | '[' :: r =>
      match depth with
      | 0 => (broken, [])
      | depth + 1 =>
        let (items, rest) := readItems fuel depth true r
        (array items, rest)
    | '\x7b' :: r =>
      match depth with
      | 0 => (broken, [])
      | depth + 1 =>
        let (fields, rest) := readFields fuel depth true r
        (object fields, rest)
    | u =>
      match readNumber? u with
      | some (n, rest) => (number n, rest)
      | none => (broken, [])

/-- The items of a list behind its bracket, or behind an item if it is not the `first`. -/
def readItems (fuel depth : Nat) (first : Bool) (t : List Char) : Items × List Char :=
  match fuel with
  | 0 => (.broken, [])
  | fuel + 1 =>
    match skipSpace t, first with
    | ']' :: r, _ => (.close, r)
    | ',' :: r, false => readItem fuel depth r
    | u, true => readItem fuel depth u
    | _, false => (.broken, [])

/-- An item of a list and those that follow it. -/
def readItem (fuel depth : Nat) (t : List Char) : Items × List Char :=
  match fuel with
  | 0 => (.broken, [])
  | fuel + 1 =>
    match skipSpace t with
    | ']' :: _ => (.broken, [])
    | [] => (.broken, [])
    | u =>
      match read fuel depth u with
      | (broken, _) => (.item broken .broken, [])
      | (head, afterHead) =>
        let (items, rest) := readItems fuel depth false afterHead
        (.item head items, rest)

/-- The fields of an object behind its brace, or behind a field if it is not the `first`. -/
def readFields (fuel depth : Nat) (first : Bool) (t : List Char) : Fields × List Char :=
  match fuel with
  | 0 => (.broken, [])
  | fuel + 1 =>
    match skipSpace t, first with
    | '\x7d' :: r, _ => (.close, r)
    | ',' :: r, false =>
      match skipSpace r with
      | '"' :: r => readField fuel depth r
      | _ => (.broken, [])
    | '"' :: r, true => readField fuel depth r
    | u, true => (.nameless (read fuel depth u).1, [])
    | _, false => (.broken, [])

/-- A field behind the opening quote of its name, and those that follow it. -/
def readField (fuel depth : Nat) (t : List Char) : Fields × List Char :=
  match fuel with
  | 0 => (.broken, [])
  | fuel + 1 =>
    match readString? t with
    | none => (.broken, [])
    | some (name, afterName) =>
      match skipSpace afterName with
      | ':' :: r =>
        match read fuel depth r with
        | (broken, _) => (.field name broken .broken, [])
        | (value, afterValue) =>
          let (fields, rest) := readFields fuel depth false afterValue
          (.field name value fields, rest)
      | _ => (.field name broken .broken, [])

end

/-- The tree of a text, and whether nothing but blanks follows its value. -/
def ofText (s : String) : Node × Bool :=
  let (node, rest) := read (3 * s.length + 3) maxDepth s.toList
  (node, (skipSpace rest).isEmpty)

end Node

mutual

/-- No part of the tree is broken; halves of surrogate pairs and large numbers are let pass. -/
def Node.isIntact : Node → Bool
  | .null | .bool _ | .number _ | .string _ => true
  | .array items => items.isIntact
  | .object fields => fields.isIntact
  | .broken => false

/-- No item is broken, and the list is closed. -/
def Items.isIntact : Items → Bool
  | .close => true
  | .broken => false
  | .item head rest => head.isIntact && rest.isIntact

/-- No field is broken, and the object is closed. -/
def Fields.isIntact : Fields → Bool
  | .close => true
  | .broken | .nameless _ => false
  | .field _ value rest => value.isIntact && rest.isIntact

end

end Livecast.Json
