import Livecast.Text.Decimal
import Livecast.Text.Quoted

/-!
# JSON values and their texts

The values that the library sends and shows: texts, truth values, whole numbers, lists and objects
whose fields keep their order.

## Main Definitions

* `Json.Value` - a JSON value
* `Json.escape` - a character inside a JSON string
* `Json.Value.compact` - the text without any space
* `Json.Value.pretty` - the text on indented lines
-/

namespace Livecast.Json

open Livecast.Text

/-- A JSON value; numbers are whole. -/
inductive Value where
  /-- The value `null`. -/
  | null
  /-- A truth value. -/
  | bool (b : Bool)
  /-- A whole number. -/
  | number (i : Int)
  /-- A text. -/
  | string (s : String)
  /-- A list of values. -/
  | array (items : List Value)
  /-- Named values, in order. -/
  | object (fields : List (String × Value))
deriving Inhabited

/-- A character inside a string: quotes and backslashes are escaped, and so are the control
characters below the space, five of them with a letter. -/
def escape (c : Char) : List Char :=
  if c = '"' then ['\\', '"']
  else if c = '\\' then ['\\', '\\']
  else if c = '\x08' then ['\\', 'b']
  else if c = '\t' then ['\\', 't']
  else if c = '\n' then ['\\', 'n']
  else if c = '\x0c' then ['\\', 'f']
  else if c = '\r' then ['\\', 'r']
  else if c.toNat < 32 then
    ['\\', 'u', '0', '0', lowerHexDigit (c.toNat / 16), lowerHexDigit (c.toNat % 16)]
  else [c]

/-- A text as a JSON string. -/
def stringChars (s : String) : List Char :=
  '"' :: s.toList.flatMap escape ++ ['"']

/-- A whole number with its sign. -/
def numberChars (i : Int) : List Char :=
  if i < 0 then '-' :: digits i.natAbs else digits i.natAbs

namespace Value

mutual

/-- The characters of a value without any space. -/
def chars : Value → List Char
  | null => ['n', 'u', 'l', 'l']
  | bool true => ['t', 'r', 'u', 'e']
  | bool false => ['f', 'a', 'l', 's', 'e']
  | number i => numberChars i
  | string s => stringChars s
  | array items => '[' :: itemChars items ++ [']']
  | object fields => '\x7b' :: fieldChars fields ++ ['\x7d']

/-- Items with commas between them. -/
def itemChars : List Value → List Char
  | [] => []
  | [v] => chars v
  | v :: w :: r => chars v ++ ',' :: itemChars (w :: r)

/-- Fields with commas between them. -/
def fieldChars : List (String × Value) → List Char
  | [] => []
  | [(name, v)] => stringChars name ++ ':' :: chars v
  | (name, v) :: f :: r => stringChars name ++ ':' :: chars v ++ ',' :: fieldChars (f :: r)

end

/-- The text of a value without any space. -/
def compact (v : Value) : String :=
  String.ofList v.chars

mutual

/-- The lines of a value, joined, where what stands inside is indented by `indent` blanks. -/
def prettyChars (indent : Nat) : Value → List Char
  | array (v :: r) =>
    '[' :: prettyItems indent (v :: r) ++ '\n' :: List.replicate (indent - 2) ' ' ++ [']']
  | object (f :: r) =>
    '\x7b' :: prettyFields indent (f :: r) ++ '\n' :: List.replicate (indent - 2) ' ' ++ ['\x7d']
  | v => chars v

/-- Items on lines of their own. -/
def prettyItems (indent : Nat) : List Value → List Char
  | [] => []
  | [v] => '\n' :: List.replicate indent ' ' ++ prettyChars (indent + 2) v
  | v :: w :: r =>
    '\n' :: List.replicate indent ' ' ++ prettyChars (indent + 2) v ++ ','
      :: prettyItems indent (w :: r)

/-- Fields on lines of their own. -/
def prettyFields (indent : Nat) : List (String × Value) → List Char
  | [] => []
  | [(name, v)] =>
    '\n' :: List.replicate indent ' ' ++ stringChars name ++ ':' :: ' '
      :: prettyChars (indent + 2) v
  | (name, v) :: f :: r =>
    '\n' :: List.replicate indent ' ' ++ stringChars name ++ ':' :: ' '
      :: prettyChars (indent + 2) v ++ ',' :: prettyFields indent (f :: r)

end

/-- The text of a value on lines that are indented by two blanks a level. -/
def pretty (v : Value) : String :=
  String.ofList (prettyChars 2 v)

end Value

end Livecast.Json
