import Livecast.Json.Node
import Livecast.Json.Value

/-!
# Reading records from JSON

A record is an object whose fields have fixed names and kinds.  Fields may come in any order, and
fields of other names are ignored; a list gives the fields by position.  The problem that comes
first in the text is the one that is reported, and a field that is missing is noticed at the
object's end.

## Main Definitions

* `Json.ReadError` - why a text is no value of a kind
* `Json.Kind` - the kinds of values that a field can have, `Json.Datum` - the values
* `Json.Field` - name and kind of a field, and what it is if the object lacks it
* `Json.readRecord` - the values of a record's fields, in the order of their declaration
* `Json.Record` - the types whose values are exchanged as records
-/

namespace Livecast.Json

/-- Why a text is no value of a kind. -/
inductive ReadError where
  /-- The text is not JSON. -/
  | malformed
  /-- The text is JSON, but a value is of another kind. -/
  | mismatch
  /-- An object lacks a field. -/
  | missingField (name : String)
  /-- An object gives a field twice. -/
  | duplicateField (name : String)
deriving DecidableEq

/-- The text for a problem that names a field. -/
def ReadError.message? : ReadError → Option String
  | .missingField name => some ("missing field \x60" ++ name ++ "\x60")
  | .duplicateField name => some ("duplicate field \x60" ++ name ++ "\x60")
  | _ => none

/-! ## Single values -/

/-- Why a value is not of the kind that is wanted: it may be broken itself. -/
def Node.refuse : Node → ReadError
  | .broken | .string none => .malformed
  | .number n => if n.tooLarge then .malformed else .mismatch
  | _ => .mismatch

/-- The text of a string. -/
def Node.text : Node → Except ReadError String
  | .string (some s) => .ok s
  | node => .error node.refuse

/-- A truth value. -/
def Node.flag : Node → Except ReadError Bool
  | .bool b => .ok b
  | node => .error node.refuse

/-- A whole number from `low` to `high`. -/
def Node.integer (low high : Int) : Node → Except ReadError Int
  | .number n =>
    match n.integer? with
    | some i => if low ≤ i ∧ i ≤ high then .ok i else .error (Node.number n).refuse
    | none => .error (Node.number n).refuse
  | node => .error node.refuse

/-- One of some names, given as a string or as an object with that one name and `null`. -/
def Node.oneOf (names : List String) : Node → Except ReadError String
  | .string (some s) => if s ∈ names then .ok s else .error .mismatch
  | .object (.field (some name) value rest) =>
    if name ∉ names then .error .mismatch
    else match value, rest with
      | .null, .close => .ok name
      | .null, _ => .error .malformed
      | other, _ => .error other.refuse
  | .object (.nameless found) => .error found.refuse
  | .array _ | .null | .bool _ | .number _ | .string none | .object _ | .broken => .error .malformed

/-! ## Records -/

/-- A field of a record whose values are `δ`, of a kind in `κ`. -/
structure Field (κ δ : Type) where
  /-- The name of the field in objects. -/
  name : String
  /-- The kind of its value. -/
  kind : κ
  /-- The value of a field that is not given; `none` if it has to be given. -/
  default? : Option δ

variable {κ δ : Type}

/-- The position of the field of a name. -/
def fieldIndex? (fields : List (Field κ δ)) (name : String) : Option Nat :=
  fields.findIdx? fun f => f.name = name

/-- The values of an object's fields, given those that were found before. -/
def readFields (read : κ → Node → Except ReadError δ) (fields : List (Field κ δ)) :
    List (Option δ) → Fields → Except ReadError (List (Option δ))
  | found, .close => .ok found
  | _, .broken | _, .nameless _ | _, .field none _ _ => .error .malformed
  | found, .field (some name) value rest =>
    match fieldIndex? fields name with
    | none => if value.isIntact then readFields read fields found rest else .error .malformed
    | some i =>
      if (found[i]?.join).isSome then .error (.duplicateField name)
      else match fields[i]? with
        | none => .error .malformed
        | some f => do
          let datum ← read f.kind value
          readFields read fields (found.set i (some datum)) rest

/-- The values of all fields, where those not found have their default. -/
def completeFields : List (Field κ δ) → List (Option δ) → Except ReadError (List δ)
  | [], _ => .ok []
  | f :: fields, found => do
    let datum ← match found.head?.join, f.default? with
      | some datum, _ => .ok datum
      | none, some datum => .ok datum
      | none, none => .error (.missingField f.name)
    return datum :: (← completeFields fields found.tail)

/-- The values of fields that are given by position. -/
def readItems (read : κ → Node → Except ReadError δ) :
    List (Field κ δ) → Items → Except ReadError (List δ)
  | [], .close => .ok []
  | [], _ => .error .malformed
  | _ :: _, .broken => .error .malformed
  | f :: fields, .close =>
    match f.default? with
    | some datum => (readItems read fields .close).map (datum :: ·)
    | none => .error .mismatch
  | f :: fields, .item head rest => do
    let datum ← read f.kind head
    return datum :: (← readItems read fields rest)

/-- The values of a record's fields, from an object or from a list. -/
def readRecord (read : κ → Node → Except ReadError δ) (fields : List (Field κ δ)) :
    Node → Except ReadError (List δ)
  | .object given => do
    let found ← readFields read fields (fields.map fun _ => none) given
    completeFields fields found
  | .array given => readItems read fields given
  | node => .error node.refuse

/-- The elements of a list, each read in the same way. -/
def readList {α : Type} (read : Node → Except ReadError α) : Items → Except ReadError (List α)
  | .close => .ok []
  | .broken => .error .malformed
  | .item head rest => do
    let element ← read head
    return element :: (← readList read rest)

/-! ## Kinds of values -/

/-- The kinds of values that are no list. -/
inductive Kind where
  /-- A string. -/
  | text
  /-- A truth value. -/
  | flag
  /-- A number of 32 bits without sign. -/
  | word
  /-- A number of 64 bits with sign. -/
  | long

/-- A value of one of the kinds. -/
inductive Datum where
  /-- A string. -/
  | text (s : String)
  /-- A truth value. -/
  | flag (b : Bool)
  /-- A number of 32 bits without sign. -/
  | word (n : UInt32)
  /-- A number of 64 bits with sign. -/
  | long (n : Int64)
deriving DecidableEq

/-- Reads a value of a kind. -/
def Kind.read : Kind → Node → Except ReadError Datum
  | text, node => node.text.map .text
  | flag, node => node.flag.map .flag
  | word, node => (node.integer 0 4294967295).map fun i => .word (UInt32.ofNat i.toNat)
  | long, node =>
    (node.integer (-9223372036854775808) 9223372036854775807).map fun i => .long (Int64.ofInt i)

/-- A value as JSON. -/
def Datum.json : Datum → Value
  | text s => .string s
  | flag b => .bool b
  | word n => .number n.toNat
  | long n => .number n.toInt

/-- The kinds of values of a record's fields: single values and lists of flat records. -/
inductive FieldKind where
  /-- A value that is no list. -/
  | single (kind : Kind)
  /-- A list of records with these fields. -/
  | records (fields : List (Field Kind Datum))

/-- A value of a record's field. -/
inductive FieldDatum where
  /-- A value that is no list. -/
  | single (d : Datum)
  /-- The values of the fields of each record of a list. -/
  | records (rows : List (List Datum))
deriving DecidableEq

/-- Reads a value of a field's kind. -/
def FieldKind.read : FieldKind → Node → Except ReadError FieldDatum
  | single kind, node => (kind.read node).map .single
  | records fields, .array items => (readList (readRecord Kind.read fields) items).map .records
  | records _, node => .error node.refuse

/-- A flat record as JSON. -/
def rowJson (fields : List (Field Kind Datum)) (row : List Datum) : Value :=
  .object (List.zipWith (fun f d => (f.name, d.json)) fields row)

/-- A field's value as JSON. -/
def FieldDatum.json : FieldKind → FieldDatum → Value
  | .records fields, records rows => .array (rows.map (rowJson fields))
  | _, records rows => .array (rows.map (rowJson []))
  | _, single d => d.json

/-- A field that has to be given. -/
def required {κ δ : Type} (name : String) (kind : κ) : Field κ δ := ⟨name, kind, none⟩

/-- A single value that has to be given. -/
def single (name : String) (kind : Kind) : Field FieldKind FieldDatum :=
  required name (.single kind)

/-- A list of records, empty if it is not given. -/
def listOf (name : String) (fields : List (Field Kind Datum)) : Field FieldKind FieldDatum :=
  ⟨name, .records fields, some (.records [])⟩

/-- Reads a value that fills a whole text. -/
def readText {α : Type} (read : Node → Except ReadError α) (s : String) : Except ReadError α := do
  let (node, alone) := Node.ofText s
  let value ← read node
  if alone then .ok value else .error .malformed

/-- A type whose values are exchanged as records. -/
class Record (α : Type) where
  /-- The fields, in the order in which they are written. -/
  fields : List (Field FieldKind FieldDatum)
  /-- The values of the fields. -/
  toData : α → List FieldDatum
  /-- The value with the given fields. -/
  ofData? : List FieldDatum → Option α

namespace Record

variable {α : Type} [Record α]

/-- A value as a JSON object. -/
def json (a : α) : Value :=
  .object (List.zipWith (fun f d => (f.name, FieldDatum.json f.kind d)) (fields α) (toData a))

/-- Reads a value from its JSON text. -/
def decode (α : Type) [Record α] (s : String) : Except ReadError α :=
  readText (fun node => do
    let data ← readRecord FieldKind.read (fields α) node
    match ofData? data with
    | some a => .ok a
    | none => .error .mismatch) s

end Record

end Livecast.Json
