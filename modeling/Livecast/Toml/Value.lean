/-!
# TOML values and tables

A document is a list of statements: headers that open a table, headers that add an element to a list
of tables, and entries.  The statements build a tree of tables, and the way in which a table came to
be decides what later statements may still add to it.

## Main Definitions

* `Toml.Value` - a value, `Toml.Entries` - the named values of a table
* `Toml.Key` - a dotted key
* `Toml.Statement` - a header or an entry
* `Toml.Entries.ofStatements?` - the tree that statements build
-/

namespace Livecast.Toml

/-- How a table came to be. -/
inductive Origin where
  /-- It was written as one value, and nothing can be added. -/
  | whole
  /-- A header opened it. -/
  | headed
  /-- A header of a table inside it implied it; a header of its own may follow. -/
  | implied
  /-- A dotted key made it; further dotted keys may add to it. -/
  | dotted
deriving DecidableEq

/-- A value; dates and fractions are kept as they are written. -/
inductive Value where
  /-- A text. -/
  | text (s : String)
  /-- A whole number. -/
  | integer (i : Int)
  /-- A number with a fraction or an exponent, an infinity, or no number. -/
  | decimal (written : String)
  /-- A truth value. -/
  | boolean (b : Bool)
  /-- A date, a time, or both. -/
  | moment (written : String)
  /-- A list; headers can add tables to one that `grows`. -/
  | array (grows : Bool) (items : List Value)
  /-- A table. -/
  | table (origin : Origin) (entries : List (String × Value))

/-- The named values of a table, each name at most once. -/
abbrev Entries := List (String × Value)

/-- A dotted key: the names of the tables that it passes, and the last name. -/
structure Key where
  /-- The names before the last dot. -/
  parents : List String
  /-- The last name. -/
  name : String
deriving DecidableEq

/-- The key of a single name. -/
def Key.single (name : String) : Key := ⟨[], name⟩

/-- The key's names. -/
def Key.names (k : Key) : List String := k.parents ++ [k.name]

/-- A line of a document, or several lines for one value. -/
inductive Statement where
  /-- A header that opens a table. -/
  | table (key : Key)
  /-- A header that adds a table to a list. -/
  | element (key : Key)
  /-- A value for a key. -/
  | entry (key : Key) (value : Value)

namespace Entries

/-- Changes the value of a name, or gives it one, unless the change is refused. -/
def alter (name : String) (change : Option Value → Option Value) : Entries → Option Entries
  | [] => (change none).map fun value => [(name, value)]
  | (other, value) :: rest =>
    if other = name then (change (some value)).map fun value => (other, value) :: rest
    else (alter name change rest).map ((other, value) :: ·)

/-- Changes the last table of a list of tables. -/
def alterLast (act : Entries → Option Entries) (items : List Value) : Option (List Value) :=
  match items.getLast? with
  | some (.table origin entries) =>
    (act entries).map fun entries => items.dropLast ++ [.table origin entries]
  | _ => none

/-- Acts on the table that the names of a header lead to.  Tables that do not exist are implied, and
of a list of tables the last one is meant. -/
def within (names : List String) (act : Entries → Option Entries) (entries : Entries) :
    Option Entries :=
  match names with
  | [] => act entries
  | name :: rest =>
    entries.alter name fun
      | none => (within rest act []).map (.table .implied)
      | some (.table origin inner) =>
        if origin = .whole then none else (within rest act inner).map (.table origin)
      | some (.array true items) => (alterLast (within rest act) items).map (.array true)
      | some _ => none

/-- Acts on the table that the names of a dotted key lead to: one that dotted keys have made. -/
def withinDotted (names : List String) (act : Entries → Option Entries) (entries : Entries) :
    Option Entries :=
  match names with
  | [] => act entries
  | name :: rest =>
    entries.alter name fun
      | none => (withinDotted rest act []).map (.table .dotted)
      | some (.table origin inner) =>
        if origin = .dotted || (origin = .implied && !rest.isEmpty) then
          (withinDotted rest act inner).map (.table origin)
        else none
      | some (.array true items) =>
        if rest.isEmpty then none
        else (alterLast (withinDotted rest act) items).map (.array true)
      | some _ => none

/-- Gives a name a value, unless it has one. -/
def add (name : String) (value : Value) (entries : Entries) : Option Entries :=
  entries.alter name fun
    | none => some value
    | some _ => none

/-- Gives a dotted key a value. -/
def assign (entries : Entries) (key : Key) (value : Value) : Option Entries :=
  entries.withinDotted key.parents (add key.name value)

/-- Opens the table of a header, unless it was opened before. -/
def openTable (entries : Entries) (key : Key) : Option Entries :=
  entries.within key.parents fun parent =>
    parent.alter key.name fun
      | none => some (.table .headed [])
      | some (.table .implied inner) => some (.table .headed inner)
      | some _ => none

/-- Adds an empty table to a list of tables. -/
def addElement (entries : Entries) (key : Key) : Option Entries :=
  entries.within key.parents fun parent =>
    parent.alter key.name fun
      | none => some (.array true [.table .headed []])
      | some (.array true items) => some (.array true (items ++ [.table .headed []]))
      | some _ => none

/-- The tree after a statement, and the names of the table that entries go to from then on. -/
def obey (state : Entries × List String) (s : Statement) : Option (Entries × List String) :=
  match s with
  | .table key => (state.1.openTable key).map fun entries => (entries, key.names)
  | .element key => (state.1.addElement key).map fun entries => (entries, key.names)
  | .entry key value =>
    (state.1.within state.2 fun current => current.assign key value).map fun entries =>
      (entries, state.2)

/-- The tree that statements build; none if a key or a table is given twice. -/
def ofStatements? (statements : List Statement) : Option Entries :=
  (statements.foldlM obey ([], [])).map Prod.fst

end Entries

namespace Value

/-- Whether the value can stand for a record: a table by names, a list by positions, and a date for
a record without any known name. -/
def isRecord : Value → Bool
  | .table _ _ | .array _ _ | .moment _ => true
  | _ => false

/-- The value that a record gives for a name, or for the position that the name has. -/
def member? (v : Value) (position : Nat) (name : String) : Option Value :=
  match v with
  | .table _ entries => entries.lookup name
  | .array _ items => items[position]?
  | _ => none

/-- The text of a text. -/
def text? : Value → Option String
  | .text s => some s
  | _ => none

/-- The number of a whole number that is not negative. -/
def natural? : Value → Option Nat
  | .integer i => if 0 ≤ i then some i.toNat else none
  | _ => none

/-- The truth value of a truth value. -/
def boolean? : Value → Option Bool
  | .boolean b => some b
  | _ => none

/-- The items of a list. -/
def items? : Value → Option (List Value)
  | .array _ items => some items
  | _ => none

end Value

/-- Reads a value that may be missing. -/
def readOr {α : Type} (missing : α) (read? : Value → Option α) : Option Value → Option α
  | none => some missing
  | some value => read? value

end Livecast.Toml
