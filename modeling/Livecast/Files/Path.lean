import Livecast.Text.Cut

/-!
# Paths

A path is a text whose steps are separated by slashes.  Repeated slashes, slashes at the end and
steps that stay where they are (`.`) do not count, except that a path may begin with one such step.
The text itself is kept as it was given, since messages show it.

## Main Definitions

* `Path.join` - a path below another one
* `Path.parent?` - the path without its last step
* `Path.withName` - the path with another last step
-/

namespace Livecast

open Livecast.Text

/-- A path as it is written. -/
structure Path where
  /-- Its text. -/
  text : String
deriving DecidableEq

namespace Path

/-- Whether the path starts at the root. -/
def isAbsolute (p : Path) : Bool := p.text.toList.head? = some '/'

/-- A path read from the place of another one; an absolute path stands for itself. -/
def join (p : Path) (q : Path) : Path :=
  if q.isAbsolute || p.text.isEmpty then q
  else if p.text.toList.getLast? = some '/' then ⟨p.text ++ q.text⟩
  else ⟨p.text ++ "/" ++ q.text⟩

/-- What stands before the steps: a slash, a single dot, or nothing. -/
def front (p : Path) : List Char :=
  match p.text.toList with
  | '/' :: _ => ['/']
  | ['.'] => ['.']
  | '.' :: '/' :: _ => ['.']
  | _ => []

/-- The pieces between the slashes behind the front, the empty ones included. -/
def body (p : Path) : List (List Char) :=
  pieces (· = '/') (p.text.toList.drop p.front.length)

/-- Whether a piece leads anywhere. -/
def isStep (piece : List Char) : Bool := piece ≠ [] && piece ≠ ['.']

/-- Pieces without those at the end that lead nowhere. -/
def trimmed (ps : List (List Char)) : List (List Char) :=
  (ps.reverse.dropWhile fun piece => !isStep piece).reverse

/-- The text of pieces with slashes between them. -/
def joined (ps : List (List Char)) : List Char := List.intercalate ['/'] ps

/-- The last step, if there is one. -/
def lastStep? (p : Path) : Option String := (trimmed p.body).getLast?.map String.ofList

/-- The path without its last step; the root and the empty path have none. -/
def parent? (p : Path) : Option Path :=
  if (trimmed p.body).isEmpty then
    if p.front = ['.'] then some ⟨""⟩ else none
  else some ⟨String.ofList (p.front ++ joined (trimmed (trimmed p.body).dropLast))⟩

/-- The path with its last step replaced, or with one more step if the last one leads upwards. -/
def withName (p : Path) (name : String) : Path :=
  match p.lastStep?, p.parent? with
  | some step, some parent => if step = ".." then p.join ⟨name⟩ else parent.join ⟨name⟩
  | _, _ => p.join ⟨name⟩

end Path

end Livecast
