import Livecast.Bytes
import Livecast.Files.Path

/-!
# Files and folders

A volume holds files and folders at their places.  A place is the list of names that lead to it from
the root.  An operation names a path, follows it step by step from the root or from the working
folder, and fails at the first step that cannot be taken.

## Main Definitions

* `FileError` - why an operation fails
* `Volume` - files, folders and the working folder
* `Volume.find` - what a path leads to
* `Volume.readBytes`, `Volume.readText` - the content of a file
* `Volume.write` - replaces a file's content, or makes the file
* `Volume.makeFolder`, `Volume.makeFolders` - makes a folder, or all folders on a path
* `Volume.makeParent` - makes the folders that a path is in
* `Volume.passed`, `Volume.changes` - the places on a path, and what has changed

## Main Statements

* `Volume.at?_put` - a place holds what was put there last
-/

namespace Livecast

open Livecast.Text

/-- Why an operation on files fails. -/
inductive FileError where
  /-- There is nothing at the place. -/
  | notFound
  /-- There is something at the place already. -/
  | alreadyExists
  /-- A file stands where the path needs a folder. -/
  | notFolder
  /-- A folder stands where a file is needed. -/
  | isFolder
  /-- A name or the whole path is too long. -/
  | nameTooLong
  /-- The path holds a zero character. -/
  | zeroInName
  /-- The content is no text. -/
  | notText
deriving DecidableEq

/-- The text of an error. -/
def FileError.message : FileError → String
  | .notFound => "No such file or directory (os error 2)"
  | .alreadyExists => "File exists (os error 17)"
  | .notFolder => "Not a directory (os error 20)"
  | .isFolder => "Is a directory (os error 21)"
  | .nameTooLong => "File name too long (os error 36)"
  | .zeroInName => "file name contained an unexpected NUL byte"
  | .notText => "stream did not contain valid UTF-8"

/-- The names that lead from the root to a place. -/
abbrev Place := List String

/-- What stands at a place. -/
inductive Content where
  /-- A folder. -/
  | folder
  /-- A file that holds some bytes. -/
  | file (bytes : Bytes)
deriving DecidableEq

/-- Files and folders, and the folder from which relative paths are read. -/
structure Volume where
  /-- What stands where, except for the root. -/
  contents : List (Place × Content)
  /-- The working folder. -/
  workingFolder : Place
deriving DecidableEq

namespace Volume

/-- What stands at a place; the root is a folder. -/
def at? (v : Volume) (place : Place) : Option Content :=
  if place = [] then some .folder else v.contents.lookup place

/-- The volume with something put at a place. -/
def put (v : Volume) (place : Place) (content : Content) : Volume :=
  { v with contents := (place, content) :: v.contents.filter (·.1 ≠ place) }

/-- The longest name in bytes. -/
def maxName : Nat := 255

/-- The longest path in bytes. -/
def maxPath : Nat := 4095

/-- The place reached from a folder by some steps; all but the last one must lead to folders. -/
def follow (v : Volume) (place : Place) : List String → Except FileError Place
  | [] => .ok place
  | step :: rest =>
    match v.at? place with
    | none => .error .notFound
    | some (.file _) => .error .notFolder
    | some .folder =>
      if step = "" || step = "." then v.follow place rest
      else if step = ".." then v.follow place.dropLast rest
      else if maxName < step.utf8ByteSize then .error .nameTooLong
      else v.follow (place ++ [step]) rest

/-- Where the steps of a path begin. -/
def origin (v : Volume) (p : Path) : Place := if p.isAbsolute then [] else v.workingFolder

/-- The steps of a path; a slash at the end leaves an empty step, which only a folder allows. -/
def steps (p : Path) : List String :=
  ((pieces (· = '/') p.text.toList).drop (if p.isAbsolute then 1 else 0)).map String.ofList

/-- Refuses paths that no place can have. -/
def checkPath (p : Path) : Except FileError Unit :=
  if p.text.toList.contains '\x00' then .error .zeroInName
  else if p.text.isEmpty then .error .notFound
  else if maxPath < p.text.utf8ByteSize then .error .nameTooLong
  else .ok ()

/-- What a path leads to. -/
def find (v : Volume) (p : Path) : Except FileError Content := do
  checkPath p
  let place ← v.follow (v.origin p) (steps p)
  match v.at? place with
  | none => throw .notFound
  | some content => return content

/-- Whether a path leads to a folder. -/
def isFolder (v : Volume) (p : Path) : Bool :=
  match v.find p with
  | .ok .folder => true
  | _ => false

/-- The bytes of a file. -/
def readBytes (v : Volume) (p : Path) : Except FileError Bytes := do
  match ← v.find p with
  | .file bytes => return bytes
  | .folder => throw .isFolder

/-- The text of a file. -/
def readText (v : Volume) (p : Path) : Except FileError String := do
  match Bytes.text? (← v.readBytes p) with
  | some s => return s
  | none => throw .notText

/-- The steps of a path without empty ones at its end, and whether there were such. -/
def splitEnd (steps : List String) : List String × Bool :=
  let kept := (steps.reverse.dropWhile (·.isEmpty)).reverse
  (kept, kept.length < steps.length)

/-- The place for a new entry at a path, and whether the path ends in a slash; none if the last step
of the path names nothing. -/
def target (v : Volume) (p : Path) : Except FileError (Option (Place × Bool)) := do
  checkPath p
  let (kept, slash) := splitEnd (steps p)
  match kept.getLast? with
  | none => return none
  | some name =>
    if name = "." || name = ".." then
      let place ← v.follow (v.origin p) (steps p)
      match v.at? place with
      | none => throw .notFound
      | some (.file _) => throw .notFolder
      | some .folder => return none
    else
      let place ← v.follow (v.origin p) kept
      return some (place, slash)

/-- Replaces the content of the file at a path, or makes the file. -/
def write (v : Volume) (p : Path) (bytes : Bytes) : Except FileError Volume := do
  match ← v.target p with
  | none => throw .isFolder
  | some (_, true) => throw .isFolder
  | some (place, false) =>
    match v.at? place with
    | some .folder => throw .isFolder
    | _ => return v.put place (.file bytes)

/-- Makes a folder at a path. -/
def makeFolder (v : Volume) (p : Path) : Except FileError Volume := do
  match ← v.target p with
  | none => throw .alreadyExists
  | some (place, _) =>
    match v.at? place with
    | some _ => throw .alreadyExists
    | none => return v.put place .folder

/-- Makes a folder at a path unless one is there. -/
def ensureFolder (v : Volume) (p : Path) : Except FileError Volume :=
  match v.makeFolder p with
  | .ok w => .ok w
  | .error e => if v.isFolder p then .ok v else .error e

/-- Makes all folders on a path that are missing, from the outermost on, looking at most at `limit`
of its parents.  Those made before a failure remain. -/
def makeFoldersUpTo (limit : Nat) (v : Volume) (p : Path) : Volume × Except FileError Unit :=
  if p.text.isEmpty then (v, .ok ())
  else match v.ensureFolder p, limit with
    | .ok w, _ => (w, .ok ())
    | .error .notFound, limit + 1 =>
      match p.parent? with
      | none => (v, .error .notFound)
      | some parent =>
        match makeFoldersUpTo limit v parent with
        | (w, .error e) => (w, .error e)
        | (w, .ok ()) =>
          match w.ensureFolder p with
          | .ok w => (w, .ok ())
          | .error e => (w, .error e)
    | .error e, _ => (v, .error e)

/-- Makes all folders on a path that are missing. -/
def makeFolders (v : Volume) (p : Path) : Volume × Except FileError Unit :=
  makeFoldersUpTo p.text.length v p

/-- Makes the folder that a path is in.  A failure names the folder. -/
def makeParent (v : Volume) (p : Path) : Volume × Except (Path × FileError) Unit :=
  match p.parent? with
  | none => (v, .ok ())
  | some folder =>
    match v.makeFolders folder with
    | (w, .ok ()) => (w, .ok ())
    | (w, .error e) => (w, .error (folder, e))

/-! ## Differences -/

/-- The places that a path passes, from the outermost on. -/
def passed (v : Volume) (p : Path) : List Place :=
  ((steps p).foldl
    (fun (place, places) step =>
      if step = "" || step = "." then (place, places)
      else if step = ".." then (place.dropLast, places)
      else (place ++ [step], places ++ [place ++ [step]]))
    (v.origin p, [])).2

/-- What stands in the volume and not in an older one, the oldest first. -/
def changes (v old : Volume) : List (Place × Content) :=
  (v.contents.filter fun (place, content) => old.at? place ≠ some content).reverse

/-! ## What was put can be found -/

/-- A place other than the root holds what was put there last. -/
theorem at?_put (v : Volume) {place : Place} (h : place ≠ []) (content : Content) :
    (v.put place content).at? place = some content := by
  simp [put, at?, h]

end Volume

end Livecast
