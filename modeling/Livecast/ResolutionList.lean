import Livecast.Resolution

/-!
# Lists of transcoding targets

A channel keeps its targets in one text such as `1920x1080-30,640x360`.  One word among them, in any
case, passes the stream on as it comes in; parts that are no resolution are skipped.

## Main Definitions

* `ResolutionList` - the targets of a channel
* `ResolutionList.Part` - what one comma-separated part of the text says
* `ResolutionList.text`, `ResolutionList.decode` - the written form and its reader

## Design Notes

A list without entries always passes the stream on as it comes in, since the server takes an empty
list to mean just that.  That rule is a field of the type, so that every list is the reading of its
written form whenever its entries are.
-/

namespace Livecast

open Livecast.Text

/-- The transcoding targets of a channel. -/
structure ResolutionList where
  /-- The stream is also passed on as it comes in. -/
  passesThrough : Bool
  /-- The targets, in order. -/
  entries : List Resolution
  /-- A list without targets passes the stream on. -/
  passesThrough_of_nil : entries = [] → passesThrough = true
deriving DecidableEq

namespace ResolutionList

/-- The list with the given targets; without any it passes the stream on. -/
def ofEntries (passesThrough : Bool) (entries : List Resolution) : ResolutionList where
  passesThrough := passesThrough || entries.isEmpty
  entries := entries
  passesThrough_of_nil h := by simp [h]

/-- The stream as it comes in and nothing else. -/
def passthrough : ResolutionList := ofEntries true []

instance : Inhabited ResolutionList := ⟨passthrough⟩

/-- The word for the stream as it comes in. -/
def passthroughWord : List Char := ['O', 'R', 'I', 'G', 'I', 'N', 'A', 'L']

/-- What one comma-separated part of a list says. -/
inductive Part where
  /-- Pass the stream on as it comes in. -/
  | passthrough
  /-- A target. -/
  | entry (r : Resolution)
  /-- Neither; the part is skipped. -/
  | rejected (e : ResolutionFault)
deriving DecidableEq

namespace Part

/-- Reads a part that has been trimmed. -/
def ofChars (part : List Char) : Part :=
  if part.map Char.toUpper = passthroughWord then passthrough
  else match Resolution.ofEntry part with
    | .ok r => entry r
    | .error e => rejected e

/-- The target that a part names. -/
def entry? : Part → Option Resolution
  | entry r => some r
  | _ => none

/-- The reason for which a part is skipped. -/
def rejected? : Part → Option ResolutionFault
  | rejected e => some e
  | _ => none

end Part

/-- What the parts of a text say, in order; blank parts say nothing. -/
def parts (t : List Char) : List Part :=
  (((pieces (· = ',') t).map trim).filter fun part => !part.isEmpty).map Part.ofChars

/-- The list that a text stands for. -/
def ofChars (t : List Char) : ResolutionList :=
  let said := parts t
  ofEntries (said.any (· = .passthrough)) (said.filterMap Part.entry?)

/-- Reads a list; a part that is no resolution is skipped. -/
def decode (s : String) : ResolutionList :=
  ofChars s.toList

/-- The reasons for which parts of a text are skipped, in order. -/
def rejections (s : String) : List ResolutionFault :=
  (parts s.toList).filterMap Part.rejected?

/-- The characters of the written form: passthrough first, and then the targets. -/
def chars (l : ResolutionList) : List Char :=
  let written := l.entries.map Resolution.chars
  List.intercalate [','] (if l.passesThrough then passthroughWord :: written else written)

/-- The written form of a list. -/
def text (l : ResolutionList) : String :=
  String.ofList l.chars

end ResolutionList

end Livecast
