import Livecast.Api.Request
import Livecast.Json.Record

/-!
# Values that JSON holds as strings

Resolutions, lists of them, preview settings, roles and methods are exchanged as JSON strings that
hold their written form.

## Main Definitions

* `Resolution.ofJson`, `ResolutionList.ofJson`, `Previews.ofJson` - readers by written form
* `Role.ofJson`, `Api.Method.ofJson` - readers by name
-/

namespace Livecast

open Livecast.Json

/-- Reads a resolution; a string that is none is of the wrong kind. -/
def Resolution.ofJson (node : Node) : Except ReadError Resolution := do
  match Resolution.parse (← node.text) with
  | .ok r => .ok r
  | .error _ => .error .mismatch

/-- Reads a list of resolutions. -/
def ResolutionList.ofJson (node : Node) : Except ReadError ResolutionList :=
  node.text.map ResolutionList.decode

/-- Reads preview settings. -/
def Previews.ofJson (node : Node) : Except ReadError Previews :=
  node.text.map Previews.decode

/-- Reads a role by its name. -/
def Role.ofJson (node : Node) : Except ReadError Role := do
  let name ← node.oneOf [Role.publish.text, Role.watch.text]
  return if name = Role.publish.text then .publish else .watch

/-- Reads a method by its name. -/
def Api.Method.ofJson (node : Node) : Except ReadError Api.Method := do
  let name ← node.oneOf [Api.Method.get.text, Api.Method.post.text]
  return if name = Api.Method.get.text then .get else .post

end Livecast
