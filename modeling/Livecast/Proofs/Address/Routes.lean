import Livecast.Api.Request
import Livecast.Proofs.Address.Segments

/-!
# Addresses of the administration interface cannot be confused

The path of an operation mixes fixed words with the names of channels and recordings, and a name may
be any text: empty, one of the fixed words, or full of slashes.  Yet the number of segments and the
fixed words among them always tell which operation it is, since no name stands where two operations
differ, and the names are read back from their own segments.

## Main Definitions

* `Route` - an operation and the names in its address
* `Route.ofSegments?` - the route that a path leads along

## Main Statements

* `Route.ofSegments?_segments` - the route of an operation is read from its path
* `Operation.url_eq_iff` - two operations have the same address exactly if they have the same route
-/

namespace Livecast.Api

open Livecast.Text

/-- An operation and the names that become part of its address. -/
inductive Route where
  | whereToPublish
  | create
  | configure (channel : String)
  | renewKey (channel : String)
  | endStream (channel : String)
  | deleteRecording (channel id : String)
  | deleteChannel (channel : String)
  | testKey (channel : String)
  | state (channel : String)
  | recordings (channel : String)
  | recording (channel id : String)
  | addAccount
  | removeAccount
deriving DecidableEq

namespace Operation

/-- The route of an operation; what is sent in its body is no part of it. -/
def route : Operation → Route
  | whereToPublish => .whereToPublish
  | create _ => .create
  | configure channel _ => .configure channel
  | renewKey channel _ => .renewKey channel
  | endStream channel _ => .endStream channel
  | deleteRecording channel id _ => .deleteRecording channel id
  | deleteChannel channel _ => .deleteChannel channel
  | testKey channel _ => .testKey channel
  | state channel => .state channel
  | recordings channel => .recordings channel
  | recording channel id => .recording channel id
  | addAccount _ _ _ => .addAccount
  | removeAccount _ => .removeAccount

end Operation

namespace Route

/-- The segments of a route. -/
def segments : Route → List String
  | whereToPublish => ["api", "control"]
  | create => ["api", "control", "create"]
  | configure channel => ["api", "control", "chan", percentEncode channel]
  | renewKey channel => ["api", "control", "chan", percentEncode channel, "key"]
  | endStream channel => ["api", "control", "chan", percentEncode channel, "close"]
  | deleteRecording channel id =>
    ["api", "control", "chan", percentEncode channel, "vod", percentEncode id, "delete"]
  | deleteChannel channel => ["api", "control", "chan", percentEncode channel, "delete"]
  | testKey channel => ["api", "control", "chan", percentEncode channel, "check"]
  | state channel => ["api", "watch", percentEncode channel]
  | recordings channel => ["api", "watch", percentEncode channel, "vod"]
  | recording channel id => ["api", "watch", percentEncode channel, "vod", percentEncode id]
  | addAccount => ["api", "admin", "accounts"]
  | removeAccount => ["api", "admin", "accounts", "delete"]

/-- The route that segments lead along. -/
def ofSegments? : List String → Option Route
  | ["api", "control"] => some whereToPublish
  | ["api", "control", "create"] => some create
  | ["api", "control", "chan", channel] => (component? channel).map configure
  | ["api", "control", "chan", channel, "key"] => (component? channel).map renewKey
  | ["api", "control", "chan", channel, "close"] => (component? channel).map endStream
  | ["api", "control", "chan", channel, "vod", id, "delete"] => do
    return deleteRecording (← component? channel) (← component? id)
  | ["api", "control", "chan", channel, "delete"] => (component? channel).map deleteChannel
  | ["api", "control", "chan", channel, "check"] => (component? channel).map testKey
  | ["api", "watch", channel] => (component? channel).map state
  | ["api", "watch", channel, "vod"] => (component? channel).map recordings
  | ["api", "watch", channel, "vod", id] => do
    return recording (← component? channel) (← component? id)
  | ["api", "admin", "accounts"] => some addAccount
  | ["api", "admin", "accounts", "delete"] => some removeAccount
  | _ => none

/-- **The route of an operation is read from its path**, whatever the names in it are. -/
theorem ofSegments?_segments (route : Route) : ofSegments? route.segments = some route := by
  -- one pattern matches by number and fixed words alone, before a name is looked at
  cases route <;> simp [ofSegments?, segments, component?_percentEncode]

/-- No word and no name of a route holds a slash. -/
theorem slashless_segments (route : Route) : ∀ s ∈ route.segments, Slashless s := by
  cases route <;> simp +decide [segments, slashless_percentEncode]

end Route

namespace Operation

/-- A text that ends with a slash, and one more segment. -/
theorem word_append {word : String} (front : List String) (fixed : word = pathOf front ++ "/")
    (s : String) : word ++ s = pathOf (front ++ [s]) := by
  rw [fixed, pathOf_concat]

theorem controlled_eq (channel : String) :
    controlled channel = pathOf ["api", "control", "chan", percentEncode channel] :=
  word_append ["api", "control", "chan"] (by simp [pathOf]) _

theorem watched_eq (channel : String) :
    watched channel = pathOf ["api", "watch", percentEncode channel] :=
  word_append ["api", "watch"] (by simp [pathOf]) _

theorem recorded_eq (front : List String) (id : String) :
    pathOf front ++ "/vod/" ++ percentEncode id = pathOf (front ++ ["vod", percentEncode id]) := by
  have recorded : "/vod/" ++ percentEncode id = pathOf ["vod", percentEncode id] :=
    word_append ["vod"] (by simp [pathOf]) _
  rw [String.append_assoc, recorded, pathOf_append]

/-- **The path of an operation is that of its route.** -/
theorem path_eq (o : Operation) : o.path = pathOf o.route.segments := by
  cases o with
  | whereToPublish => rfl
  | create draft => rfl
  | configure channel settings => exact controlled_eq channel
  | renewKey channel key =>
      rw [path, controlled_eq]
      exact (pathOf_append _ ["key"]).symm
  | endStream channel key =>
      rw [path, controlled_eq]
      exact (pathOf_append _ ["close"]).symm
  | deleteRecording channel id key =>
      rw [path, controlled_eq, recorded_eq]
      exact (pathOf_append _ ["delete"]).symm
  | deleteChannel channel key =>
      rw [path, controlled_eq]
      exact (pathOf_append _ ["delete"]).symm
  | testKey channel key =>
      rw [path, controlled_eq]
      exact (pathOf_append _ ["check"]).symm
  | state channel => exact watched_eq channel
  | recordings channel =>
      rw [path, watched_eq]
      exact (pathOf_append _ ["vod"]).symm
  | recording channel id =>
      rw [path, watched_eq, recorded_eq]
      rfl
  | addAccount name password write => rfl
  | removeAccount name => rfl

/-- **Addresses of the administration interface cannot be confused.**  Below one base, two
operations have the same address exactly if they are the same operation on the same channel and the
same recording, as far as the operation names one.  Nothing is asked of the names: they may be
empty, hold slashes, or be words such as `vod` and `delete`. -/
theorem url_eq_iff (base : String) (o o' : Operation) :
    (o.request base).url = (o'.request base).url ↔ o.route = o'.route := by
  constructor
  · intro same
    have paths : trimBase base ++ pathOf o.route.segments =
        trimBase base ++ pathOf o'.route.segments := by
      rw [← path_eq, ← path_eq]
      exact same
    have read := o.route.ofSegments?_segments
    rw [segments_inj o.route.slashless_segments o'.route.slashless_segments paths,
      Route.ofSegments?_segments] at read
    exact (Option.some.inj read).symm
  · intro same
    show trimBase base ++ o.path = trimBase base ++ o'.path
    rw [path_eq, path_eq, same]

end Operation

end Livecast.Api
