import Livecast.Text.Quoted

/-!
# Session identity

A session is identified by its channel, its access key and its role.  The key is a credential and is
never shown.

## Main Definitions

* `Role` - the direction in which a session streams
* `SessionStage` - the stages of a session's life
* `SessionIdentity` - channel, key and role, with a short and a detailed text that hide the key
-/

namespace Livecast

open Livecast.Text

/-- The direction in which a session streams. -/
inductive Role where
  /-- Local segments are sent to the server. -/
  | publish
  /-- Segments are received from the server. -/
  | watch
deriving DecidableEq, Repr

namespace Role

/-- The name of a role. -/
def text : Role → String
  | publish => "publish"
  | watch => "watch"

/-- The last path segment of the streaming endpoint, which selects the role. -/
def urlSegment : Role → String
  | publish => "publish"
  | watch => "receive"

/-- The name of a role in diagnostics. -/
def diagnostic : Role → String
  | publish => "Publish"
  | watch => "Watch"

end Role

/-- The stages of a session's life; `closed` is final. -/
inductive SessionStage where
  /-- The handshake is under way. -/
  | connecting
  /-- Frames flow. -/
  | opened
  /-- Everything has been released. -/
  | closed
deriving DecidableEq, Repr

namespace SessionStage

/-- The name of a state. -/
def text : SessionStage → String
  | connecting => "CONNECTING"
  | opened => "OPEN"
  | closed => "CLOSED"

/-- The name of a state in diagnostics. -/
def diagnostic : SessionStage → String
  | connecting => "Connecting"
  | opened => "Open"
  | closed => "Closed"

end SessionStage

/-- What identifies a session. -/
structure SessionIdentity where
  /-- The channel it streams. -/
  channel : String
  /-- The access key of the channel. -/
  key : String
  /-- The direction in which it streams. -/
  role : Role
deriving DecidableEq

namespace SessionIdentity

/-- The short text of a session, without its key. -/
def text (id : SessionIdentity) : String :=
  id.role.text ++ ":" ++ id.channel

/-- The detailed text of a session, which says only that there is a key. -/
def diagnostic (id : SessionIdentity) : String :=
  "SessionId \x7b channel: " ++ quote id.channel ++ ", key: \"<redacted>\", role: "
    ++ id.role.diagnostic ++ " \x7d"

end SessionIdentity

end Livecast
