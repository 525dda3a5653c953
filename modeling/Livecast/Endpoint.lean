import Livecast.SessionIdentity
import Livecast.Text.Blank
import Livecast.Text.Percent

/-!
# Streaming endpoints

A session connects to `BASE/CHANNEL/KEY/SUFFIX`.  Channel and key are percent-encoded as single path
segments, and the suffix selects the role.

## Main Definitions

* `percentEncode` - the encoded form of a path segment
* `streamUrl` - the address of a session's endpoint, and `StreamUrlError`, the ways in which there
  is none
-/

namespace Livecast

open Livecast.Text

/-- Why a session has no address. -/
inductive StreamUrlError where
  /-- The base is not a WebSocket address. -/
  | invalidBase (base : String)
  /-- The channel has no name. -/
  | emptyChannel
  /-- There is no key. -/
  | emptyKey
deriving DecidableEq

/-- The text that tells a user what is wrong with an address. -/
def StreamUrlError.message : StreamUrlError → String
  | .invalidBase base =>
    "streaming base URL must start with ws:// or wss://, got '" ++ base ++ "'"
  | .emptyChannel => "channel identifier must not be empty"
  | .emptyKey => "streaming key must not be empty"

/-- A text as one segment of a path. -/
def percentEncode (s : String) : String :=
  String.ofList (Text.percentEncode s.toList)

/-- A base address without the slashes at its end. -/
def trimBase (base : String) : String :=
  String.ofList (dropEndWhile (· = '/') base.toList)

/-- A base address of a WebSocket server. -/
def isWebSocketBase (base : String) : Bool :=
  ['w', 's', ':', '/', '/'].isPrefixOf base.toList
    || ['w', 's', 's', ':', '/', '/'].isPrefixOf base.toList

/-- The address to which a session connects. -/
def streamUrl (base channel key : String) (role : Role) : Except StreamUrlError String :=
  if !isWebSocketBase base then .error (.invalidBase base)
  else if channel.isEmpty then .error .emptyChannel
  else if key.isEmpty then .error .emptyKey
  else .ok (trimBase base ++ "/" ++ percentEncode channel ++ "/" ++ percentEncode key ++ "/"
    ++ role.urlSegment)

end Livecast
