import Livecast.Api.Records
import Livecast.Endpoint

/-!
# Requests of the administration interface

A request is only described: its method, its address and its body.  Names that become part of the
address are percent-encoded as path segments; keys are never part of it.

## Main Definitions

* `Api.Method`, `Api.Request` - a described request
* `Api.Operation` - what a server can be asked to do
* `Api.Operation.request` - the request for it
* `Api.fragmentNumber` - the number of a media fragment, from the address of its file
-/

namespace Livecast.Api

open Livecast.Json Livecast.Text

/-- The method of a request. -/
inductive Method where
  /-- Ask for something. -/
  | get
  /-- Change something. -/
  | post
deriving DecidableEq

/-- The name of a method. -/
def Method.text : Method → String
  | get => "GET"
  | post => "POST"

/-- A described request. -/
structure Request where
  /-- Its method. -/
  method : Method
  /-- Its address. -/
  url : String
  /-- What is sent with it. -/
  body : Option Value

/-! ## What a server can be asked to do -/

/-- Something that a server can be asked to do.  A change of a channel proves with the key that the
channel is one's own. -/
inductive Operation where
  /-- Where do encoders publish to? -/
  | whereToPublish
  /-- Create a channel. -/
  | create (draft : ChannelDraft)
  /-- Change the settings of a channel. -/
  | configure (channel : String) (settings : ChannelChange)
  /-- Give a channel a new key; `key` is the one in force. -/
  | renewKey (channel key : String)
  /-- End the stream that is being published. -/
  | endStream (channel key : String)
  /-- Delete a recording. -/
  | deleteRecording (channel id key : String)
  /-- Delete a channel. -/
  | deleteChannel (channel key : String)
  /-- Is this the key of the channel? -/
  | testKey (channel key : String)
  /-- What is the state of a channel? -/
  | state (channel : String)
  /-- Which recordings does a channel have? -/
  | recordings (channel : String)
  /-- Where is a recording of a channel? -/
  | recording (channel id : String)
  /-- Create an account, which may be allowed to write. -/
  | addAccount (name password : String) (write : Bool)
  /-- Delete an account. -/
  | removeAccount (name : String)

namespace Operation

/-- The path under which a channel is administered. -/
def controlled (channel : String) : String := "/api/control/chan/" ++ percentEncode channel

/-- The path under which a channel is watched. -/
def watched (channel : String) : String := "/api/watch/" ++ percentEncode channel

/-- The path of an operation on its server. -/
def path : Operation → String
  | whereToPublish => "/api/control"
  | create _ => "/api/control/create"
  | configure channel _ => controlled channel
  | renewKey channel _ => controlled channel ++ "/key"
  | endStream channel _ => controlled channel ++ "/close"
  | deleteRecording channel id _ => controlled channel ++ "/vod/" ++ percentEncode id ++ "/delete"
  | deleteChannel channel _ => controlled channel ++ "/delete"
  | testKey channel _ => controlled channel ++ "/check"
  | state channel => watched channel
  | recordings channel => watched channel ++ "/vod"
  | recording channel id => watched channel ++ "/vod/" ++ percentEncode id
  | addAccount _ _ _ => "/api/admin/accounts"
  | removeAccount _ => "/api/admin/accounts/delete"

/-- The body that proves ownership of a channel. -/
def keyBody (key : String) : Value := .object [("key", .string key)]

/-- What is sent with an operation; questions have nothing. -/
def body? : Operation → Option Value
  | whereToPublish | state _ | recordings _ | recording _ _ => none
  | create draft => some (Record.json draft)
  | configure _ settings => some (Record.json settings)
  | renewKey _ key | endStream _ key | deleteRecording _ _ key | deleteChannel _ key
  | testKey _ key => some (keyBody key)
  | addAccount name password write =>
    some (.object [("username", .string name), ("password", .string password),
      ("write", .bool write)])
  | removeAccount name => some (.object [("username", .string name)])

/-- The method of an operation: only questions are sent without a body. -/
def method (o : Operation) : Method := if o.body?.isSome then .post else .get

/-- The request for an operation to the server at `base`; slashes at the end of the base are
dropped. -/
def request (o : Operation) (base : String) : Request :=
  ⟨o.method, trimBase base ++ o.path, o.body?⟩

end Operation

/-- The number of a media fragment, from the characters of its file's address: the digits behind the
first dash of the file name, up to its first dot.  Without such digits, and beyond 64 bits, it is
zero. -/
def fragmentNumberOf (url : List Char) : Nat :=
  let name := ((pieces (· = '/') url).getLast?).getD []
  let stem := name.takeWhile (· ≠ '.')
  match (pieces (· = '-') stem)[1]? with
  | none => 0
  | some suffix => (readNat? maxUnsigned (suffix.takeWhile Char.isDigit)).getD 0

/-- The number of a media fragment, from the address of its file. -/
def fragmentNumber (url : String) : Nat :=
  fragmentNumberOf url.toList

end Livecast.Api
