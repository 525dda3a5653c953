import Livecast.Session.Event
import Livecast.Text.Blank
import Livecast.Text.Cut
import Livecast.Text.Decimal
import Livecast.WebSocket.Address

/-!
# The opening handshake

A client asks an HTTP server to go on as a WebSocket server.  The server agrees with the status 101
and with headers that say so; whatever else it replies ends the handshake.

## Main Definitions

* `Upgrade.request` - what a client asks
* `Upgrade.check` - what a client makes of the reply
* `Upgrade.conclude` - how the handshake at an address ends
* `UpgradeError` - why there is no stream
-/

namespace Livecast

open Livecast.Text

/-- Why there is no stream. -/
inductive UpgradeError where
  /-- The reply stops before it is complete. -/
  | incomplete
  /-- The reply is no HTTP. -/
  | malformed (reason : String)
  /-- The server replies with another status. -/
  | status (code : Nat)
  /-- The reply does not name WebSocket as the protocol to go on with. -/
  | noUpgrade
  /-- The reply does not say that the connection goes on with another protocol. -/
  | noConnection
  /-- The reply does not prove that the request was understood. -/
  | wrongKey
deriving DecidableEq

/-- The reasons that belong to the statuses of HTTP. -/
def statusReasons : List (Nat × String) :=
  [(100, "Continue"), (101, "Switching Protocols"), (102, "Processing"), (200, "OK"),
    (201, "Created"), (202, "Accepted"), (203, "Non Authoritative Information"),
    (204, "No Content"), (205, "Reset Content"), (206, "Partial Content"), (207, "Multi-Status"),
    (208, "Already Reported"), (226, "IM Used"), (300, "Multiple Choices"),
    (301, "Moved Permanently"), (302, "Found"), (303, "See Other"), (304, "Not Modified"),
    (305, "Use Proxy"), (307, "Temporary Redirect"), (308, "Permanent Redirect"),
    (400, "Bad Request"), (401, "Unauthorized"), (402, "Payment Required"), (403, "Forbidden"),
    (404, "Not Found"), (405, "Method Not Allowed"), (406, "Not Acceptable"),
    (407, "Proxy Authentication Required"), (408, "Request Timeout"), (409, "Conflict"),
    (410, "Gone"), (411, "Length Required"), (412, "Precondition Failed"),
    (413, "Payload Too Large"), (414, "URI Too Long"), (415, "Unsupported Media Type"),
    (416, "Range Not Satisfiable"), (417, "Expectation Failed"), (418, "I'm a teapot"),
    (421, "Misdirected Request"), (422, "Unprocessable Entity"), (423, "Locked"),
    (424, "Failed Dependency"), (425, "Too Early"), (426, "Upgrade Required"),
    (428, "Precondition Required"), (429, "Too Many Requests"),
    (431, "Request Header Fields Too Large"), (451, "Unavailable For Legal Reasons"),
    (500, "Internal Server Error"), (501, "Not Implemented"), (502, "Bad Gateway"),
    (503, "Service Unavailable"), (504, "Gateway Timeout"), (505, "HTTP Version Not Supported"),
    (506, "Variant Also Negotiates"), (507, "Insufficient Storage"), (508, "Loop Detected"),
    (510, "Not Extended"), (511, "Network Authentication Required")]

/-- The text that tells a user why there is no stream. -/
def UpgradeError.message : UpgradeError → String
  | .incomplete => "WebSocket protocol error: Handshake not finished"
  | .malformed reason => "WebSocket protocol error: httparse error: " ++ reason
  | .status code =>
    "HTTP error: " ++ natText code ++ " " ++
      (statusReasons.lookup code).getD "<unknown status code>"
  | .noUpgrade => "WebSocket protocol error: No \"Upgrade: websocket\" header"
  | .noConnection => "WebSocket protocol error: No \"Connection: upgrade\" header"
  | .wrongKey => "WebSocket protocol error: Key mismatch in \"Sec-WebSocket-Accept\" header"

namespace Upgrade

/-- What a client asks of the server at an address. -/
def request (a : WebSocketAddress) (key : String) : String :=
  let place := match a.service with
    | some n => a.host ++ ":" ++ natText n
    | none => a.host
  "GET " ++ a.target ++ " HTTP/1.1\r\nHost: " ++ place ++
    "\r\nConnection: Upgrade\r\nUpgrade: websocket\r\nSec-WebSocket-Version: 13\r\n" ++
    "Sec-WebSocket-Key: " ++ key ++ "\r\n\r\n"

/-- The lines of a reply up to the empty one, and what follows; none if there is no empty line
yet. -/
def head? (line : List Char) : List Char → Option (List (List Char) × List Char)
  | '\r' :: '\n' :: r =>
    if line.isEmpty then some ([], r)
    else (head? [] r).map fun (lines, rest) => (line :: lines, rest)
  | '\n' :: r =>
    if line.isEmpty then some ([], r)
    else (head? [] r).map fun (lines, rest) => (line :: lines, rest)
  | c :: r => head? (line ++ [c]) r
  | [] => none

/-- The status of the first line of a reply. -/
def status (line : List Char) : Except UpgradeError Nat :=
  match line with
  | 'H' :: 'T' :: 'T' :: 'P' :: '/' :: '1' :: '.' :: minor :: ' ' :: a :: b :: c :: r =>
    if minor ≠ '0' && minor ≠ '1' then .error (.malformed "invalid HTTP version")
    else if !([a, b, c].all Char.isDigit) || !(r.isEmpty || r.head? = some ' ') then
      .error (.malformed "invalid response status")
    else .ok (digitsValue [a, b, c])
  | 'H' :: 'T' :: 'T' :: 'P' :: '/' :: '1' :: '.' :: _ =>
    .error (.malformed "invalid response status")
  | _ => .error (.malformed "invalid HTTP version")

/-- Whether a reply has begun that can still become one of HTTP. -/
def mayBegin (t : List Char) : Bool :=
  t.isPrefixOf ['H', 'T', 'T', 'P', '/', '1', '.', '1'] ||
    t.isPrefixOf ['H', 'T', 'T', 'P', '/', '1', '.', '0'] ||
    ['H', 'T', 'T', 'P', '/', '1', '.'].isPrefixOf t

/-- The name of a header in lower case, and its value. -/
def headerOf? (line : List Char) : Option (List Char × List Char) :=
  (cutAt? (· = ':') line).map fun (name, value) => (name.map Char.toLower, trim value)

/-- The first value of a header. -/
def header? (headers : List (List Char × List Char)) (name : String) : Option (List Char) :=
  headers.lookup name.toList

/-- Whether a header has a value, in any case. -/
def has (headers : List (List Char × List Char)) (name value : String) : Bool :=
  (header? headers name).any fun given => given.map Char.toLower = value.toList

/-- What a client makes of a reply that has ended or goes on with frames: what follows the head of
the reply, if the server agrees.  The proof of understanding is `accept`. -/
def check (accept : String) (reply : List Char) : Except UpgradeError (List Char) :=
  match head? [] reply with
  | none => .error (if mayBegin reply then .incomplete else .malformed "invalid HTTP version")
  | some ([], _) => .error (.malformed "invalid HTTP version")
  | some (first :: lines, rest) =>
    match status first with
    | .error e => .error e
    | .ok code =>
      match lines.mapM headerOf? with
      | none => .error (.malformed "invalid header name")
      | some headers =>
        if code ≠ 101 then .error (.status code)
        else if !has headers "upgrade" "websocket" then .error .noUpgrade
        else if !has headers "connection" "upgrade" then .error .noConnection
        else if header? headers "sec-websocket-accept" ≠ some accept.toList then .error .wrongKey
        else .ok rest

/-- What a client meets at the place to which an address leads. -/
inductive Greeting where
  /-- There is nobody. -/
  | nobody (reason : String)
  /-- A server replies to the request, of which `accept` would prove that it was understood. -/
  | reply (accept : String) (text : List Char)
  /-- A server agrees. -/
  | agreement

/-- How the handshake at an address ends; if the server agrees, with what it was asked for. -/
def conclude (url : String) (greeting : Greeting) : Except SessionFailure String :=
  match WebSocketAddress.parse url with
  | .error e => .error (.handshake e.message)
  | .ok address =>
    match address.serviceToUse, greeting, address.checkScheme with
    | .error e, _, _ => .error (.handshake e.message)
    | .ok _, .nobody reason, _ => .error (.handshake ("IO error: " ++ reason))
    | .ok _, _, .error e => .error (.handshake e.message)
    | .ok _, .agreement, .ok () => .ok address.target
    | .ok _, .reply accept text, .ok () =>
      match check accept text with
      | .ok _ => .ok address.target
      | .error e => .error (.handshake e.message)

/-- What the server at an address is asked for, if a request gets as far as that. -/
def target? (url : String) : Option String := (conclude url .agreement).toOption

end Upgrade

end Livecast
