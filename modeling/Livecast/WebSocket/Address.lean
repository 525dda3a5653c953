import Livecast.Text.Cut
import Livecast.Text.Decimal

/-!
# Addresses of WebSocket servers

An address is a scheme, an authority with a host and perhaps the number of a service, and a path.
The reader says which part is wrong, since a session reports it.

## Main Definitions

* `WebSocketAddress` - scheme, host, service and target of an address
* `WebSocketAddress.parse` - reads an address
* `AddressError` - why a text is no address of a server
-/

namespace Livecast

open Livecast.Text

/-- Why a text is no address of a server. -/
inductive AddressError where
  /-- The text, or what follows the scheme, is empty. -/
  | empty
  /-- A character may not stand in an address. -/
  | invalidCharacter
  /-- The authority cannot be understood. -/
  | invalidAuthority
  /-- There is no authority where there must be one. -/
  | invalidFormat
  /-- The address is a path only. -/
  | noHost
  /-- The authority names no host. -/
  | emptyHost
  /-- The scheme is not one of streams. -/
  | unsupportedScheme
  /-- The scheme asks for encryption. -/
  | encrypted
deriving DecidableEq

/-- The text that tells a user what is wrong with an address. -/
def AddressError.message : AddressError → String
  | .empty => "HTTP format error: empty string"
  | .invalidCharacter => "HTTP format error: invalid uri character"
  | .invalidAuthority => "HTTP format error: invalid authority"
  | .invalidFormat => "HTTP format error: invalid format"
  | .noHost => "URL error: No host name in the URL"
  | .emptyHost => "URL error: URL contains empty host name"
  | .unsupportedScheme => "URL error: URL scheme not supported"
  | .encrypted => "URL error: TLS support not compiled in"

/-- Where a session connects. -/
structure WebSocketAddress where
  /-- The scheme in lower case; empty if there is none. -/
  scheme : String
  /-- The host. -/
  host : String
  /-- The number of the service on the host, if it is given. -/
  service : Option Nat
  /-- The path and query that are asked for. -/
  target : String
deriving DecidableEq

namespace WebSocketAddress

/-- The characters of schemes. -/
def isSchemeChar (c : Char) : Bool := c.isAlphanum || c ∈ ['+', '-', '.']

/-- The characters that may stand in an authority, the ones with a meaning included. -/
def isAuthorityChar (c : Char) : Bool :=
  c.isAlphanum ||
    c ∈ ['!', '$', '&', '\x27', '(', ')', '*', '+', ',', '-', '.', ':', ';', '=', '@', '[', ']',
      '_', '~']

/-- The characters that may stand in a path. -/
def isPathChar (c : Char) : Bool :=
  (33 ≤ c.toNat && c.toNat < 127 && c ∉ ['"', '<', '>', '\x60', '#', '?', '\\', '^']) ||
    128 ≤ c.toNat

/-- The characters that may stand in a query. -/
def isQueryChar (c : Char) : Bool :=
  (33 ≤ c.toNat && c.toNat < 127 && c ∉ ['"', '<', '>', '#']) || 128 ≤ c.toNat

/-- The scheme before `://`, if there is one, and what follows. -/
def splitScheme (t : List Char) : Option (List Char) × List Char :=
  match t.dropWhile isSchemeChar with
  | ':' :: '/' :: '/' :: rest => (some (t.takeWhile isSchemeChar), rest)
  | _ => (none, t)

/-- Where the authority ends. -/
def endsAuthority (c : Char) : Bool := c = '/' || c = '?' || c = '#'

/-- Whether the brackets of an authority fit together: none, or one pair. -/
def bracketsFit (authority : List Char) : Bool :=
  match authority.filter fun c => c = '[' || c = ']' with
  | [] => true
  | ['[', ']'] => true
  | _ => false

/-- The authority behind the user's name, if there is one. -/
def afterUser (authority : List Char) : List Char :=
  (authority.reverse.takeWhile (· ≠ '@')).reverse

/-- Host and service of an authority without a user's name. -/
def splitService (t : List Char) : List Char × Option (List Char) :=
  let service := (t.reverse.takeWhile fun c => c ≠ ':' && c ≠ ']').reverse
  let before := t.take (t.length - service.length)
  match before.getLast? with
  | some ':' => (before.dropLast, some service)
  | _ => (t, none)

/-- The number of a service; what is no number of 16 bits counts as not given. -/
def serviceNumber? (service : Option (List Char)) : Option Nat :=
  service.bind (readNat? 65535)

/-- Checks the characters of a path and its query. -/
def checkTarget (t : List Char) : Except AddressError String :=
  let path := t.takeWhile fun c => c ≠ '?' && c ≠ '#'
  let query := ((t.dropWhile fun c => c ≠ '?' && c ≠ '#').takeWhile (· ≠ '#'))
  if path.all isPathChar && (query.drop 1).all isQueryChar then
    let path := if path.isEmpty then ['/'] else path
    .ok (String.ofList (path ++ query))
  else .error .invalidCharacter

/-- Reads an authority. -/
def parseAuthority (authority : List Char) : Except AddressError (String × Option Nat) := do
  if authority.any fun c => !isAuthorityChar c && c ≠ '%' then throw .invalidCharacter
  if !bracketsFit authority || authority.getLast? = some '@' then throw .invalidAuthority
  let place := afterUser authority
  if '%' ∈ place then throw .invalidAuthority
  let outside := (place.reverse.takeWhile (· ≠ ']')).reverse
  if 1 < outside.count ':' then throw .invalidAuthority
  let (host, service) := splitService place
  return (String.ofList host, serviceNumber? service)

/-- Reads an address. -/
def parse (s : String) : Except AddressError WebSocketAddress := do
  let t := s.toList
  if t.isEmpty then throw .empty
  if t.head? = some '/' then
    let _ ← checkTarget t
    throw .noHost
  let (scheme, rest) := splitScheme t
  if rest.isEmpty then throw .empty
  let authority := rest.takeWhile fun c => !endsAuthority c
  let after := rest.dropWhile fun c => !endsAuthority c
  if authority.any fun c => !isAuthorityChar c && c ≠ '%' then throw .invalidCharacter
  if authority.isEmpty || (scheme.isNone && !after.isEmpty) then throw .invalidFormat
  let (host, service) ← parseAuthority authority
  let target ← checkTarget after
  if host.isEmpty then throw .emptyHost
  return { scheme := (String.ofList (scheme.getD [])).toLower, host := host,
           service := service, target := target }

/-- The service to connect to: the one that is given, else the one of the scheme. -/
def serviceToUse (a : WebSocketAddress) : Except AddressError Nat :=
  match a.service with
  | some n => .ok n
  | none =>
    if a.scheme = "wss" then .ok 443
    else if a.scheme = "ws" then .ok 80
    else .error .unsupportedScheme

/-- Whether a stream can be had once the connection stands. -/
def checkScheme (a : WebSocketAddress) : Except AddressError Unit :=
  if a.scheme = "ws" then .ok ()
  else if a.scheme = "wss" then .error .encrypted
  else .error .unsupportedScheme

end WebSocketAddress

end Livecast
