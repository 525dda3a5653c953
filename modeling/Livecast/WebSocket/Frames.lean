import Livecast.Bytes
import Livecast.Text.Decimal

/-!
# Frames on the wire

A stream of bytes carries frames: two bytes that say what follows, a length, perhaps a mask, and a
payload.  A message may be spread over several frames, between which only control frames stand.

## Main Definitions

* `WireFrame`, `WireFrame.parse` - a frame and its reader
* `WireFrame.bytes` - the bytes of a frame
* `Assembly` - the part of a message that has been received
* `Assembly.receive` - the next message in a stream of bytes
* `ReceiveError` - why nothing more can be received
-/

namespace Livecast

open Livecast.Text

/-! ## Frames -/

/-- A frame as it is on the wire. -/
structure WireFrame where
  /-- It is the last one of its message. -/
  final : Bool
  /-- A bit is set that has no meaning. -/
  reserved : Bool
  /-- What it is, from 0 to 15. -/
  opcode : Nat
  /-- Its payload was masked. -/
  masked : Bool
  /-- Its payload; what was masked is kept as it came. -/
  payload : Bytes
deriving DecidableEq

namespace WireFrame

/-- The number of some bytes, the most significant one first. -/
def number (b : Bytes) : Nat := b.foldl (fun value x => 256 * value + x.toNat) 0

/-- What the first bytes of a stream are. -/
inductive Parsed where
  /-- Not yet a whole frame. -/
  | partly
  /-- A frame of no known kind. -/
  | unknown (opcode : Nat)
  /-- A frame that is too long. -/
  | tooLong (length : Nat)
  /-- A frame, and what follows it. -/
  | frame (f : WireFrame) (rest : Bytes)

/-- The longest payload of a frame that is received. -/
def maxLength : Nat := 16 * 1024 * 1024

/-- Whether an opcode has a meaning. -/
def isKnown (opcode : Nat) : Bool := opcode ≤ 2 || (8 ≤ opcode && opcode ≤ 10)

/-- How many bytes of length follow the first two bytes. -/
def lengthBytes (short : Nat) : Nat := if short = 126 then 2 else if short = 127 then 8 else 0

/-- The frame at the start of a stream. -/
def parse (b : Bytes) : Parsed :=
  match b with
  | first :: second :: r =>
    let short := second.toNat % 128
    let extra := lengthBytes short
    let masked := 128 ≤ second.toNat
    let head := extra + if masked then 4 else 0
    if r.length < head then .partly
    else
      let opcode := first.toNat % 16
      let length := if extra = 0 then short else number (r.take extra)
      if !isKnown opcode then .unknown opcode
      else if maxLength < length then .tooLong length
      else if r.length < head + length then .partly
      else .frame
        { final := 128 ≤ first.toNat, reserved := first.toNat / 16 % 8 ≠ 0, opcode := opcode,
          masked := masked, payload := (r.drop head).take length } (r.drop (head + length))
  | _ => .partly

/-- The length of a payload, behind a bit that says whether a mask follows. -/
def lengthField (masked : Bool) (length : Nat) : Bytes :=
  let digit (k : Nat) : UInt8 := UInt8.ofNat (length >>> (8 * k))
  let bit := if masked then 128 else 0
  if length < 126 then [UInt8.ofNat (bit + length)]
  else if length < 65536 then [UInt8.ofNat (bit + 126), digit 1, digit 0]
  else UInt8.ofNat (bit + 127) :: ([7, 6, 5, 4, 3, 2, 1, 0].map digit)

/-- A payload under a mask of four bytes, which is repeated. -/
def mask (key : Bytes) (payload : Bytes) : Bytes :=
  payload.zipIdx.map fun (x, i) => x ^^^ key.getD (i % 4) 0

/-- The bytes of a frame that is a whole message.  A client sends it under a mask and a server does
not. -/
def bytes (opcode : Nat) (key : Option Bytes) (payload : Bytes) : Bytes :=
  UInt8.ofNat (128 + opcode) :: lengthField key.isSome payload.length ++
    match key with
    | none => payload
    | some key => key.take 4 ++ mask key payload

end WireFrame

/-! ## Messages -/

/-- A message that was received. -/
inductive Received where
  /-- A text. -/
  | text (content : String)
  /-- Some bytes. -/
  | binary (data : Bytes)
  /-- A question whether the other side is there. -/
  | ping (data : Bytes)
  /-- An answer to such a question. -/
  | pong (data : Bytes)
  /-- The other side ends the stream, perhaps with a code. -/
  | close (code : Option Nat)
deriving DecidableEq

/-- Why nothing more can be received. -/
inductive ReceiveError where
  /-- The stream ended, but the other side did not say that it would. -/
  | reset
  /-- A frame is of no known kind. -/
  | unknownFrame (opcode : Nat)
  /-- A frame of the server is masked. -/
  | masked
  /-- A bit is set that has no meaning. -/
  | reservedBits
  /-- A control frame is not the last one of its message. -/
  | fragmentedControl
  /-- A control frame has a long payload. -/
  | longControl
  /-- A frame continues no message. -/
  | nothingToContinue
  /-- A message begins while another one goes on. -/
  | otherMessage (isText : Bool)
  /-- The end of the stream is given half a code. -/
  | halfCode
  /-- A text is no text. -/
  | notText
  /-- A frame or message is too long. -/
  | tooLong (length limit : Nat)
deriving DecidableEq

/-- The text that tells a user why nothing more can be received. -/
def ReceiveError.message : ReceiveError → String
  | .notText => "UTF-8 encoding error"
  | .tooLong length limit =>
    "Space limit exceeded: Message too long: " ++ natText length ++ " > " ++ natText limit
  | .reset => "WebSocket protocol error: Connection reset without closing handshake"
  | .unknownFrame opcode =>
    "WebSocket protocol error: Encountered invalid opcode: " ++ natText opcode
  | .masked => "WebSocket protocol error: Received a masked frame from server"
  | .reservedBits => "WebSocket protocol error: Reserved bits are non-zero"
  | .fragmentedControl => "WebSocket protocol error: Fragmented control frame"
  | .longControl =>
    "WebSocket protocol error: Control frame too big (payload must be 125 bytes or less)"
  | .nothingToContinue => "WebSocket protocol error: Continue frame but nothing to continue"
  | .otherMessage isText =>
    "WebSocket protocol error: While waiting for more fragments received: " ++
      if isText then "TEXT" else "BINARY"
  | .halfCode => "WebSocket protocol error: Invalid close sequence"

/-- The part of a message that has been received: whether it is a text, and its bytes. -/
abbrev Assembly := Option (Bool × Bytes)

namespace Assembly

/-- The longest message that is received. -/
def maxLength : Nat := 64 * 1024 * 1024

/-- Some bytes with others behind them that may complete a character. -/
def completions (b : Bytes) : List Bytes :=
  [[0x80], [0x90], [0xA0]].flatMap fun second =>
    [b ++ [0x80], b ++ second, b ++ second ++ [0x80], b ++ second ++ [0x80, 0x80],
      b ++ [0x80, 0x80]]

/-- Whether bytes are the beginning of a text: some bytes at their end may belong to a character
whose rest is still to come. -/
def mayBecomeText (b : Bytes) : Bool :=
  (Bytes.text? b).isSome || [1, 2, 3].any fun n =>
    n ≤ b.length && (Bytes.text? (b.take (b.length - n))).isSome &&
      (completions (b.drop (b.length - n))).any fun c => (Bytes.text? c).isSome

/-- The message of some bytes. -/
def complete (isText : Bool) (b : Bytes) : Except ReceiveError Received :=
  if isText then
    match Bytes.text? b with
    | some s => .ok (.text s)
    | none => .error .notText
  else .ok (.binary b)

/-- Takes in a piece of a message. -/
def extend (isText : Bool) (b piece : Bytes) (final : Bool) :
    Except ReceiveError (Option Received × Assembly) :=
  let b := b ++ piece
  if maxLength < b.length then .error (.tooLong b.length maxLength)
  else if isText && !mayBecomeText b then .error .notText
  else if final then (complete isText b).map fun m => (some m, none)
  else .ok (none, some (isText, b))

/-- What the payload of a closing frame says. -/
def closing (payload : Bytes) : Except ReceiveError Received :=
  match payload with
  | [] => .ok (.close none)
  | [_] => .error .halfCode
  | a :: b :: reason =>
    if (Bytes.text? reason).isSome then .ok (.close (some (256 * a.toNat + b.toNat)))
    else .error .notText

/-- Takes in a control frame. -/
def control (f : WireFrame) : Except ReceiveError Received :=
  if !f.final then .error .fragmentedControl
  else if 125 < f.payload.length then .error .longControl
  else if f.opcode = 8 then closing f.payload
  else if f.opcode = 9 then .ok (.ping f.payload)
  else .ok (.pong f.payload)

/-- Takes in a frame: a message that is complete with it, and what is still incomplete. -/
def accept (a : Assembly) (f : WireFrame) : Except ReceiveError (Option Received × Assembly) :=
  if f.reserved then .error .reservedBits
  else if f.masked then .error .masked
  else if 8 ≤ f.opcode then (control f).map fun m => (some m, a)
  else match a, f.opcode with
    | some (isText, b), 0 => extend isText b f.payload f.final
    | none, 0 => .error .nothingToContinue
    | some _, opcode => .error (.otherMessage (opcode = 1))
    | none, opcode => extend (opcode = 1) [] f.payload f.final

/-- What can be received from a stream of bytes. -/
inductive Reception where
  /-- No message is complete yet. -/
  | waiting (a : Assembly) (rest : Bytes)
  /-- A message, and what follows it. -/
  | message (m : Received) (a : Assembly) (rest : Bytes)
  /-- Nothing more. -/
  | failed (e : ReceiveError)

/-- Receives the next message, looking at no more than `fuel` frames. -/
def receiveUpTo : Nat → Assembly → Bytes → Reception
  | 0, a, b => .waiting a b
  | fuel + 1, a, b =>
    match WireFrame.parse b with
    | .partly => .waiting a b
    | .unknown opcode => .failed (.unknownFrame opcode)
    | .tooLong length => .failed (.tooLong length WireFrame.maxLength)
    | .frame f rest =>
      match a.accept f with
      | .error e => .failed e
      | .ok (some m, a) => .message m a rest
      | .ok (none, a) => receiveUpTo fuel a rest

/-- Receives the next message of a stream of bytes. -/
def receive (a : Assembly) (b : Bytes) : Reception := receiveUpTo (b.length + 1) a b

end Assembly

end Livecast
