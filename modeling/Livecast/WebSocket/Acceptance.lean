import Livecast.Text.Base64

/-!
# The proof that a request was understood

A client sends a random key with its request.  A server that understands the request answers with a
digest of the key and of a fixed text, which nobody computes by accident.

## Main Definitions

* `Digest.sha1` - the digest of some bytes
* `Upgrade.accept` - the answer that a key asks for
-/

namespace Livecast

open Livecast.Text

/-! ## The digest -/

/-- The five words of a digest. -/
structure Digest where
  /-- The first word. -/
  a : UInt32
  /-- The second word. -/
  b : UInt32
  /-- The third word. -/
  c : UInt32
  /-- The fourth word. -/
  d : UInt32
  /-- The fifth word. -/
  e : UInt32
deriving DecidableEq

namespace Digest

/-- The digest before any block. -/
def initial : Digest := ⟨0x67452301, 0xEFCDAB89, 0x98BADCFE, 0x10325476, 0xC3D2E1F0⟩

/-- A word turned to the left. -/
def rotate (x n : UInt32) : UInt32 := (x <<< n) ||| (x >>> (32 - n))

/-- The bytes with a mark, zeros and their number behind them, so that they fill whole blocks. -/
def padded (b : Bytes) : Bytes :=
  let bits := 8 * b.length
  b ++ 0x80 :: List.replicate ((119 - b.length % 64) % 64) 0 ++
    [7, 6, 5, 4, 3, 2, 1, 0].map fun k : Nat => UInt8.ofNat (bits >>> (8 * k))

/-- The words of some bytes, the most significant byte first. -/
def words : Bytes → List UInt32
  | a :: b :: c :: d :: rest =>
    (a.toUInt32 <<< 24 ||| b.toUInt32 <<< 16 ||| c.toUInt32 <<< 8 ||| d.toUInt32) :: words rest
  | _ => []

/-- Some more words, each made of the sixteen before it; the newest word is the first. -/
def extend : Nat → List UInt32 → List UInt32
  | 0, ws => ws
  | n + 1, ws =>
    extend n (rotate (ws.getD 2 0 ^^^ ws.getD 7 0 ^^^ ws.getD 13 0 ^^^ ws.getD 15 0) 1 :: ws)

/-- One round with a word. -/
def round (s : Digest) (i : Nat) (w : UInt32) : Digest :=
  let (f, k) : UInt32 × UInt32 :=
    if i < 20 then ((s.b &&& s.c) ||| (~~~s.b &&& s.d), 0x5A827999)
    else if i < 40 then (s.b ^^^ s.c ^^^ s.d, 0x6ED9EBA1)
    else if i < 60 then ((s.b &&& s.c) ||| (s.b &&& s.d) ||| (s.c &&& s.d), 0x8F1BBCDC)
    else (s.b ^^^ s.c ^^^ s.d, 0xCA62C1D6)
  ⟨rotate s.a 5 + f + s.e + k + w, s.a, rotate s.b 30, s.c, s.d⟩

/-- Takes in a block of sixteen words. -/
def absorb (s : Digest) (block : List UInt32) : Digest :=
  let ws := (extend 64 block.reverse).reverse
  let t := ws.zipIdx.foldl (fun t (w, i) => t.round i w) s
  ⟨s.a + t.a, s.b + t.b, s.c + t.c, s.d + t.d, s.e + t.e⟩

/-- Takes in the first `n` blocks of a list of words. -/
def absorbAll : Nat → Digest → List UInt32 → Digest
  | 0, s, _ => s
  | n + 1, s, ws => absorbAll n (s.absorb (ws.take 16)) (ws.drop 16)

/-- The bytes of a word. -/
def wordBytes (w : UInt32) : Bytes :=
  [(w >>> 24).toUInt8, (w >>> 16).toUInt8, (w >>> 8).toUInt8, w.toUInt8]

/-- The bytes of a digest. -/
def bytes (s : Digest) : Bytes := [s.a, s.b, s.c, s.d, s.e].flatMap wordBytes

/-- The digest of some bytes. -/
def sha1 (b : Bytes) : Bytes :=
  let ws := words (padded b)
  (absorbAll (ws.length / 16) initial ws).bytes

end Digest

namespace Upgrade

/-- The text that every server appends to a key. -/
def keySuffix : String := "258EAFA5-E914-47DA-95CA-C5AB0DC85B11"

/-- The answer that a key asks for. -/
def accept (key : String) : String :=
  String.ofList (base64 (Digest.sha1 (.ofText (key ++ keySuffix))))

end Upgrade

end Livecast
