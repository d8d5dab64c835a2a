import Reckoning.Digest
import Reckoning.Identity

/-!
# Seeds

A seed is the digest of everything that determines a draw.  Each part is written behind its
length, so that no two lists of parts share a text.

* `SeedPart` is a text or a number; `preimage` is the text that is digested.
* `seedOf` folds the first eight bytes of the digest into a word.
* `resolutionSeed` is the seed of one resolution.
-/

namespace Reckoning

/-- The eight bytes of a word, the lowest first. -/
def littleEndian (w : UInt64) : List UInt8 :=
  (List.range 8).map fun i => (w >>> (8 * i).toUInt64).toUInt8

/-- The word of some bytes, the lowest first. -/
def wordOfBytes (bytes : List UInt8) : UInt64 :=
  bytes.foldr (fun b acc => (acc <<< 8) ||| b.toUInt64) 0

/-- A part of what determines a draw. -/
inductive SeedPart
  | text (value : String)
  | number (value : UInt64)
deriving DecidableEq, Repr

/-- The bytes of a part. -/
def SeedPart.bytes : SeedPart → List UInt8
  | .text value => value.toUTF8.toList
  | .number value => littleEndian value

/-- Bytes behind their number. -/
def framed (bytes : List UInt8) : List UInt8 :=
  littleEndian bytes.length.toUInt64 ++ bytes

/-- The bytes that are digested: the purpose of the draw, then the parts, each behind its
length. -/
def preimage (purpose : String) (parts : List SeedPart) : List UInt8 :=
  (SeedPart.text purpose :: parts).flatMap fun p => framed p.bytes

/-- The seed of a draw. -/
def seedOf (purpose : String) (parts : List SeedPart) : UInt64 :=
  wordOfBytes ((Digest.sha256 (preimage purpose parts)).take 8)

/-- What determines one resolution.  Items count in the order of the request. -/
def resolutionParts (character : CharacterId) (action : DefId) (room : RoomId)
    (items : List ItemId) (seed : String) : List SeedPart :=
  [.number character.raw, .text action.text, .text room.text, .number items.length.toUInt64]
    ++ items.map (fun i => .number i.raw) ++ [.text seed]

/-- The seed of one resolution. -/
def resolutionSeed (character : CharacterId) (action : DefId) (room : RoomId)
    (items : List ItemId) (seed : String) : UInt64 :=
  seedOf "resolve" (resolutionParts character action room items seed)

end Reckoning
