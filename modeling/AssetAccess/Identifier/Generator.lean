import AssetAccess.Identifier.ContentHash
import AssetAccess.Identifier.RandomSource
import AssetAccess.Text.Decimal
import AssetAccess.Time.Clock
/-!
# Identifiers

Identifiers are made from random words, the time in nanoseconds and a content hash.  They seldom
collide, but they are no secrets.

The bits of a packed identifier, counted from the least significant:

* 0 to 19: the lowest bits of a base number, such as the number of an application;
* 20 to 31: bits 4 to 15 of a first random identifier;
* 32: a flag;
* 33 to 40: the lowest bits of a second random identifier;
* 41 to 56: the lowest bits of the content hash of the base number, the flag and the time;
* 57 to 60: the lowest bits of the second random identifier again;
* 61 to 63: zero.
-/

namespace AssetAccess.Identifier

/-- All bits but the highest. -/
def mask63 : UInt64 := 0x7FFFFFFFFFFFFFFF
/-- The bits of a base number that a packed identifier shows. -/
def baseMask : UInt64 := 0xFFFFF

/-- What identifiers are made from: a random source, a clock and the name of the machine. -/
structure Generator (σ : Type) where
  source : σ
  clock : Clock
  host : String

/-- An operation that draws on a generator. -/
abbrev Generation (σ α : Type) := StateM (Generator σ) α

namespace Generator

variable {σ : Type} [RandomSource σ]

/-- Takes a reading of the clock and returns the Unix time in nanoseconds. -/
def nanos : Generation σ Int := fun g => (g.clock.unixNanos, { g with clock := g.clock.next })

/-- Draws from the random source. -/
def draw {α : Type} (f : σ → α × σ) : Generation σ α := fun g =>
  ((f g.source).1, { g with source := (f g.source).2 })

/-- The time in nanoseconds as a word; a time before 1970 wraps round. -/
def timeWord (nanos : Int) : UInt64 := (Int64.ofInt nanos).toUInt64

/-- Mixes two words, each moved right, with a time.  Each part is small enough that the sum does not
wrap round. -/
def mix (first second : UInt64) (firstShift secondShift : Nat) (time : UInt64) : UInt64 :=
  ((first >>> UInt64.ofNat firstShift) + (second >>> UInt64.ofNat secondShift) + (time >>> 1))
    &&& mask63

/-- A random identifier of 63 bits. -/
def randomId : Generation σ UInt64 := do
  let time ← nanos
  let first ← draw RandomSource.next64
  let second ← draw RandomSource.next64
  let firstShift ← draw (RandomSource.between 2 17)
  let secondShift ← draw (RandomSource.between 1 8)
  return mix (first &&& mask63) (second &&& mask63) firstShift secondShift (timeWord time)

/-- The text whose content hash is a nonce. -/
def nonceText (first second : UInt64) (nanos : Int) (host : String) : String :=
  "#".intercalate
    [Decimal.ofNat first.toNat, Decimal.ofNat second.toNat, Decimal.ofInt nanos, host]

/-- A number that is not negative and hardly ever comes twice. -/
def nonce : Generation σ Int64 := do
  let first ← randomId
  let second ← randomId
  let time ← nanos
  let g ← get
  return (contentHash (nonceText first second time g.host) &&& mask63).toInt64

/-- The bit that stands for a flag. -/
def flagBit (flag : Bool) : UInt64 := if flag then 1 else 0

/-- The text whose content hash goes into a packed identifier. -/
def packedText (base : UInt64) (flag : Bool) (nanos : Int) : String :=
  "#".intercalate
    [Decimal.ofNat base.toNat, Decimal.ofNat (flagBit flag).toNat, Decimal.ofInt nanos]

/-- Puts the parts of a packed identifier into their places. -/
def pack (base : UInt64) (flag : Bool) (hash first second : UInt64) : UInt64 :=
  (base &&& baseMask) ||| (((first >>> 4) &&& 0xFFF) <<< 20) ||| (flagBit flag <<< 32)
    ||| ((second &&& 0xFF) <<< 33) ||| ((hash &&& 0xFFFF) <<< 41) ||| ((second &&& 0xF) <<< 57)

/-- A packed identifier for a base number and a flag. -/
def packedId (base : UInt64) (flag : Bool) : Generation σ UInt64 := do
  let time ← nanos
  let first ← randomId
  let second ← randomId
  return pack base flag (contentHash (packedText base flag time)) first second

/-- The identifier of an asset of an application. -/
def assetId (appId : Int64) : Generation σ Int64 := do
  let id ← packedId appId.toUInt64 false
  return id.toInt64

end Generator

end AssetAccess.Identifier
