import AssetAccess.Curve.Point
import AssetAccess.Digest.Block
/-!
# Numbers and points as bytes

A coordinate or a scalar stands as 32 bytes, most significant first.  A point stands as a tag and
its two coordinates.  The zero of the group has no coordinates and stands as a single zero byte,
which nobody reads as a point.
-/

namespace AssetAccess.Curve

open Digest

/-- A number of 256 bits as 32 bytes. -/
def octets (n : Nat) : List UInt8 := ByteOrder.big.bytes 32 n

/-- The number that stands as these bytes. -/
def ofOctets (l : List UInt8) : Nat := ByteOrder.big.value l

namespace Point

/-- The tag of a point that is written with both of its coordinates. -/
def bothCoordinates : UInt8 := 0x04

/-- A point as bytes. -/
def octets : Point → List UInt8
  | .infinity => [0]
  | .affine x y => bothCoordinates :: (Curve.octets x ++ Curve.octets y)

/-- The point that stands as these bytes, if it is on the curve. -/
def ofOctets? : List UInt8 → Option Point
  | [] => none
  | tag :: l =>
    let x := ofOctets (l.take 32)
    let y := ofOctets (l.drop 32)
    if tag = bothCoordinates && l.length = 64 && isOnCurve x y then some (.affine x y) else none

end Point

end AssetAccess.Curve
