import AssetAccess.Curve.SecretNumber
/-!
# Curve signatures

A signature is a pair of scalars.  It is made from a private scalar and a message digest, and
checked against the public point.
-/

namespace AssetAccess.Curve

/-- A signature. -/
structure Signature where
  r : Nat
  s : Nat
  isScalar_r : isScalar r = true
  isScalar_s : isScalar s = true
deriving DecidableEq

namespace Signature

/-- The signature with these parts, if both are scalars. -/
def of? (r s : Nat) : Option Signature :=
  if h : isScalar r = true ∧ isScalar s = true then some ⟨r, s, h.1, h.2⟩ else none

/-- A digest as a number. -/
def digestNumber (digest : List UInt8) : Nat := Digest.ByteOrder.big.value digest

/-- The signature of a digest under a private scalar. -/
def sign? (scalar : Nat) (digest : List UInt8) : Option Signature := do
  let z := digestNumber digest
  let k ← SecretNumber.derive? scalar z
  let r := (Point.mul k Point.base).abscissa % order
  of? r (Modular.inverse order k * (z + r * scalar) % order)

/-- Whether a signature of a digest belongs to a public point. -/
def verify (point : Point) (digest : List UInt8) (g : Signature) : Bool :=
  let w := Modular.inverse order g.s
  let z := digestNumber digest
  let sum := Point.add (Point.mul (z * w % order) Point.base) (Point.mul (g.r * w % order) point)
  sum.abscissa % order == g.r

end Signature

end AssetAccess.Curve
