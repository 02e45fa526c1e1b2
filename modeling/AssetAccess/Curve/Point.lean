import AssetAccess.Curve.Modular
/-!
# The curve P-256

The points of y² = x³ - 3x + b over a prime field of 256 bits.  They form a group of prime order
with the point at infinity as its zero; the generator `Point.base` makes all of it.
-/

namespace AssetAccess.Curve

/-- The name of the curve. -/
def name : String := "P-256"

/-- The number of elements of the field. -/
def prime : Nat := 0xffffffff00000001000000000000000000000000ffffffffffffffffffffffff
/-- The number of points of the curve. -/
def order : Nat := 0xffffffff00000000ffffffffffffffffbce6faada7179e84f3b9cac2fc632551
/-- The constant of the equation. -/
def constant : Nat := 0x5ac635d8aa3a93e7b3ebbd55769886bc651d06b0cc53b0f63bce3c3e27d2604b

/-- A point: the zero of the group, or a pair of coordinates. -/
inductive Point where
  | infinity
  | affine (x y : Nat)
deriving DecidableEq, Repr

/-- Whether two numbers are the reduced coordinates of a point of the curve. -/
def isOnCurve (x y : Nat) : Bool :=
  x < prime && y < prime && y * y % prime == (x * x * x + (prime - 3) * x + constant) % prime

namespace Point

/-- The generator. -/
def base : Point :=
  .affine 0x6b17d1f2e12c4247f8bce6e563a440f277037d812deb33a0f4a13945d898c296
    0x4fe342e2fe1a7f9b8ee7eb4a7c0f9e162bce33576b315ececbb6406837bf51f5

/-- Where the line with this slope through a point with the coordinates `x`, `y` and one with the
abscissa `x'` meets the curve a third time, reflected in the axis of `x`. -/
def chord (slope x y x' : Nat) : Point :=
  let z := Modular.sub prime (slope * slope) (x + x')
  .affine z (Modular.sub prime (slope * Modular.sub prime x z) y)

/-- The sum of two points: along the chord through them, or along the tangent if they are one. -/
def add : Point → Point → Point
  | .infinity, q => q
  | p, .infinity => p
  | .affine x y, .affine x' y' =>
    if x = x' then
      if (y + y') % prime = 0 then .infinity
      else
        chord ((3 * x * x + (prime - 3)) * Modular.inverse prime (2 * y % prime) % prime) x y x
    else
      chord (Modular.sub prime y' y * Modular.inverse prime (Modular.sub prime x' x) % prime) x y x'

/-- The sum of `k` copies of a point. -/
def mul (k : Nat) (p : Point) : Point :=
  if k = 0 then .infinity
  else
    let twice := mul (k / 2) (add p p)
    if k % 2 = 0 then twice else add p twice
termination_by k
decreasing_by omega

/-- The abscissa of a point, 0 at infinity. -/
def abscissa : Point → Nat
  | .infinity => 0
  | .affine x _ => x

end Point

/-- Whether a number is a private scalar: at least 1 and below the order. -/
def isScalar (d : Nat) : Bool := 1 ≤ d && d < order

/-- The public point of a private scalar. -/
def publicPoint (d : Nat) : Point := Point.mul d Point.base

end AssetAccess.Curve
