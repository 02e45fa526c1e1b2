/-!
# Arithmetic modulo a prime

Numbers below a modulus, with powers by repeated squaring.  Modulo a prime `m` the inverse of a
number is its power to `m - 2`; that of 0 comes out as 0.
-/

namespace AssetAccess.Modular

/-- The remainder of `b` to the power `e`. -/
def pow (m b e : Nat) : Nat :=
  if e = 0 then 1 % m
  else
    let half := pow m (b * b % m) (e / 2)
    if e % 2 = 0 then half else half * b % m
termination_by e
decreasing_by omega

/-- The inverse of `b` modulo a prime `m`. -/
def inverse (m b : Nat) : Nat := pow m b (m - 2)

/-- The difference of two numbers below `m`. -/
def sub (m a b : Nat) : Nat := (a + (m - b % m)) % m

end AssetAccess.Modular
