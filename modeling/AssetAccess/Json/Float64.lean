/-!
# Binary floats of 64 bits

A finite float is a sign and a magnitude.  A magnitude is a whole number of units of 2^-1074, the
least that a float can be apart from zero, so nothing has to be rounded but the results of
operations.  What is rounded keeps 53 binary digits, and below 2^53 units all that it has.
-/

namespace AssetAccess.Json

/-- At most 53 binary digits, and zeros behind them. -/
def IsPrecise (n : Nat) : Prop := ∃ m k, m < 9007199254740992 ∧ n = m <<< k

/-- The whole number nearest to `a / b`: of two that are as near, the even one. -/
def nearest (a b : Nat) : Nat :=
  if 2 * (a % b) < b ∨ 2 * (a % b) = b ∧ a / b % 2 = 0 then a / b else a / b + 1

/-- The number of binary digits of a whole number that are behind the first 53. -/
def excess (n : Nat) : Nat := n.log2 - 52

/-- The precise number nearest to `a / b`. -/
def rounded (a b : Nat) : Nat :=
  nearest a (b <<< excess (a / b)) <<< excess (a / b)

theorem nearest_le (a b : Nat) : nearest a b ≤ a / b + 1 := by
  unfold nearest
  split <;> omega

theorem div_shiftLeft_excess_lt (a b : Nat) : a / (b <<< excess (a / b)) < 9007199254740992 := by
  have hlog : a / b < 2 ^ ((a / b).log2 + 1) := Nat.lt_log2_self
  have hpow : 2 ^ ((a / b).log2 + 1) ≤ 9007199254740992 * 2 ^ excess (a / b) := by
    rw [show 9007199254740992 = 2 ^ 53 from rfl, ← Nat.pow_add]
    exact Nat.pow_le_pow_right (by decide) (by unfold excess; omega)
  rw [Nat.shiftLeft_eq, ← Nat.div_div_eq_div_mul, Nat.div_lt_iff_lt_mul (Nat.two_pow_pos _)]
  exact Nat.lt_of_lt_of_le hlog hpow

theorem isPrecise_rounded (a b : Nat) : IsPrecise (rounded a b) := by
  have hlt := div_shiftLeft_excess_lt a b
  have hle := nearest_le a (b <<< excess (a / b))
  by_cases h : nearest a (b <<< excess (a / b)) < 9007199254740992
  · exact ⟨_, excess (a / b), h, rfl⟩
  · -- all digits were ones, and one more is carried over
    have hcarry : nearest a (b <<< excess (a / b)) = 1 <<< 53 := by
      rw [show 1 <<< 53 = 9007199254740992 from rfl]
      omega
    exact ⟨1, 53 + excess (a / b), by decide, by rw [rounded, hcarry, ← Nat.shiftLeft_add]⟩

/-- A magnitude in units of 2^-1074. -/
@[ext]
structure Magnitude where
  units : Nat
  precise : IsPrecise units

namespace Magnitude

/-- The magnitude nearest to `a / b` units. -/
def round (a b : Nat) : Magnitude := ⟨rounded a b, isPrecise_rounded a b⟩

/-- The magnitude nearest to a number. -/
def ofNat (n : Nat) : Magnitude := round (n <<< 1074) 1

/-- The magnitude nearest to a product. -/
def mul (x y : Magnitude) : Magnitude := round (x.units * y.units) (1 <<< 1074)

/-- The magnitude nearest to a quotient. -/
def div (x y : Magnitude) : Magnitude := round (x.units <<< 1074) y.units

/-- The magnitude nearest to a power of ten. -/
def tenTo (exponent : Nat) : Magnitude := ofNat (Nat.pow 10 exponent)

/-- Divides by 10^308 so many times, or until nothing is left. -/
def shrink : Nat → Magnitude → Magnitude
  | 0, x => x
  | count + 1, x => if x.units = 0 then x else shrink count (x.div (tenTo 308))

/-- Multiplies by a power of ten, or divides by one.  No power beyond 10^308 is finite, so one that
is too large is divided by in steps, each of which is rounded. -/
def scale? (x : Magnitude) (exponent : Int) : Option Magnitude :=
  if exponent < 0 then
    let places := exponent.natAbs - 1
    some ((shrink (places / 308) x).div (tenTo (places % 308 + 1)))
  else if x.units = 0 then some x
  else if exponent ≤ 308 then some (x.mul (tenTo exponent.toNat))
  else none

end Magnitude

/-- A finite float.  The number of units in 2^1024 is out of its reach. -/
structure Float64 where
  negative : Bool
  magnitude : Magnitude
  finite : magnitude.units < 1 <<< 2098

/-- The float with this sign and magnitude, if it is finite. -/
def Float64.of? (negative : Bool) (magnitude : Magnitude) : Option Float64 :=
  if h : magnitude.units < 1 <<< 2098 then some ⟨negative, magnitude, h⟩ else none

end AssetAccess.Json
