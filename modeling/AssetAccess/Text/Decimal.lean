/-!
# Decimal integers

Integers are written in decimal without leading zeros, with a hyphen if they are negative.  They
are read from any non-empty run of ASCII digits, behind an optional plus sign or hyphen where a sign
is allowed.
-/

namespace AssetAccess.Decimal

/-- An ASCII digit. -/
def isDigit (c : Char) : Bool := '0' ≤ c && c ≤ '9'

/-- The number that a run of digits denotes. -/
def value (l : List Char) : Nat := l.foldl (fun n c => 10 * n + (c.toNat - 48)) 0

/-- The number that a text denotes, if it is a non-empty run of digits. -/
def nat? (l : List Char) : Option Nat :=
  if l.isEmpty || !l.all isDigit then none else some (value l)

/-- The integer that a text denotes: an optional sign, then a non-empty run of digits. -/
def int? : List Char → Option Int
  | '-' :: l => (nat? l).map fun n => -(n : Int)
  | '+' :: l => (nat? l).map fun n => (n : Int)
  | l => (nat? l).map fun n => (n : Int)

/-- The integer that a text denotes, if it fits 64 bits with a sign. -/
def int64? (l : List Char) : Option Int64 := do
  let n ← int? l
  if -9223372036854775808 ≤ n && n ≤ 9223372036854775807 then some (Int64.ofInt n) else none

/-- The digits of a number. -/
def ofNat (n : Nat) : String := String.ofList (Nat.toDigits 10 n)

/-- The written form of an integer. -/
def ofInt (n : Int) : String := if n < 0 then "-" ++ ofNat n.natAbs else ofNat n.natAbs

/-- The digits of a number, filled with zeros on the left to at least `width`. -/
def padded (width n : Nat) : String :=
  let digits := Nat.toDigits 10 n
  String.ofList (List.replicate (width - digits.length) '0' ++ digits)

end AssetAccess.Decimal
