import AssetAccess.Json.Float64
import AssetAccess.Text.Decimal
/-!
# Numbers in JSON

A number is a sequence of digits without leading zeros, behind an optional hyphen, with an optional
fraction and an optional exponent.  It denotes an integer only if it has neither of the two, and a
negative zero is no integer.

Any number denotes a float, unless that would be infinite.  The float is made quickly rather than
exactly: of the digits only so many count as fit 64 bits, and the powers of ten are floats
themselves.  So it can be one of the neighbours of the float that is nearest to the number, and near
the largest float it can be infinite where the nearest one is not, or the other way round.
-/

namespace AssetAccess.Json.NumberText

/-- Splits a text into its longest run of digits and the rest. -/
def digits (l : List Char) : List Char × List Char := l.span Decimal.isDigit

/-- Reads an optional part of a number behind a mark: the part with its mark, and the rest.  After
the mark there must be a digit. -/
def part? (isMark : Char → Bool) (signed : Bool) (l : List Char) :
    Option (List Char × List Char) :=
  match l with
  | [] => some ([], [])
  | c :: r =>
    if !isMark c then some ([], c :: r)
    else
      let (sign, r) := match signed, r with
        | true, '+' :: r => (['+'], r)
        | true, '-' :: r => (['-'], r)
        | _, r => ([], r)
      let (run, rest) := digits r
      if run.isEmpty then none else some (c :: sign ++ run, rest)

/-- Splits a text that starts with a number into the number and the rest. -/
def scan (l : List Char) : Option (List Char × List Char) := do
  let (sign, l) := match l with
    | '-' :: r => (['-'], r)
    | r => ([], r)
  let (whole, l) ← match l with
    | '0' :: r => some (['0'], r)
    | r => let (run, rest) := digits r; if run.isEmpty then none else some (run, rest)
  let (fraction, l) ← part? (· == '.') false l
  let (exponent, l) ← part? (fun c => c == 'e' || c == 'E') true l
  return (sign ++ whole ++ fraction ++ exponent, l)

/-- The integer that a number denotes, if it is written as one. -/
def int? (number : List Char) : Option Int :=
  if number = ['-', '0'] then none else Decimal.int? number

/-- The integer that a number denotes, if it fits 64 bits with a sign. -/
def int64? (number : List Char) : Option Int64 :=
  if number = ['-', '0'] then none else Decimal.int64? number

/-- Goes on with a number by digits for as long as it fits 64 bits without a sign: the number, and
the digits that are left over. -/
def extend (n : Nat) : List Char → Nat × List Char
  | [] => (n, [])
  | c :: l =>
    if 10 * n + (c.toNat - 48) ≤ 18446744073709551615 then extend (10 * n + (c.toNat - 48)) l
    else (n, c :: l)

/-- A number in parts: its sign, the digits that count, the power of ten that their place gives
them, and the exponent that is written. -/
structure Scientific where
  negative : Bool
  digits : Nat
  place : Int
  exponent : Int
deriving DecidableEq, Repr

/-- Whether a number is negative, and the rest of it. -/
def unsigned (number : List Char) : Bool × List Char :=
  match number with
  | '-' :: r => (true, r)
  | r => (false, r)

/-- The parts of a number.  Of the digits before the point those that are left over are worth a
place each.  Behind the point it is tried once more to go on, and what is left over then is worth
nothing. -/
def scientific (number : List Char) : Scientific :=
  let (negative, l) := unsigned number
  let (whole, l) := digits l
  let (fraction, l) := match l with
    | '.' :: r => digits r
    | r => ([], r)
  let (n, leftOver) := extend 0 whole
  let (n, ignored) := extend n fraction
  ⟨negative, n, leftOver.length - (fraction.length - ignored.length : Nat),
    (Decimal.int? (l.drop 1)).getD 0⟩

/-- The magnitude of a number.  An exponent beyond 32 bits is as good as infinite. -/
def Scientific.magnitude? (s : Scientific) : Option Magnitude :=
  if s.exponent.natAbs ≤ 2147483647 then (Magnitude.ofNat s.digits).scale? (s.place + s.exponent)
  else if s.digits = 0 ∨ s.exponent < 0 then some (.ofNat 0)
  else none

/-- The float that a number denotes, if it is finite. -/
def float? (number : List Char) : Option Float64 := do
  let s := scientific number
  Float64.of? s.negative (← s.magnitude?)

end AssetAccess.Json.NumberText
