import AssetAccess.Text.Decimal
import AssetAccess.Text.Hex
/-!
# Addresses of 32 bits

A host whose last part is a number is such an address.  It has up to four parts between full stops:
each but the last is one byte, and the last one fills the bytes that are left.  A part is decimal,
hexadecimal behind `0x`, or octal behind `0`.
-/

namespace AssetAccess.Url

/-- An address of 32 bits. -/
structure Ipv4 where
  value : UInt32
deriving DecidableEq, Repr

namespace Ipv4

/-- The number that some digits denote in a base; no digits denote 0. -/
def digitsValue? (base : Nat) (l : List Char) : Option Nat :=
  l.foldlM (fun n c => do
    let d ← Hex.value? c
    if d < base then some (base * n + d) else none) 0

/-- The number that a part denotes. -/
def part? : List Char → Option Nat
  | [] => none
  | '0' :: x :: l =>
    if x = 'x' || x = 'X' then digitsValue? 16 l else digitsValue? 8 (x :: l)
  | l => digitsValue? 10 l

/-- The parts of a host; a full stop at its end is left out. -/
def parts (host : List Char) : List (List Char) :=
  match (host.splitOn '.').reverse with
  | [] :: l => l.reverse
  | l => l.reverse

/-- Whether the last part of a host is a number, or at least has digits only. -/
def endsInNumber (host : List Char) : Bool :=
  match (parts host).getLast? with
  | none => false
  | some part => (!part.isEmpty && part.all Decimal.isDigit) || (part? part).isSome

/-- The value of an address whose parts denote these numbers. -/
def valueOf? (numbers : List Nat) : Option Nat :=
  match numbers.reverse with
  | [] => none
  | last :: bytes =>
    if bytes.length ≤ 3 && bytes.all (· < 256) && last < 1 <<< (8 * (4 - bytes.length)) then
      some (bytes.reverse.zipIdx.foldl (fun n p => n + p.1 <<< (8 * (3 - p.2))) last)
    else none

/-- The address that a host denotes. -/
def parse? (host : List Char) : Option Ipv4 := do
  let value ← valueOf? (← (parts host).mapM part?)
  some ⟨UInt32.ofNat value⟩

/-- The four bytes of an address, most significant first. -/
def bytes (a : Ipv4) : List UInt8 :=
  [(a.value >>> 24).toUInt8, (a.value >>> 16).toUInt8, (a.value >>> 8).toUInt8, a.value.toUInt8]

/-- The written form of an address. -/
def text (a : Ipv4) : String := ".".intercalate (a.bytes.map fun b => Decimal.ofNat b.toNat)

end Ipv4

end AssetAccess.Url
