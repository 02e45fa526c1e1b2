import AssetAccess.Curve.Signature
/-!
# The binary form of signatures

A signature is written as a sequence of two integers: a tag, the number of bytes that follow, and
the bytes, most significant first.  An integer has no needless zero byte in front, and one zero byte
if its first bit would otherwise be set.  Only this form is read.
-/

namespace AssetAccess.Curve.Der

/-- The bytes of a number, most significant first and without zeros in front; none for 0. -/
def magnitude (n : Nat) : List UInt8 :=
  if n = 0 then [] else magnitude (n / 256) ++ [UInt8.ofNat n]
termination_by n
decreasing_by omega

/-- The content of an integer that is not negative. -/
def content (n : Nat) : List UInt8 :=
  match magnitude n with
  | [] => [0]
  | b :: l => if b < 0x80 then b :: l else 0 :: b :: l

/-- A tag, a length below 128, and the bytes. -/
def field (tag : UInt8) (l : List UInt8) : List UInt8 := tag :: UInt8.ofNat l.length :: l

/-- The binary form of a pair of numbers. -/
def encodePair (r s : Nat) : List UInt8 :=
  field 0x30 (field 0x02 (content r) ++ field 0x02 (content s))

/-- Splits off a field with this tag: its bytes and what follows them. -/
def splitField? (tag : UInt8) : List UInt8 → Option (List UInt8 × List UInt8)
  | t :: n :: l =>
    if t = tag ∧ n < 0x80 ∧ n.toNat ≤ l.length then some (l.take n.toNat, l.drop n.toNat) else none
  | _ => none

/-- The number whose content these bytes are. -/
def ofContent? (l : List UInt8) : Option Nat :=
  let n := Digest.ByteOrder.big.value l
  if content n = l then some n else none

/-- The pair of numbers whose binary form these bytes are. -/
def decodePair? (l : List UInt8) : Option (Nat × Nat) := do
  let (body, after) ← splitField? 0x30 l
  let (r, body) ← splitField? 0x02 body
  let (s, rest) ← splitField? 0x02 body
  if after.isEmpty && rest.isEmpty then return (← ofContent? r, ← ofContent? s) else none

/-- The binary form of a signature. -/
def encode (g : Signature) : List UInt8 := encodePair g.r g.s

/-- The signature whose binary form these bytes are. -/
def decode? (l : List UInt8) : Option Signature := do
  let (r, s) ← decodePair? l
  Signature.of? r s

end AssetAccess.Curve.Der
