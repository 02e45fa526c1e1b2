import AssetAccess.Curve.Octets
import AssetAccess.Digest.Hmac
/-!
# The secret number of a signature

Signing needs a number below the order of the curve that nobody can guess and that never serves two
messages.  It is derived from the private scalar and the digest of the message by a chain of keyed
digests, so that the same message always gets the same number.
-/

namespace AssetAccess.Curve.SecretNumber

open Digest

/-- The chain: a key and a value. -/
structure Chain where
  key : List UInt8
  value : List UInt8

namespace Chain

/-- Mixes the value, a mark and some data into the chain. -/
def mix (c : Chain) (mark : UInt8) (data : List UInt8) : Chain :=
  let key := Hmac.tag c.key (c.value ++ mark :: data)
  ⟨key, Hmac.tag key c.value⟩

/-- The chain for some data. -/
def start (data : List UInt8) : Chain :=
  let c : Chain := ⟨List.replicate 32 0, List.replicate 32 1⟩
  (c.mix 0 data).mix 1 data

/-- The first candidate of the chain that is a scalar, out of at most `tries`. -/
def find? : Nat → Chain → Option Nat
  | 0, _ => none
  | tries + 1, c =>
    let value := Hmac.tag c.key c.value
    let candidate := ByteOrder.big.value value
    if isScalar candidate then some candidate
    else find? tries ((Chain.mk c.key value).mix 0 [])

end Chain

/-- The number for a private scalar and a digest that is read as a number.  The digest enters the
chain as it is, also where it is not below the order.  A candidate is no scalar with a chance of one
in 2^32, so a hundred of them are enough. -/
def derive? (scalar digest : Nat) : Option Nat :=
  (Chain.start (octets scalar ++ octets digest)).find? 100

end AssetAccess.Curve.SecretNumber
