import AssetAccess.Account.Signing
import AssetAccess.Identifier.Generator
/-!
# New accounts and signed nonces

A new account gets a private scalar that is drawn at random.  Its holder proves to own it by signing
the decimal text of a nonce.
-/

namespace AssetAccess.Account

open Identifier

variable {σ : Type} [RandomSource σ]

/-- Draws `count` words and reads them as one number. -/
def drawNumber : Nat → Generation σ Nat
  | 0 => pure 0
  | count + 1 => do
    let word ← Generator.draw RandomSource.next64
    let rest ← drawNumber count
    return word.toNat + rest <<< 64

/-- A scalar made from a number.  A number of 320 bits makes all scalars equally likely, up to one
part in 2^64. -/
def scalarOf (n : Nat) : Nat := 1 + n % (Curve.order - 1)

/-- A new key pair. -/
def KeyPair.generate : Generation σ KeyPair := do
  let n ← drawNumber 5
  return .ofScalar (scalarOf n)

/-- A nonce and the signature of its decimal text under a private key.  The nonce is made first. -/
def signNonce (privateKey : String) : Generation σ (Except Error (Int64 × String)) := do
  let nonce ← Generator.nonce
  return do
    let signature ← signMessage privateKey (Text.utf8 (Decimal.ofInt nonce.toInt))
    return (nonce, signature)

end AssetAccess.Account
