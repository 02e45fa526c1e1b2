import AssetAccess.Account.KeyPair
import AssetAccess.Account.KeyText
import AssetAccess.Curve.Der
/-!
# Account signatures

The holder of an account proves a business action by signing its text.  The text is digested, the
digest is signed on the curve, and the signature travels as the hexadecimal text of its binary form.
-/

namespace AssetAccess.Account

open Curve

/-- The key pair of a private scalar. -/
def KeyPair.ofScalar (d : Nat) : KeyPair := ⟨privateKeyText d, publicKeyText (publicPoint d)⟩

/-- The signature of a message under a private key, as text. -/
def signMessage (privateKey : String) (message : List UInt8) : Except Error String := do
  let d ← parsePrivateKey privateKey
  match Signature.sign? d (Sha256.digest message) with
  | some g => .ok (Hex.encode (Der.encode g))
  | none => .error (.invalidKey .signingFailed)

/-- The signature that a text denotes. -/
def parseSignature (s : String) : Except Error Signature :=
  match Hex.decode? s with
  | none => .error (.invalidSignature .notHex)
  | some bytes => match Der.decode? bytes with
    | none => .error (.invalidSignature .notDer)
    | some g => .ok g

/-- Whether a text is a signature of a message that belongs to a public key.  A malformed key or
signature is an error, and one that merely does not fit is not. -/
def verifyMessage (publicKey signature : String) (message : List UInt8) : Except Error Bool := do
  let q ← parsePublicKey publicKey
  let g ← parseSignature signature
  .ok (g.verify q (Sha256.digest message))

end AssetAccess.Account
