import AssetAccess.Account.Ownership
import AssetAccess.Identifier.Draws
import AssetAccess.Proofs.Account.KeyText
import AssetAccess.Proofs.Curve.Der
import AssetAccess.Proofs.Curve.Signature
import AssetAccess.Proofs.Digest.Hmac
import AssetAccess.Proofs.Identifier.Generator
/-!
# Account signatures verify

Whatever a private key signs is accepted under its public key, and under the private key itself
(`signatures_verify`).  The signer reads back the scalar that the text of the key was written for,
the verifier reads back its public point, and both digest the message in the same way; the signature
is read back from its hexadecimal text and its binary form.

A signed nonce is a message like any other, the decimal text of a number that is not negative.
-/

namespace AssetAccess.Account

open Curve Identifier

/-! ### Signing -/

/-- What a private key signs is the signature of its scalar, as text. -/
theorem signMessage_privateKeyText {d : Nat} (hd : isScalar d = true) {message : List UInt8}
    {g : Signature} (h : Signature.sign? d (Sha256.digest message) = some g) :
    signMessage (privateKeyText d) message = .ok (Hex.encode (Der.encode g)) := by
  rw [signMessage]
  exact bind_eq_ok_iff.mpr ⟨d, parsePrivateKey_privateKeyText hd, by rw [h]⟩

/-- A nonce is returned with the signature of its decimal text. -/
theorem run_signNonce {σ : Type} [RandomSource σ] {key signature : String} {g : Generator σ}
    (h : signMessage key (Text.utf8 (Decimal.ofInt (Generator.nonce.run g).1.toInt)) =
      .ok signature) :
    ((signNonce key).run g).1 = .ok ((Generator.nonce.run g).1, signature) := by
  have hrun : ((signNonce key).run g).1 =
      (signMessage key (Text.utf8 (Decimal.ofInt (Generator.nonce.run g).1.toInt)) >>=
        fun signature => .ok ((Generator.nonce.run g).1, signature)) := rfl
  rw [hrun, h]
  rfl

/-! ### Verifying -/

theorem parseSignature_encode (g : Signature) :
    parseSignature (Hex.encode (Der.encode g)) = .ok g := by
  rw [parseSignature, Hex.decode?_encode]
  dsimp only
  rw [Der.decode?_encode]

/-- A key text and the text of a signature are verified as the point and the signature. -/
theorem verifyMessage_encode {key : String} {q : Point} (hq : parsePublicKey key = .ok q)
    (g : Signature) (message : List UInt8) :
    verifyMessage key (Hex.encode (Der.encode g)) message =
      .ok (g.verify q (Sha256.digest message)) := by
  rw [verifyMessage, hq, parseSignature_encode]
  rfl

/-- A text is a signature of a message that both keys of an account accept. -/
structure KeyPair.Accepts (k : KeyPair) (message : List UInt8) (signature : String) : Prop where
  isSmallHexDigit : ∀ c ∈ signature.toList, Hmac.isSmallHexDigit c = true
  byPublicKey : verifyMessage k.publicKey signature message = .ok true
  byPrivateKey : verifyMessage k.privateKey signature message = .ok true

/-- What the scalar of an account signs is accepted by the keys of the account. -/
theorem accepts_of_sign {d : Nat} (hd : isScalar d = true) {message : List UInt8} {g : Signature}
    (h : Signature.sign? d (Sha256.digest message) = some g) :
    (KeyPair.ofScalar d).Accepts message (Hex.encode (Der.encode g)) := by
  obtain ⟨x, y, hq, hcurve⟩ := exists_publicPoint_eq hd
  have hverify := Signature.verify_of_sign h
  have hpublic := verifyMessage_encode (parsePublicKey_publicKeyText hq hcurve) g message
  have hprivate := verifyMessage_encode (parsePublicKey_privateKeyText hd) g message
  rw [hverify] at hpublic hprivate
  exact ⟨fun c => Hmac.isSmallHexDigit_of_mem_encode, hpublic, hprivate⟩

/-- **Account signatures verify.**  Where the curve signature of the digest exists, a private key
signs a message, and what it returns is accepted; and a signed nonce is returned with a signature of
its decimal text, whatever is drawn and whatever the clock shows. -/
theorem signatures_verify {d : Nat} (hd : isScalar d = true) :
    (∀ message, (Signature.sign? d (Sha256.digest message)).isSome = true →
      ∃ signature, signMessage (KeyPair.ofScalar d).privateKey message = .ok signature ∧
        (KeyPair.ofScalar d).Accepts message signature) ∧
    ∀ (σ : Type) [RandomSource σ] (g : Generator σ),
      (Signature.sign? d (Sha256.digest
        (Text.utf8 (Decimal.ofInt (Generator.nonce.run g).1.toInt)))).isSome = true →
      ∃ n signature, ((signNonce (KeyPair.ofScalar d).privateKey).run g).1 = .ok (n, signature) ∧
        0 ≤ n.toInt ∧ n.toInt < 9223372036854775808 ∧
        (KeyPair.ofScalar d).Accepts (Text.utf8 (Decimal.ofInt n.toInt)) signature := by
  constructor
  · intro message h
    obtain ⟨s, hs⟩ := Option.isSome_iff_exists.mp h
    exact ⟨_, signMessage_privateKeyText hd hs, accepts_of_sign hd hs⟩
  · intro σ _ g h
    obtain ⟨s, hs⟩ := Option.isSome_iff_exists.mp h
    obtain ⟨hlow, hhigh⟩ := Generator.nonce_range g
    exact ⟨_, _, run_signNonce (signMessage_privateKeyText hd hs), hlow, hhigh,
      accepts_of_sign hd hs⟩

/-- The account of the scalar 1 signs a nonce, and signs the text of the nonce as a message. -/
theorem signatures_verify_scalar_one :
    let g : Generator Draws :=
      ⟨{ words := [0x0123456789ABCDEF, 0xFEDCBA9876543210] }, .fixed (.atSecond 1700000000), "node"⟩
    let nonce := (Generator.nonce.run g).1
    let message := Text.utf8 (Decimal.ofInt nonce.toInt)
    nonce = 2143691208143145633 ∧
    (∃ signature, signMessage (KeyPair.ofScalar 1).privateKey message = .ok signature ∧
      (KeyPair.ofScalar 1).Accepts message signature) ∧
    ∃ n signature, ((signNonce (KeyPair.ofScalar 1).privateKey).run g).1 = .ok (n, signature) ∧
      0 ≤ n.toInt ∧ n.toInt < 9223372036854775808 ∧
      (KeyPair.ofScalar 1).Accepts (Text.utf8 (Decimal.ofInt n.toInt)) signature := by
  intro g nonce message
  have hnonce : nonce = 2143691208143145633 := by decide +kernel
  have htext : Decimal.ofInt (2143691208143145633 : Int64).toInt = "2143691208143145633" := by
    decide +kernel
  have hsigned : (Signature.sign? 1 (Sha256.digest (Text.utf8 "2143691208143145633"))).isSome =
      true := by decide +kernel
  have hmessage : (Signature.sign? 1 (Sha256.digest message)).isSome = true := by
    rw [show message = Text.utf8 (Decimal.ofInt nonce.toInt) from rfl, hnonce, htext]
    exact hsigned
  obtain ⟨hmessages, hnonces⟩ := signatures_verify (show isScalar 1 = true by decide)
  exact ⟨hnonce, hmessages message hmessage, hnonces Draws g hmessage⟩

end AssetAccess.Account
