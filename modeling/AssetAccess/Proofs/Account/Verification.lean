import AssetAccess.Proofs.Account.Signing
import AssetAccess.Proofs.Text.Hex
/-!
# Malformed and wrong

A text that is a signature is the hexadecimal form of its bytes, with letters of either case
(`SpellsSignature`).  Verifying reads the key first and the signature after it, and each of them
fails in its own way, so an error says which of the two is malformed; two well-formed texts always
get a verdict (`verifyMessage_exact`).

The verdict is that of the point, the pair of numbers and the digest.  Whatever is read as the same
three things gets the same verdict, be it the text of the private key or a signature in capitals.
-/

namespace AssetAccess.Account

open Curve

/-! ### Signatures -/

/-- A text is a signature as hexadecimal digits, with letters of either case. -/
def SpellsSignature (text : String) (g : Signature) : Prop :=
  ∃ l, Text.lower text = Hex.encode l ∧ Der.IsPair g.r g.s l

theorem parseSignature_eq_ok_iff {text : String} {g : Signature} :
    parseSignature text = .ok g ↔ SpellsSignature text g := by
  simp only [SpellsSignature, ← Hex.decode?_eq_some_iff, ← Der.decode?_eq_some_iff]
  unfold parseSignature
  split
  · rename_i hnone
    simp [hnone]
  · rename_i l hsome
    rw [hsome]
    split
    · rename_i hnone
      simp [hnone]
    · rename_i g' hg
      simp [hg]

/-- A signature is read, or it is refused as malformed. -/
theorem parseSignature_refused_iff {text : String} :
    (∀ g, parseSignature text ≠ .ok g) ↔
      ∃ fault, parseSignature text = .error (.invalidSignature fault) := by
  unfold parseSignature
  split
  · simp
  · split
    · simp
    · simp

/-- The case of a letter does not count, for a refusal neither. -/
theorem parseSignature_congr {text text' : String} (h : Text.lower text' = Text.lower text) :
    parseSignature text' = parseSignature text := by
  have hdecode : Hex.decode? text' = Hex.decode? text := by
    ext l
    rw [Hex.decode?_eq_some_iff, Hex.decode?_eq_some_iff, h]
  rw [parseSignature, hdecode, parseSignature]

/-! ### Keys -/

/-- A text is a public key of the point, or a private key whose public point it is. -/
inductive DenotesPoint (key : String) : Point → Prop where
  | publicKey {q : Point} (h : parsePublicKey key = .ok q) : DenotesPoint key q
  | privateKey {d : Nat} (h : parsePrivateKey key = .ok d) : DenotesPoint key (publicPoint d)

theorem DenotesPoint.parsePublicKey_eq {key : String} {q : Point} (h : DenotesPoint key q) :
    parsePublicKey key = .ok q := by
  cases h with
  | publicKey h => exact h
  | privateKey h => exact (isScalar_of_parsePrivateKey h).2

/-! ### Verdicts -/

theorem verifyMessage_eq_ok_iff {key signature : String} {message : List UInt8} {b : Bool} :
    verifyMessage key signature message = .ok b ↔ ∃ q g, parsePublicKey key = .ok q ∧
      SpellsSignature signature g ∧ g.verify q (Sha256.digest message) = b := by
  simp only [verifyMessage, bind_eq_ok_iff, parseSignature_eq_ok_iff, Except.ok.injEq]
  constructor
  · rintro ⟨q, hq, g, hg, hb⟩
    exact ⟨q, g, hq, hg, hb⟩
  · rintro ⟨q, g, hq, hg, hb⟩
    exact ⟨q, hq, g, hg, hb⟩

/-- The key is looked at first. -/
theorem verifyMessage_eq_error_iff {key signature : String} {message : List UInt8} {e : Error} :
    verifyMessage key signature message = .error e ↔ parsePublicKey key = .error e ∨
      (∃ q, parsePublicKey key = .ok q) ∧ parseSignature signature = .error e := by
  simp only [verifyMessage, bind_eq_error_iff, reduceCtorEq, and_false, exists_false, or_false,
    exists_and_right]

theorem verifyMessage_invalidKey_iff {key signature : String} {message : List UInt8} :
    (∃ fault, verifyMessage key signature message = .error (.invalidKey fault)) ↔
      ∀ q, parsePublicKey key ≠ .ok q := by
  simp only [verifyMessage_eq_error_iff]
  constructor
  · rintro ⟨fault, h | ⟨-, h⟩⟩ q hq
    · cases h.symm.trans hq
    · obtain ⟨fault', h'⟩ := parseSignature_refused_iff.mp fun g hg => by cases h.symm.trans hg
      cases h.symm.trans h'
  · intro h
    obtain ⟨fault, h⟩ := keyResult_refused_iff.mp h
    exact ⟨fault, Or.inl h⟩

theorem verifyMessage_invalidSignature_iff {key signature : String} {message : List UInt8} :
    (∃ fault, verifyMessage key signature message = .error (.invalidSignature fault)) ↔
      (∃ q, parsePublicKey key = .ok q) ∧ ∀ g, ¬ SpellsSignature signature g := by
  simp only [verifyMessage_eq_error_iff, ← parseSignature_eq_ok_iff]
  constructor
  · rintro ⟨fault, h | ⟨hq, h⟩⟩
    · obtain ⟨fault', h'⟩ := keyResult_refused_iff.mp fun q hq => by cases h.symm.trans hq
      cases h.symm.trans h'
    · exact ⟨hq, fun g hg => by cases h.symm.trans hg⟩
  · rintro ⟨hq, h⟩
    obtain ⟨fault, h⟩ := parseSignature_refused_iff.mp h
    exact ⟨fault, Or.inr ⟨hq, h⟩⟩

/-- **Malformed and wrong are told apart.**  An unusable key is reported whatever the signature is;
a malformed signature is reported where the key is usable; all other texts get the verdict of the
point, the numbers and the digest.  Hence keys of one point, letters of either case and messages
with one digest make no difference. -/
theorem verifyMessage_exact (key signature : String) (message : List UInt8) :
    ((∃ fault, verifyMessage key signature message = .error (.invalidKey fault)) ↔
      ∀ q, parsePublicKey key ≠ .ok q) ∧
    ((∃ fault, verifyMessage key signature message = .error (.invalidSignature fault)) ↔
      (∃ q, parsePublicKey key = .ok q) ∧ ∀ g, ¬ SpellsSignature signature g) ∧
    (∀ b, verifyMessage key signature message = .ok b ↔ ∃ q g, parsePublicKey key = .ok q ∧
      SpellsSignature signature g ∧ g.verify q (Sha256.digest message) = b) ∧
    ∀ q key' signature' message', DenotesPoint key q → DenotesPoint key' q →
      Text.lower signature' = Text.lower signature →
      Sha256.digest message' = Sha256.digest message →
      verifyMessage key' signature' message' = verifyMessage key signature message := by
  refine ⟨verifyMessage_invalidKey_iff, verifyMessage_invalidSignature_iff,
    fun b => verifyMessage_eq_ok_iff, fun q key' signature' message' hq hq' hcase hdigest => ?_⟩
  rw [verifyMessage, verifyMessage, hq.parsePublicKey_eq, hq'.parsePublicKey_eq,
    parseSignature_congr hcase, hdigest]

/-- A private key and its public key, and a signature with letters of either case. -/
theorem verifyMessage_exact_capitals :
    let key := privateKeyText 1
    let key' := publicKeyText (publicPoint 1)
    let small := "300602010a02010b"
    let capital := "300602010A02010B"
    (∃ b, verifyMessage key small [] = .ok b) ∧
    verifyMessage key' capital [] = verifyMessage key small [] := by
  intro key key' small capital
  have hone : isScalar 1 = true := by decide
  obtain ⟨x, y, hq, hcurve⟩ := exists_publicPoint_eq hone
  have hkey : DenotesPoint key (publicPoint 1) := .privateKey (parsePrivateKey_privateKeyText hone)
  have hkey' : DenotesPoint key' (publicPoint 1) :=
    .publicKey (parsePublicKey_publicKeyText hq hcurve)
  have hsmall : parseSignature small = .ok ⟨10, 11, by decide, by decide⟩ := by decide +kernel
  have hcase : Text.lower capital = Text.lower small := by decide +kernel
  obtain ⟨-, -, hverdict, hsame⟩ := verifyMessage_exact key small []
  exact ⟨⟨_, (hverdict _).mpr ⟨_, _, hkey.parsePublicKey_eq, parseSignature_eq_ok_iff.mp hsmall,
    rfl⟩⟩, hsame _ key' capital [] hkey hkey' hcase rfl⟩

end AssetAccess.Account
