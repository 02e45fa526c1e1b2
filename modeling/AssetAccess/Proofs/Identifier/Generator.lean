import AssetAccess.Identifier.Generator
/-!
# Nonces are not negative

A nonce is a word without its highest bit.  Such a word is the same number with a sign and without
(`toInt_toInt64`), so a nonce is at least 0 and below 2^63 (`nonce_range`), whatever was drawn and
whatever the clock showed.
-/

namespace AssetAccess.Identifier

theorem toNat_and_mask63_lt (w : UInt64) : (w &&& mask63).toNat < 9223372036854775808 := by
  have hmask : mask63.toNat = 9223372036854775807 := rfl
  have hle : w.toNat &&& mask63.toNat ≤ mask63.toNat := Nat.and_le_right
  rw [UInt64.toNat_and]
  omega

/-- A word without its highest bit is the same number with a sign. -/
theorem toInt_toInt64 {w : UInt64} (h : w.toNat < 9223372036854775808) :
    w.toInt64.toInt = w.toNat :=
  BitVec.toInt_eq_toNat_of_lt (by rw [UInt64.toBitVec_toInt64, UInt64.toNat_toBitVec]; omega)

variable {σ : Type} [RandomSource σ]

theorem Generator.nonce_range (g : Generator σ) :
    0 ≤ (nonce.run g).1.toInt ∧ (nonce.run g).1.toInt < 9223372036854775808 := by
  obtain ⟨w, hw⟩ : ∃ w, (nonce.run g).1 = (w &&& mask63).toInt64 := ⟨_, rfl⟩
  have hlt := toNat_and_mask63_lt w
  rw [hw, toInt_toInt64 hlt]
  omega

end AssetAccess.Identifier
