import AssetAccess.Curve.Signature
import AssetAccess.Proofs.Curve.Generator
/-!
# Signatures verify

A signature of a digest belongs to the public point of the scalar that made it (`verify_of_sign`).
With the secret number `k`, the abscissa `r` of its multiple of the generator and
`s = (z + r * d) / k`, the verifier adds `z / s` times the generator and `r / s` times the public
point, which is `(z + r * d) / s = k` times the generator again.
-/

namespace AssetAccess.Curve

open SecretNumber

/-- What a chain finds is a scalar. -/
theorem SecretNumber.Chain.isScalar_of_find? {tries k : Nat} {c : Chain}
    (h : c.find? tries = some k) : isScalar k = true := by
  induction tries generalizing c with
  | zero => exact absurd h (by simp [Chain.find?])
  | succ tries ih =>
    unfold Chain.find? at h
    dsimp only at h
    split at h
    · rename_i hscalar
      rwa [← Option.some.inj h]
    · exact ih h

namespace Signature

theorem of?_eq_some_iff {r s : Nat} {g : Signature} :
    of? r s = some g ↔ g.r = r ∧ g.s = s := by
  unfold of?
  constructor
  · intro h
    split at h
    · rw [← Option.some.inj h]
      exact ⟨rfl, rfl⟩
    · exact absurd h (by simp)
  · rintro ⟨rfl, rfl⟩
    rw [dif_pos ⟨g.isScalar_r, g.isScalar_s⟩]

/-- What signing computes, where it succeeds. -/
theorem sign?_eq_some_iff {d : Nat} {digest : List UInt8} {g : Signature} :
    sign? d digest = some g ↔ ∃ k, derive? d (digestNumber digest) = some k ∧
      g.r = (Point.mul k Point.base).abscissa % order ∧
      g.s = Modular.inverse order k * (digestNumber digest + g.r * d) % order := by
  simp only [sign?, Option.bind_eq_bind, Option.bind_eq_some_iff, of?_eq_some_iff]
  refine exists_congr fun k => and_congr_right fun _ => ?_
  constructor
  · rintro ⟨hr, hs⟩
    exact ⟨hr, by rw [hr, hs]⟩
  · rintro ⟨hr, hs⟩
    exact ⟨hr, by rw [hs, hr]⟩

/-- The numbers of a verifier add up to the secret number of the signer, whatever the digest `z`. -/
theorem secret_eq {k r s d z : Nat} (hk : (k : ZMod order) ≠ 0) (hs : (s : ZMod order) ≠ 0)
    (h : s = Modular.inverse order k * (z + r * d) % order) :
    ((z * Modular.inverse order s % order + r * Modular.inverse order s % order * d : Nat) :
      ZMod order) = k := by
  -- the equation that the signer solved for `s`
  have hsk : (s : ZMod order) * k = z + r * d := by
    rw [h, ZMod.natCast_mod]
    push_cast
    rw [Modular.natCast_inverse two_lt_order]
    field_simp
  push_cast
  rw [ZMod.natCast_mod, ZMod.natCast_mod]
  push_cast
  rw [Modular.natCast_inverse two_lt_order]
  field_simp
  linear_combination -hsk

/-- **Signatures verify**: what a private scalar signs belongs to its public point. -/
theorem verify_of_sign {d : Nat} {digest : List UInt8} {g : Signature}
    (h : sign? d digest = some g) : g.verify (publicPoint d) digest = true := by
  obtain ⟨k, hk, hr, hs⟩ := sign?_eq_some_iff.mp h
  have hk := natCast_ne_zero_of_isScalar (Chain.isScalar_of_find? hk)
  have hs' := natCast_ne_zero_of_isScalar g.isScalar_s
  rw [verify, publicPoint, mul_base, mul_base, Point.mul_ofGroup, Point.add_ofGroup, smul_smul,
    ← add_nsmul, nsmul_generator_eq_iff.mpr (secret_eq hk hs' hs), ← mul_base, ← hr]
  exact beq_self_eq_true g.r

end Signature

end AssetAccess.Curve
