import AssetAccess.Curve.Modular
import Mathlib.FieldTheory.Finite.Basic
/-!
# Arithmetic modulo a prime, in the field

The numbers below a prime `m` are the elements of the field `ZMod m`, and the operations on them are
those of the field: repeated squaring gives powers (`natCast_pow`), the power to `m - 2` is the
inverse (`natCast_inverse`, by Fermat), and the difference below `m` is the difference
(`natCast_sub`).  A number below `m` is known by the element that it stands for
(`eq_of_natCast_eq`).
-/

namespace AssetAccess.Modular

variable {m : Nat}

theorem square_mod_pow (m b e : Nat) : (b * b % m) ^ e % m = b ^ (2 * e) % m := by
  rw [← Nat.pow_mod, ← Nat.pow_two, ← Nat.pow_mul]

/-- Repeated squaring gives the remainder of the power. -/
theorem pow_eq (m b e : Nat) : pow m b e = b ^ e % m := by
  fun_induction pow m b e with
  | case1 b => rw [Nat.pow_zero]
  | case2 b e he half heven ih =>
    -- an even power is the power of the square to half the exponent; an odd one has a factor more
    have hsplit : 2 * (e / 2) = e := by omega
    calc half = b ^ (2 * (e / 2)) % m := ih.trans (square_mod_pow m b _)
      _ = b ^ e % m := by rw [hsplit]
  | case3 b e he half hodd ih =>
    have hsplit : 2 * (e / 2) + 1 = e := by omega
    have hhalf : half = b ^ (2 * (e / 2)) % m := ih.trans (square_mod_pow m b _)
    calc half * b % m = b ^ (2 * (e / 2) + 1) % m := by rw [hhalf, Nat.mod_mul_mod, Nat.pow_succ]
      _ = b ^ e % m := by rw [hsplit]

theorem pow_lt (hm : 0 < m) (b e : Nat) : pow m b e < m := by
  rw [pow_eq]
  exact Nat.mod_lt _ hm

theorem sub_lt (hm : 0 < m) (a b : Nat) : sub m a b < m := Nat.mod_lt _ hm

/-! ### The field -/

theorem natCast_pow (m b e : Nat) : (pow m b e : ZMod m) = (b : ZMod m) ^ e := by
  rw [pow_eq, ZMod.natCast_mod, Nat.cast_pow]

theorem natCast_sub (hm : 0 < m) (a b : Nat) : (sub m a b : ZMod m) = (a : ZMod m) - b := by
  have hle : b % m ≤ m := (Nat.mod_lt b hm).le
  rw [sub, ZMod.natCast_mod, Nat.cast_add, Nat.cast_sub hle, ZMod.natCast_self, ZMod.natCast_mod,
    zero_sub, sub_eq_add_neg]

/-- The power to `m - 2` is the inverse, also of 0. -/
theorem natCast_inverse [hm : Fact m.Prime] (h : 2 < m) (b : Nat) :
    (inverse m b : ZMod m) = (b : ZMod m)⁻¹ := by
  rw [inverse, natCast_pow]
  by_cases hb : (b : ZMod m) = 0
  · have hexp : m - 2 ≠ 0 := by omega
    rw [hb, zero_pow hexp, inv_zero]
  · -- with one factor more it is the power of Fermat's theorem
    have hexp : m - 2 + 1 = m - 1 := by omega
    have hfermat : (b : ZMod m) ^ (m - 2) * b = 1 := by
      rw [← pow_succ, hexp, ZMod.pow_card_sub_one_eq_one hb]
    exact eq_inv_of_mul_eq_one_left hfermat

/-- Numbers below the modulus are equal if they stand for the same element. -/
theorem eq_of_natCast_eq {a b : Nat} (ha : a < m) (hb : b < m) (h : (a : ZMod m) = b) : a = b := by
  have hmod := (ZMod.natCast_eq_natCast_iff' a b m).mp h
  rwa [Nat.mod_eq_of_lt ha, Nat.mod_eq_of_lt hb] at hmod

/-- A number below the modulus is the value of the element that it stands for. -/
theorem eq_val_of_natCast_eq {a : Nat} {x : ZMod m} (ha : a < m) (h : (a : ZMod m) = x) :
    a = x.val := by
  rw [← h, ZMod.val_natCast_of_lt ha]

end AssetAccess.Modular
