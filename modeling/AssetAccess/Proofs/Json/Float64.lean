import AssetAccess.Json.Float64
import Mathlib.Data.Nat.Dist
/-!
# Rounding

Of the whole numbers `nearest a b` is nearest to `a / b` (`dist_nearest_le`), and of the precise
ones `rounded a b` is (`dist_rounded_le`).  So a precise number stays as it is
(`rounded_mul_self`), and scaling by 1 changes no magnitude (`Magnitude.scale?_zero`).

Distances to `a / b` are compared as distances to `a`, with everything multiplied by `b`.
-/

namespace AssetAccess.Json

section Rounding

variable {b : Nat}

/-- No whole number is nearer. -/
theorem dist_nearest_le (a : Nat) (hb : 0 < b) (k : Nat) :
    (nearest a b * b).dist a ≤ (k * b).dist a := by
  have hdiv : b * (a / b) + a % b = a := Nat.div_add_mod a b
  have hlt : a % b < b := Nat.mod_lt a hb
  rw [Nat.mul_comm] at hdiv
  -- `k` is on one side of `a / b` or on the other
  have hk : k * b ≤ a / b * b ∨ a / b * b + b ≤ k * b := by
    rcases Nat.lt_or_ge (a / b) k with h | h
    · exact Or.inr ((Nat.succ_mul _ _).symm.trans_le (Nat.mul_le_mul_right b h))
    · exact Or.inl (Nat.mul_le_mul_right b h)
  unfold nearest Nat.dist
  split
  · omega
  · rw [Nat.add_mul, Nat.one_mul]
    omega

/-- Where digits are cut off, `a / b` has 53 more. -/
theorem le_div_of_excess_pos {a : Nat} (h : 0 < excess (a / b)) :
    4503599627370496 <<< excess (a / b) ≤ a / b := by
  have hne : a / b ≠ 0 := by
    rintro hzero
    rw [hzero] at h
    exact absurd h (by decide)
  have hlog : (a / b).log2 = 52 + excess (a / b) := by
    unfold excess at h ⊢
    omega
  have hle := Nat.log2_self_le hne
  rwa [hlog, Nat.pow_add, ← Nat.shiftLeft_eq] at hle

/-- A precise number is a multiple of what is left when digits are cut off, or it is smaller than
all numbers that have so many. -/
theorem IsPrecise.eq_shiftLeft_or_lt {m : Nat} (h : IsPrecise m) (n : Nat) :
    (∃ k, m = k <<< n) ∨ m < 4503599627370496 <<< n := by
  obtain ⟨k, i, hk, rfl⟩ := h
  rcases Nat.lt_or_ge i n with hlt | hge
  · obtain ⟨j, rfl⟩ := Nat.exists_eq_add_of_lt hlt
    refine Or.inr ?_
    have hpow : 2 ≤ 2 ^ (j + 1) := Nat.le_self_pow (Nat.succ_ne_zero j) 2
    rw [Nat.shiftLeft_eq, Nat.shiftLeft_eq, Nat.add_assoc, Nat.pow_add, Nat.mul_comm (2 ^ i),
      ← Nat.mul_assoc]
    refine Nat.mul_lt_mul_of_pos_right (hk.trans_le ?_) (Nat.two_pow_pos i)
    exact Nat.mul_le_mul_left 4503599627370496 hpow
  · obtain ⟨j, rfl⟩ := Nat.exists_eq_add_of_le hge
    exact Or.inl ⟨k <<< j, by rw [← Nat.shiftLeft_add, Nat.add_comm]⟩

/-- **Rounding goes to the nearest**: no precise number is nearer. -/
theorem dist_rounded_le (a : Nat) (hb : 0 < b) {m : Nat} (hm : IsPrecise m) :
    (rounded a b * b).dist a ≤ (m * b).dist a := by
  have hmul (k : Nat) : k <<< excess (a / b) * b = k * (b <<< excess (a / b)) := by
    rw [Nat.shiftLeft_eq, Nat.shiftLeft_eq, Nat.mul_assoc, Nat.mul_comm b]
  have hpos : 0 < b <<< excess (a / b) := by
    rw [Nat.shiftLeft_eq]
    exact Nat.mul_pos hb (Nat.two_pow_pos _)
  have hle := dist_nearest_le a hpos
  rw [rounded, hmul]
  rcases hm.eq_shiftLeft_or_lt (excess (a / b)) with ⟨k, rfl⟩ | hlt
  · rw [hmul]
    exact hle k
  · rcases Nat.eq_zero_or_pos (excess (a / b)) with hzero | hexcess
    · have h := hle m
      rw [hzero, Nat.shiftLeft_zero] at h ⊢
      exact h
    · -- the least number of 53 digits lies between `m` and `a / b`
      have hbetween := Nat.mul_le_of_le_div b _ _ (le_div_of_excess_pos hexcess)
      have hsmaller := Nat.mul_le_mul_right b hlt.le
      refine (hle 4503599627370496).trans ?_
      rw [← hmul]
      unfold Nat.dist
      omega

/-- A precise number stays as it is. -/
theorem rounded_mul_self {n : Nat} (h : IsPrecise n) (hb : 0 < b) : rounded (n * b) b = n := by
  have hle := dist_rounded_le (n * b) hb h
  rw [Nat.dist_self, Nat.le_zero] at hle
  exact Nat.eq_of_mul_eq_mul_right hb (Nat.eq_of_dist_eq_zero hle)

end Rounding

namespace Magnitude

theorem units_tenTo_zero : (tenTo 0).units = 1 <<< 1074 := by decide +kernel

/-- Scaling by 1 changes nothing. -/
theorem scale?_zero (x : Magnitude) : x.scale? 0 = some x := by
  have hmul : x.mul (tenTo 0) = x := by
    refine Magnitude.ext ?_
    change rounded (x.units * (tenTo 0).units) (1 <<< 1074) = x.units
    rw [units_tenTo_zero]
    exact rounded_mul_self x.precise (by decide)
  by_cases hx : x.units = 0
  · simp [scale?, hx]
  · simp [scale?, hx, hmul]

end Magnitude

end AssetAccess.Json
