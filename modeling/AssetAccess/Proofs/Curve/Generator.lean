import AssetAccess.Proofs.Curve.Group
import AssetAccess.Proofs.Curve.Octets
import Mathlib.GroupTheory.OrderOfElement
/-!
# The generator and the public points

The generator has the order `order` (`addOrderOf_generator`): that multiple of it is computed to be
the zero, it is not the zero itself, and `order` is prime.  So its multiples are told apart by their
numbers modulo `order` (`nsmul_generator_eq_iff`), and the public point of a private scalar is a
point of the curve (`exists_publicPoint_eq`).
-/

namespace AssetAccess.Curve

instance : Fact order.Prime := ⟨prime_order⟩

theorem two_lt_order : 2 < order := by decide

theorem order_pos : 0 < order := by decide

theorem exists_ofGroup_eq_base : ∃ G, Point.ofGroup G = Point.base :=
  isOnCurve_iff.mp (by decide +kernel)

/-- The generator in the group. -/
noncomputable def generator : weierstrass.Point := exists_ofGroup_eq_base.choose

theorem ofGroup_generator : Point.ofGroup generator = Point.base :=
  exists_ofGroup_eq_base.choose_spec

theorem mul_base (k : Nat) : Point.mul k Point.base = Point.ofGroup (k • generator) := by
  rw [← ofGroup_generator, Point.mul_ofGroup]

theorem mul_order_base : Point.mul order Point.base = .infinity := by decide +kernel

theorem addOrderOf_generator : addOrderOf generator = order := by
  refine addOrderOf_eq_prime (Point.ofGroup_injective ?_) fun h => ?_
  · rw [← mul_base, mul_order_base, Point.ofGroup_zero]
  · have hbase := ofGroup_generator
    rw [h, Point.ofGroup_zero] at hbase
    exact absurd hbase (by simp [Point.base])

/-- Multiples of the generator are equal for numbers that are equal modulo the order. -/
theorem nsmul_generator_eq_iff {a b : Nat} :
    a • generator = b • generator ↔ (a : ZMod order) = b := by
  rw [nsmul_eq_nsmul_iff_modEq, addOrderOf_generator, ZMod.natCast_eq_natCast_iff]

/-! ### Scalars and their points -/

theorem natCast_ne_zero_of_isScalar {d : Nat} (h : isScalar d = true) : (d : ZMod order) ≠ 0 := by
  obtain ⟨hpos, hlt⟩ := isScalar_iff.mp h
  intro hzero
  have hd : d = 0 := Modular.eq_of_natCast_eq hlt order_pos (by rw [hzero, Nat.cast_zero])
  omega

/-- Different scalars have different public points. -/
theorem publicPoint_inj {a b : Nat} (ha : isScalar a = true) (hb : isScalar b = true)
    (h : publicPoint a = publicPoint b) : a = b := by
  rw [publicPoint, publicPoint, mul_base, mul_base] at h
  have hcast := nsmul_generator_eq_iff.mp (Point.ofGroup_injective h)
  exact Modular.eq_of_natCast_eq (isScalar_iff.mp ha).2 (isScalar_iff.mp hb).2 hcast

/-- The public point of a private scalar is a point of the curve. -/
theorem exists_publicPoint_eq {d : Nat} (h : isScalar d = true) :
    ∃ x y, publicPoint d = .affine x y ∧ isOnCurve x y = true := by
  have hne : d • generator ≠ 0 := by
    rw [← zero_nsmul generator, ne_eq, nsmul_generator_eq_iff, Nat.cast_zero]
    exact natCast_ne_zero_of_isScalar h
  rw [publicPoint, mul_base]
  match hP : d • generator with
  | .zero => exact absurd hP hne
  | .some x y hxy => exact ⟨x.val, y.val, rfl, isOnCurve_iff.mpr ⟨.some x y hxy, rfl⟩⟩

end AssetAccess.Curve
