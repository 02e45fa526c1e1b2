import AssetAccess.Proofs.Curve.Prime
import Mathlib.AlgebraicGeometry.EllipticCurve.Affine.Point
/-!
# The points form a group

The points of the curve over the field `ZMod prime` form a group, `weierstrass.Point`, and
`Point.ofGroup` writes its elements as pairs of numbers.  The sum of points is the sum of the group
(`Point.add_ofGroup`): there are the same three cases, and the slopes of chord and tangent are those
of the field.  So multiples are multiples (`Point.mul_ofGroup`).
-/

namespace AssetAccess.Curve

instance : Fact prime.Prime := ⟨prime_prime⟩

theorem two_lt_prime : 2 < prime := by decide

theorem prime_pos : 0 < prime := by decide

theorem natCast_prime_sub_three : ((prime - 3 : Nat) : ZMod prime) = -3 := by
  have three_le : 3 ≤ prime := by decide
  rw [Nat.cast_sub three_le, ZMod.natCast_self, Nat.cast_ofNat, zero_sub]

/-- The curve over its field. -/
def weierstrass : WeierstrassCurve.Affine (ZMod prime) := ⟨0, 0, 0, -3, constant⟩

@[simp]
theorem weierstrass_a₁ : weierstrass.a₁ = 0 := rfl

@[simp]
theorem weierstrass_a₂ : weierstrass.a₂ = 0 := rfl

@[simp]
theorem weierstrass_a₃ : weierstrass.a₃ = 0 := rfl

@[simp]
theorem weierstrass_a₄ : weierstrass.a₄ = -3 := rfl

@[simp]
theorem weierstrass_a₆ : weierstrass.a₆ = constant := rfl

theorem discriminant_ne_zero : weierstrass.Δ ≠ 0 := by
  -- it is a whole number that the prime does not divide
  have hΔ : weierstrass.Δ = ((1728 - 432 * (constant * constant : Int) : Int) : ZMod prime) := by
    simp only [WeierstrassCurve.Δ, WeierstrassCurve.b₂, WeierstrassCurve.b₄, WeierstrassCurve.b₆,
      WeierstrassCurve.b₈, weierstrass_a₁, weierstrass_a₂, weierstrass_a₃, weierstrass_a₄,
      weierstrass_a₆]
    push_cast
    ring
  rw [hΔ, ne_eq, ZMod.intCast_zmod_eq_zero_iff_dvd]
  decide

theorem equation_iff {x y : ZMod prime} :
    weierstrass.Equation x y ↔ y * y = x * x * x - 3 * x + constant := by
  rw [WeierstrassCurve.Affine.equation_iff]
  simp only [weierstrass_a₁, weierstrass_a₂, weierstrass_a₃, weierstrass_a₄, weierstrass_a₆]
  constructor
  · intro h
    linear_combination h
  · intro h
    linear_combination h

theorem nonsingular_iff {x y : ZMod prime} :
    weierstrass.Nonsingular x y ↔ weierstrass.Equation x y :=
  (weierstrass.equation_iff_nonsingular_of_Δ_ne_zero discriminant_ne_zero).symm

namespace Point

/-- An element of the group as a pair of numbers. -/
def ofGroup : weierstrass.Point → Point
  | .zero => .infinity
  | .some x y _ => .affine x.val y.val

@[simp]
theorem ofGroup_zero : ofGroup 0 = .infinity := rfl

@[simp]
theorem ofGroup_some {x y : ZMod prime} (h : weierstrass.Nonsingular x y) :
    ofGroup (.some x y h) = .affine x.val y.val := rfl

theorem ofGroup_injective : Function.Injective ofGroup := by
  intro P Q h
  match P, Q with
  | .zero, .zero => rfl
  | .zero, .some .. => exact absurd h (by simp [ofGroup])
  | .some .., .zero => exact absurd h (by simp [ofGroup])
  | .some x y _, .some x' y' _ =>
    rw [ofGroup_some, ofGroup_some, affine.injEq] at h
    obtain rfl := ZMod.val_injective prime h.1
    obtain rfl := ZMod.val_injective prime h.2
    rfl

end Point

/-- Two numbers are reduced coordinates of a point if they are below the prime and solve the
equation over the field. -/
theorem isOnCurve_iff_equation {x y : Nat} :
    isOnCurve x y = true ↔ x < prime ∧ y < prime ∧ weierstrass.Equation x y := by
  have hequation : y * y % prime = (x * x * x + (prime - 3) * x + constant) % prime ↔
      weierstrass.Equation x y := by
    rw [← ZMod.natCast_eq_natCast_iff', equation_iff]
    push_cast [natCast_prime_sub_three]
    rw [neg_mul, ← sub_eq_add_neg]
  simp only [isOnCurve, Bool.and_eq_true, decide_eq_true_eq, beq_iff_eq, hequation, and_assoc]

/-- The reduced coordinates of the points of the curve are those of the elements of the group. -/
theorem isOnCurve_iff {x y : Nat} :
    isOnCurve x y = true ↔ ∃ P, Point.ofGroup P = .affine x y := by
  rw [isOnCurve_iff_equation]
  constructor
  · rintro ⟨hx, hy, h⟩
    refine ⟨.some x y (nonsingular_iff.mpr h), ?_⟩
    rw [Point.ofGroup_some, ZMod.val_natCast_of_lt hx, ZMod.val_natCast_of_lt hy]
  · rintro ⟨P, hP⟩
    match P with
    | .zero => exact absurd hP (by simp [Point.ofGroup])
    | .some X Y h =>
      obtain ⟨rfl, rfl⟩ := Point.affine.inj hP
      refine ⟨ZMod.val_lt X, ZMod.val_lt Y, ?_⟩
      rw [ZMod.natCast_zmod_val, ZMod.natCast_zmod_val]
      exact nonsingular_iff.mp h

/-! ### Sums -/

namespace Point

/-- A line meets the curve a third time where it does over the field. -/
theorem chord_eq {slope : Nat} {l : ZMod prime} (hslope : (slope : ZMod prime) = l)
    (x y x' : ZMod prime) : chord slope x.val y.val x'.val =
      .affine (weierstrass.addX x x' l).val (weierstrass.addY x x' y l).val := by
  -- both coordinates are below the prime, so they are compared in the field
  have hz : Modular.sub prime (slope * slope) (x.val + x'.val) = (weierstrass.addX x x' l).val := by
    refine Modular.eq_val_of_natCast_eq (Modular.sub_lt prime_pos _ _) ?_
    rw [Modular.natCast_sub prime_pos]
    push_cast
    rw [hslope, ZMod.natCast_zmod_val, ZMod.natCast_zmod_val, WeierstrassCurve.Affine.addX,
      weierstrass_a₁, weierstrass_a₂]
    ring
  unfold chord
  dsimp only
  rw [hz]
  refine congrArg _ (Modular.eq_val_of_natCast_eq (Modular.sub_lt prime_pos _ _) ?_)
  rw [Modular.natCast_sub prime_pos, Nat.cast_mul, Modular.natCast_sub prime_pos, hslope]
  simp only [ZMod.natCast_zmod_val, WeierstrassCurve.Affine.addY, WeierstrassCurve.Affine.negAddY,
    WeierstrassCurve.Affine.negY, weierstrass_a₁, weierstrass_a₃]
  ring

theorem negY_eq (x y : ZMod prime) : weierstrass.negY x y = -y := by
  rw [WeierstrassCurve.Affine.negY, weierstrass_a₁, weierstrass_a₃]
  ring

/-- The slope of the tangent at a point that is not its own opposite. -/
theorem natCast_tangent {x y : ZMod prime} (hy : y ≠ -y) :
    (((3 * x.val * x.val + (prime - 3)) * Modular.inverse prime (2 * y.val % prime) % prime : Nat) :
      ZMod prime) = weierstrass.slope x x y y := by
  rw [WeierstrassCurve.Affine.slope_of_Y_ne rfl (by rwa [negY_eq]), negY_eq, ZMod.natCast_mod,
    Nat.cast_mul, Modular.natCast_inverse two_lt_prime, ZMod.natCast_mod, div_eq_mul_inv]
  push_cast [natCast_prime_sub_three]
  rw [ZMod.natCast_zmod_val, ZMod.natCast_zmod_val, weierstrass_a₁, weierstrass_a₂, weierstrass_a₄,
    sub_neg_eq_add, ← two_mul]
  ring

/-- The slope of the chord through two points with different abscissas. -/
theorem natCast_slope {x y x' y' : ZMod prime} (hx : x ≠ x') :
    ((Modular.sub prime y'.val y.val * Modular.inverse prime (Modular.sub prime x'.val x.val)
      % prime : Nat) : ZMod prime) = weierstrass.slope x x' y y' := by
  rw [WeierstrassCurve.Affine.slope_of_X_ne hx, ZMod.natCast_mod, Nat.cast_mul,
    Modular.natCast_inverse two_lt_prime, Modular.natCast_sub prime_pos,
    Modular.natCast_sub prime_pos]
  simp only [ZMod.natCast_zmod_val]
  rw [← div_eq_mul_inv, ← neg_sub y, ← neg_sub x, neg_div_neg_eq]

/-- **The sum of points** is the sum of the group. -/
theorem add_ofGroup (P Q : weierstrass.Point) : add (ofGroup P) (ofGroup Q) = ofGroup (P + Q) := by
  match P, Q with
  | .zero, Q => exact congrArg ofGroup (zero_add Q).symm
  | .some x y h, .zero =>
    exact congrArg ofGroup (add_zero (WeierstrassCurve.Affine.Point.some x y h)).symm
  | .some x y h, .some x' y' h' =>
    rw [ofGroup_some, ofGroup_some, add]
    have hx : x.val = x'.val ↔ x = x' := (ZMod.val_injective prime).eq_iff
    have hy : (y.val + y'.val) % prime = 0 ↔ y = weierstrass.negY x' y' := by
      rw [negY_eq, ← Nat.dvd_iff_mod_eq_zero, ← ZMod.natCast_eq_zero_iff, Nat.cast_add,
        ZMod.natCast_zmod_val, ZMod.natCast_zmod_val, eq_neg_iff_add_eq_zero]
    by_cases hxx : x = x'
    · subst hxx
      rw [if_pos rfl]
      by_cases hyy : y = weierstrass.negY x y'
      · rw [if_pos (hy.mpr hyy), WeierstrassCurve.Affine.Point.add_of_Y_eq rfl hyy, ofGroup_zero]
      · -- two points over one abscissa that are not opposite are one point
        obtain rfl := WeierstrassCurve.Affine.Y_eq_of_Y_ne h.1 h'.1 rfl hyy
        rw [if_neg (mt hy.mp hyy), WeierstrassCurve.Affine.Point.add_of_Y_ne hyy, ofGroup_some]
        exact chord_eq (natCast_tangent (by rwa [negY_eq] at hyy)) x y x
    · rw [if_neg (mt hx.mp hxx), WeierstrassCurve.Affine.Point.add_of_X_ne hxx, ofGroup_some]
      exact chord_eq (natCast_slope hxx) x y x'

/-- **The multiples of a point** are those of the group. -/
theorem mul_ofGroup (k : Nat) (P : weierstrass.Point) : mul k (ofGroup P) = ofGroup (k • P) := by
  induction k using Nat.strongRecOn generalizing P with
  | _ k ih =>
    rw [mul]
    by_cases hk : k = 0
    · rw [if_pos hk, hk, zero_nsmul, ofGroup_zero]
    · -- the multiple of the double by half the number, and the point once more if that is odd
      have hhalf : mul (k / 2) (add (ofGroup P) (ofGroup P)) = ofGroup ((2 * (k / 2)) • P) := by
        rw [add_ofGroup, ih _ (by omega), ← two_nsmul, ← mul_nsmul]
      rw [if_neg hk]
      dsimp only
      rw [hhalf]
      by_cases heven : k % 2 = 0
      · have hsplit : 2 * (k / 2) = k := by omega
        rw [if_pos heven, hsplit]
      · have hsplit : 1 + 2 * (k / 2) = k := by omega
        rw [if_neg heven, add_ofGroup]
        congr 1
        rw [← hsplit, add_nsmul, one_nsmul, hsplit]

end Point

end AssetAccess.Curve
