import AssetAccess.Curve.Octets
import AssetAccess.Proofs.Digest.ByteOrder
/-!
# Points as bytes and back

Numbers below 2^256 are read back from their 32 bytes (`ofOctets_octets`), however many of the
first ones are zero.  So the bytes of two such numbers are read as a point exactly when the numbers
are the coordinates of a point of the curve (`Point.ofOctets?_eq_some_iff`).
-/

namespace AssetAccess.Curve

open Digest

theorem length_octets (n : Nat) : (octets n).length = 32 := ByteOrder.length_bytes 32 n

/-- A number that fits 32 bytes is read back from them. -/
theorem ofOctets_octets {n : Nat} (h : n < 256 ^ 32) : ofOctets (octets n) = n :=
  ByteOrder.value_bytes_of_lt h

/-! ### What fits -/

theorem isScalar_iff {d : Nat} : isScalar d = true ↔ 1 ≤ d ∧ d < order := by
  rw [isScalar, Bool.and_eq_true, decide_eq_true_eq, decide_eq_true_eq]

theorem lt_of_isScalar {d : Nat} (h : isScalar d = true) : d < 256 ^ 32 := by
  have hbound : order < 256 ^ 32 := by decide
  have := isScalar_iff.mp h
  omega

theorem lt_of_isOnCurve {x y : Nat} (h : isOnCurve x y = true) :
    x < 256 ^ 32 ∧ y < 256 ^ 32 := by
  have hbound : prime < 256 ^ 32 := by decide
  simp only [isOnCurve, Bool.and_eq_true, decide_eq_true_eq] at h
  omega

/-! ### Points -/

theorem take_append_octets (x y : Nat) : (octets x ++ octets y).take 32 = octets x :=
  List.take_left' (length_octets x)

theorem drop_append_octets (x y : Nat) : (octets x ++ octets y).drop 32 = octets y :=
  List.drop_left' (length_octets x)

/-- Two numbers are read as the point that has them as coordinates, if it is on the curve. -/
theorem Point.ofOctets?_eq_some_iff {x y : Nat} {q : Point} (hx : x < 256 ^ 32)
    (hy : y < 256 ^ 32) :
    Point.ofOctets? (Point.bothCoordinates :: (Curve.octets x ++ Curve.octets y)) = some q ↔
      isOnCurve x y = true ∧ q = .affine x y := by
  have hlength : (Curve.octets x ++ Curve.octets y).length = 64 := by
    rw [List.length_append, length_octets, length_octets]
  rw [Point.ofOctets?, take_append_octets, drop_append_octets, ofOctets_octets hx,
    ofOctets_octets hy]
  simp only [hlength, decide_true, Bool.true_and, Option.ite_none_right_eq_some, Option.some.injEq]
  exact and_congr_right fun _ => eq_comm

end AssetAccess.Curve
