import AssetAccess.Digest.Block
import Mathlib.Algebra.Order.Ring.Nat
/-!
# Numbers as bytes

The bytes of a number, most significant first, are its last digits to the base 256.  They denote the
number modulo a power of 256 (`value_bytes`), so a number that fits is denoted by its bytes.
-/

namespace AssetAccess.Digest.ByteOrder

theorem value_append_singleton (l : List UInt8) (b : UInt8) :
    big.value (l ++ [b]) = 256 * big.value l + b.toNat := by
  rw [value, value, List.foldl_append]
  rfl

theorem bytes_succ (count n : Nat) :
    big.bytes (count + 1) n = big.bytes count (n / 256) ++ [UInt8.ofNat n] := by
  have hshift (i : Nat) : n >>> (8 * (i + 1)) = (n / 256) >>> (8 * i) := by
    rw [Nat.mul_succ, Nat.add_comm, Nat.shiftRight_add, Nat.shiftRight_eq_div_pow n 8]
  simp only [bytes, List.range_succ_eq_map, List.map_cons, List.reverse_cons, List.map_map]
  congr 2
  refine List.map_congr_left fun i _ => ?_
  rw [Function.comp_apply, hshift]

theorem length_bytes (count n : Nat) : (big.bytes count n).length = count := by
  simp [bytes]

/-- The bytes of a number denote what is left of it below a power of 256. -/
theorem value_bytes (count n : Nat) : big.value (big.bytes count n) = n % 256 ^ count := by
  induction count generalizing n with
  | zero => rw [Nat.pow_zero, Nat.mod_one]; rfl
  | succ count ih =>
    have hbyte : (UInt8.ofNat n).toNat = n % 256 := UInt8.toNat_ofNat'
    rw [bytes_succ, value_append_singleton, ih, hbyte, Nat.pow_succ', Nat.mod_mul, Nat.add_comm]

/-- A number is denoted by its bytes if they are enough. -/
theorem value_bytes_of_lt {count n : Nat} (h : n < 256 ^ count) :
    big.value (big.bytes count n) = n := by
  rw [value_bytes, Nat.mod_eq_of_lt h]

end AssetAccess.Digest.ByteOrder
