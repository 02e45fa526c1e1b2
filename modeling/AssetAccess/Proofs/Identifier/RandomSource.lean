import AssetAccess.Identifier.RandomSource
import Mathlib.Data.Nat.Basic
/-!
# Numbers drawn from a range

`Below count s n s'` follows the words of a source from the state `s` on: those that fail the test
are thrown away, and the first one that passes it gives the number `n` and leaves the state `s'`.
Drawing a number below `count` does just this (`below_eq_iff`), and the number is below `count`
(`Below.lt`).
-/

namespace AssetAccess.Identifier.RandomSource

variable {σ : Type} [RandomSource σ] {count n : Nat} {s s' : σ}

/-- The words from a state on up to the first whose product with `count` has a small enough lower
half.  The upper half of that product is the number. -/
inductive Below (count : Nat) : σ → Nat → σ → Prop where
  | taken {s : σ} (h : (next32 s).1.toNat * count % 4294967296 ≤ zone count) :
      Below count s ((next32 s).1.toNat * count / 4294967296) (next32 s).2
  | thrownAway {s s' : σ} {n : Nat} (h : zone count < (next32 s).1.toNat * count % 4294967296)
      (hrest : Below count (next32 s).2 n s') : Below count s n s'

/-- What is drawn comes from the words of the source. -/
theorem below_spec (count : Nat) (hcount : count ∈ rangeSizes) (s : σ) :
    Below count s (below count hcount s).1 (below count hcount s).2 := by
  -- the bound falls with every word that is thrown away
  fun_induction below count hcount s with
  | case1 s h ih => exact .thrownAway (of_decide_eq_true h) ih
  | case2 s h => exact .taken (Nat.not_lt.mp fun hlt => h (decide_eq_true hlt))

/-- A product of a word with `count` has an upper half below `count`. -/
theorem Below.lt (h : Below count s n s') (hcount : 0 < count) : n < count := by
  induction h with
  | @taken s h =>
    have hword : (next32 s).1.toNat < 4294967296 := (next32 s).1.toNat_lt
    exact Nat.div_lt_of_lt_mul (Nat.mul_lt_mul_of_pos_right hword hcount)
  | thrownAway _ _ ih => exact ih

/-- A state gives one number and leaves one state. -/
theorem Below.unique {n' : Nat} {s'' : σ} (h : Below count s n s') (h' : Below count s n' s'') :
    n = n' ∧ s' = s'' := by
  induction h with
  | taken h =>
    cases h' with
    | taken => exact ⟨rfl, rfl⟩
    | thrownAway hno => exact absurd h (Nat.not_le.mpr hno)
  | thrownAway h _ ih =>
    cases h' with
    | taken hno => exact absurd hno (Nat.not_le.mpr h)
    | thrownAway _ hrest => exact ih hrest

/-- Drawing a number below `count` gives that number. -/
theorem below_eq_iff {hcount : count ∈ rangeSizes} :
    below count hcount s = (n, s') ↔ Below count s n s' := by
  constructor
  · intro h
    have hspec := below_spec count hcount s
    rwa [h] at hspec
  · intro h
    exact Prod.ext_iff.mpr ((below_spec count hcount s).unique h)

end AssetAccess.Identifier.RandomSource
