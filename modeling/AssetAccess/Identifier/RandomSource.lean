/-!
# Random sources

A source hands out words of 32 and of 64 bits.  Numbers in a range are drawn from it by scaling a
word, and a word that would make some numbers likelier than others is thrown away.

A source that went on with such words for ever would never give a number.  So it is asked of every
source that in the end there comes a word that is taken, and of nothing else but the two ranges that
identifiers draw from.
-/

namespace AssetAccess.Identifier

/-- The sizes of the ranges that numbers are drawn from. -/
def rangeSizes : List Nat := [16, 8]

/-- The largest lower half that a scaled word may have: `count` times a power of two, as large as 32
bits allow, less one. -/
def zone (count : Nat) : Nat := count <<< (31 - count.log2) - 1

/-- Whether a word is thrown away where a number below `count` is drawn. -/
def isThrownAway (count : Nat) (word : UInt32) : Bool :=
  zone count < word.toNat * count % 0x100000000

/-- A type of random sources. -/
class RandomSource (σ : Type) where
  /-- The next word of 32 bits. -/
  next32 : σ → UInt32 × σ
  /-- The next word of 64 bits. -/
  next64 : σ → UInt64 × σ
  /-- A bound on the words that are thrown away before one is taken. -/
  patience (count : Nat) : σ → Nat
  /-- Nothing is thrown away for ever. -/
  patience_next32_lt (count : Nat) (s : σ) : count ∈ rangeSizes →
    isThrownAway count (next32 s).1 = true → patience count (next32 s).2 < patience count s

/-- A word that is zero is never thrown away. -/
theorem ne_zero_of_isThrownAway {count : Nat} {word : UInt32}
    (h : isThrownAway count word = true) : word ≠ 0 := by
  rintro rfl
  simp [isThrownAway] at h

namespace RandomSource

variable {σ : Type} [RandomSource σ]

/-- Draws a number below `count`.  A word is scaled by `count`; the upper half of the product is the
number, and the lower half tells whether the word is thrown away. -/
def below (count : Nat) (hcount : count ∈ rangeSizes) (s : σ) : Nat × σ :=
  if isThrownAway count (next32 s).1 then below count hcount (next32 s).2
  else ((next32 s).1.toNat * count / 0x100000000, (next32 s).2)
termination_by patience count s
decreasing_by
  apply patience_next32_lt count s hcount
  assumption

/-- Draws a number from `low` to `high`. -/
def between (low high : Nat) (hsize : high - low + 1 ∈ rangeSizes := by decide) (s : σ) : Nat × σ :=
  let drawn := below (high - low + 1) hsize s
  (low + drawn.1, drawn.2)

end RandomSource

end AssetAccess.Identifier
