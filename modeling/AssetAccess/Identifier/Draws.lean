import AssetAccess.Identifier.RandomSource
/-!
# Given draws

A random source that hands out given words, and zeros when they are used up.
-/

namespace AssetAccess.Identifier

/-- The words that are left, and how many have been handed out. -/
structure Draws where
  words : List UInt64
  taken : Nat := 0

namespace Draws

/-- The next word of 64 bits. -/
def next (d : Draws) : UInt64 × Draws := (d.words.headD 0, ⟨d.words.tail, d.taken + 1⟩)

/-- The next word of 32 bits: the lower half of the next word. -/
def nextHalf (d : Draws) : UInt32 × Draws := (d.next.1.toUInt32, d.next.2)

theorem length_nextHalf_lt (d : Draws) (h : d.nextHalf.1 ≠ 0) :
    d.nextHalf.2.words.length < d.words.length := by
  match d with
  | ⟨[], _⟩ => exact absurd rfl h
  | ⟨_ :: _, _⟩ => simp [nextHalf, next]

instance : RandomSource Draws where
  next32 := nextHalf
  next64 := next
  patience _ d := d.words.length
  patience_next32_lt _ d _ h := length_nextHalf_lt d (ne_zero_of_isThrownAway h)

end Draws

end AssetAccess.Identifier
