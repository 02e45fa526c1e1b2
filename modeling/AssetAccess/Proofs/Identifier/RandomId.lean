import AssetAccess.Proofs.Identifier.Generator
import AssetAccess.Proofs.Identifier.RandomSource
/-!
# The sum in a random identifier

A random identifier is a sum of three numbers without its highest bit: two words of 63 bits, each
moved right as far as a drawn number says, and half of the time.  `Drawn` says where the five parts
come from: one reading of the clock, then two words of the source, then two numbers from ranges.

The shifts are at least 2 and 1, so the words make less than 2^61 and 2^62, and half of the time is
less than 2^63.  Together this is less than 2^64 (`Drawn.fits`), so the additions of
words are those of numbers, and the identifier is the sum itself modulo 2^63 (`randomId_exact`).
-/

namespace AssetAccess

/-- The Unix time in nanoseconds as a word.  A time before 1970 counts back from 2^64, and one that
does not fit 64 bits with a sign counts as 0. -/
inductive Instant.ReadsAs (t : Instant) : Nat → Prop where
  | after1970 {n : Nat} (h : t.second * 1000000000 + t.nano = n) (hn : n < 9223372036854775808) :
      t.ReadsAs n
  | before1970 {n : Nat} (h : t.second * 1000000000 + t.nano = -n) (hpos : 0 < n)
      (hn : n ≤ 9223372036854775808) : t.ReadsAs (18446744073709551616 - n)
  | outOfRange (h : t.second * 1000000000 + t.nano < -9223372036854775808 ∨
      9223372036854775808 ≤ t.second * 1000000000 + t.nano) : t.ReadsAs 0

/-- The time is read as one word of 64 bits. -/
theorem Instant.ReadsAs.lt {t : Instant} {n : Nat} (h : t.ReadsAs n) :
    n < 18446744073709551616 := by
  cases h with
  | after1970 => omega
  | before1970 => omega
  | outOfRange => omega

theorem Instant.ReadsAs.unique {t : Instant} {m n : Nat} (hm : t.ReadsAs m) (hn : t.ReadsAs n) :
    m = n := by
  cases hm with
  | after1970 => cases hn <;> omega
  | before1970 => cases hn <;> omega
  | outOfRange => cases hn <;> omega

namespace Identifier

open Generator RandomSource

/-- The parts of a random identifier. -/
structure Ingredients where
  first : Nat
  second : Nat
  firstShift : Nat
  secondShift : Nat
  time : Nat

namespace Ingredients

/-- The words, each moved right, together. -/
def wordSum (p : Ingredients) : Nat :=
  (p.first >>> p.firstShift) + (p.second >>> p.secondShift)

/-- All parts together. -/
def sum (p : Ingredients) : Nat := p.wordSum + (p.time >>> 1)

/-- The shifts are in their ranges, and neither sum goes beyond 64 bits. -/
structure Fits (p : Ingredients) : Prop where
  firstShift_range : 2 ≤ p.firstShift ∧ p.firstShift ≤ 17
  secondShift_range : 1 ≤ p.secondShift ∧ p.secondShift ≤ 8
  wordSum_lt : p.wordSum < 18446744073709551616
  sum_lt : p.sum < 18446744073709551616

end Ingredients

variable {σ : Type} [RandomSource σ] {g : Generator σ}

/-- A generator gives these parts in this order and is left in this state. -/
inductive Drawn (g : Generator σ) : Ingredients → Generator σ → Prop where
  | mk {w w' : UInt64} {s₁ s₂ s₃ s₄ : σ} {a b t : Nat} (ht : g.clock.now.ReadsAs t)
      (hw : next64 g.source = (w, s₁)) (hw' : next64 s₁ = (w', s₂))
      (ha : Below 16 s₂ a s₃) (hb : Below 8 s₃ b s₄) :
      Drawn g
        { first := w.toNat % 9223372036854775808
          second := w'.toNat % 9223372036854775808
          firstShift := 2 + a
          secondShift := 1 + b
          time := t }
        { g with source := s₄, clock := g.clock.next }

/-! ### Words -/

theorem toNat_and_mask63 (w : UInt64) :
    (w &&& mask63).toNat = w.toNat % 9223372036854775808 := by
  rw [UInt64.toNat_and]
  exact Nat.and_two_pow_sub_one_eq_mod w.toNat 63

theorem toNat_shiftRight_ofNat (w : UInt64) {k : Nat} (hk : k < 64) :
    (w >>> UInt64.ofNat k).toNat = w.toNat >>> k := by
  have hshift : (UInt64.ofNat k).toNat % 64 = k := by
    rw [UInt64.toNat_ofNat']
    omega
  rw [UInt64.toNat_shiftRight, hshift]

theorem toNat_timeWord (n : Int) : (timeWord n).toNat = (n % 18446744073709551616).toNat :=
  BitVec.toNat_ofInt n

/-- The time is read as a word of 64 bits. -/
theorem readsAs_timeWord (t : Instant) : t.ReadsAs (timeWord t.unixNanos).toNat := by
  rw [toNat_timeWord, Instant.unixNanos]
  split
  · rename_i hfits
    rw [Bool.and_eq_true, decide_eq_true_eq, decide_eq_true_eq] at hfits
    by_cases hneg : t.second * 1000000000 + t.nano < 0
    · obtain ⟨n, hn⟩ :=
        Int.eq_ofNat_of_zero_le (show 0 ≤ -(t.second * 1000000000 + t.nano) by omega)
      have hword : ((t.second * 1000000000 + t.nano) % 18446744073709551616).toNat =
          18446744073709551616 - n := by omega
      rw [hword]
      exact .before1970 (by omega) (by omega) (by omega)
    · exact .after1970 (by omega) (by omega)
  · rename_i hfits
    rw [Bool.and_eq_true, decide_eq_true_eq, decide_eq_true_eq, not_and_or] at hfits
    exact .outOfRange (by omega)

/-- Where the sums stay below 2^64, mixing words is adding numbers. -/
theorem toNat_mix {p : Ingredients} (hp : p.Fits) {first second time : UInt64}
    (hfirst : first.toNat = p.first) (hsecond : second.toNat = p.second)
    (htime : time.toNat = p.time) :
    (mix first second p.firstShift p.secondShift time).toNat = p.sum % 9223372036854775808 := by
  have hwords : ((first >>> UInt64.ofNat p.firstShift) +
      (second >>> UInt64.ofNat p.secondShift)).toNat = p.wordSum := by
    have := hp.firstShift_range
    have := hp.secondShift_range
    rw [UInt64.toNat_add, toNat_shiftRight_ofNat first (by omega),
      toNat_shiftRight_ofNat second (by omega), hfirst, hsecond]
    exact Nat.mod_eq_of_lt hp.wordSum_lt
  have hsum : ((first >>> UInt64.ofNat p.firstShift) + (second >>> UInt64.ofNat p.secondShift) +
      (time >>> 1)).toNat = p.sum := by
    have htime1 : (time >>> 1).toNat = p.time >>> 1 := by
      rw [← htime]
      exact toNat_shiftRight_ofNat time (by decide)
    rw [UInt64.toNat_add, hwords, htime1]
    exact Nat.mod_eq_of_lt hp.sum_lt
  rw [mix, toNat_and_mask63, hsum]

/-! ### Parts -/

theorem shiftRight_le_of_le (n : Nat) {j k : Nat} (h : j ≤ k) : n >>> k ≤ n >>> j := by
  rw [Nat.shiftRight_eq_div_pow, Nat.shiftRight_eq_div_pow]
  exact Nat.div_le_div_left (Nat.pow_le_pow_right (by decide) h) (Nat.two_pow_pos j)

/-- The parts that a generator gives are small enough to be added. -/
theorem Drawn.fits {g' : Generator σ} {p : Ingredients} (h : Drawn g p g') : p.Fits := by
  obtain @⟨w, w', s₁, s₂, s₃, s₄, a, b, t, ht, hw, hw', ha, hb⟩ := h
  have ha := ha.lt (by decide)
  have hb := hb.lt (by decide)
  have ht := ht.lt
  have hfirst : (w.toNat % 9223372036854775808) >>> (2 + a) < 2305843009213693952 :=
    Nat.lt_of_le_of_lt (shiftRight_le_of_le _ (Nat.le_add_right 2 a)) (by omega)
  have hsecond : (w'.toNat % 9223372036854775808) >>> (1 + b) < 4611686018427387904 :=
    Nat.lt_of_le_of_lt (shiftRight_le_of_le _ (Nat.le_add_right 1 b)) (by omega)
  have htime : t >>> 1 < 9223372036854775808 := by omega
  refine ⟨?_, ?_, ?_, ?_⟩
  · dsimp only
    omega
  · dsimp only
    omega
  · dsimp only [Ingredients.wordSum]
    omega
  · dsimp only [Ingredients.sum, Ingredients.wordSum]
    omega

/-- A generator gives one choice of parts. -/
theorem Drawn.unique {p q : Ingredients} {g₁ g₂ : Generator σ} (h : Drawn g p g₁)
    (h' : Drawn g q g₂) : p = q ∧ g₁ = g₂ := by
  obtain ⟨ht, hfirst, hsecond, ha, hb⟩ := h
  obtain ⟨ht', hfirst', hsecond', ha', hb'⟩ := h'
  obtain rfl := ht.unique ht'
  obtain ⟨rfl, rfl⟩ := Prod.mk.inj (hfirst.symm.trans hfirst')
  obtain ⟨rfl, rfl⟩ := Prod.mk.inj (hsecond.symm.trans hsecond')
  obtain ⟨rfl, rfl⟩ := ha.unique ha'
  obtain ⟨rfl, rfl⟩ := hb.unique hb'
  exact ⟨rfl, rfl⟩

/-- The next random identifier is made from the parts that the generator gives. -/
theorem exists_drawn (g : Generator σ) : ∃ p, Drawn g p (randomId.run g).2 ∧
    (randomId.run g).1.toNat = p.sum % 9223372036854775808 := by
  have hdrawn := Drawn.mk (readsAs_timeWord g.clock.now) (w := (next64 g.source).1) rfl rfl
    (below_spec 16 (by decide) _) (below_spec 8 (by decide) _)
  exact ⟨_, hdrawn, toNat_mix hdrawn.fits (toNat_and_mask63 _) (toNat_and_mask63 _) rfl⟩

/-- **A random identifier** is the sum of its parts modulo 2^63: two words moved right and half of
the time, which the generator gives in this order.  No addition on the way goes beyond 64 bits.  So
the identifier has 63 bits, and so has a nonce. -/
theorem Generator.randomId_exact (g : Generator σ) :
    (∃ p, (∀ q g', Drawn g q g' ↔ q = p ∧ g' = (randomId.run g).2) ∧ p.Fits ∧
      (randomId.run g).1.toNat = p.sum % 9223372036854775808) ∧
    (randomId.run g).1.toNat < 9223372036854775808 ∧
    0 ≤ (nonce.run g).1.toInt ∧ (nonce.run g).1.toInt < 9223372036854775808 := by
  obtain ⟨p, hdrawn, hsum⟩ := exists_drawn g
  refine ⟨⟨p, fun q g' => ⟨fun h => h.unique hdrawn, ?_⟩, hdrawn.fits, hsum⟩, ?_, nonce_range g⟩
  · rintro ⟨rfl, rfl⟩
    exact hdrawn
  · rw [hsum]
    exact Nat.mod_lt _ (by decide)

end Identifier

end AssetAccess
