import AssetAccess.Proofs.Identifier.RandomId
/-!
# The bits of a packed identifier

A packed identifier is a sum of parts in places of their own (`PackedParts.sum`): each part is
smaller than what the places of the next one count, so no part reaches into another.  The part of
the second random identifier stands there twice, the second time with its lowest four bits only.

All parts can be taken out of the identifier again (`PackedParts.shown_sum`), so two identifiers are
the same exactly if they show the same parts.  The parts come from the base number, the flag, the
first two random identifiers that the call draws, and the content hash of a text with the first
reading of the clock (`packedId_exact`).
-/

namespace AssetAccess.Identifier

open Generator RandomSource

/-! ### Bits and places -/

/-- The number that `width` bits show, from bit `low` on. -/
def bits (low width n : Nat) : Nat := (n >>> low) % (1 <<< width)

section Bits

variable {low width k m n : Nat}

theorem bits_lt (low width n : Nat) : bits low width n < 1 <<< width := by
  rw [bits, Nat.one_shiftLeft]
  exact Nat.mod_lt _ (Nat.two_pow_pos width)

theorem bits_zero_of_lt (h : n < 1 <<< width) : bits 0 width n = n := Nat.mod_eq_of_lt h

theorem bits_zero_bits_zero (h : width ≤ k) : bits 0 width (bits 0 k n) = bits 0 width n := by
  rw [bits, bits, bits, Nat.shiftRight_zero, Nat.shiftRight_zero, Nat.one_shiftLeft,
    Nat.one_shiftLeft]
  exact Nat.mod_mod_of_dvd n (Nat.pow_dvd_pow 2 h)

/-- A number in higher places does not show in lower ones. -/
theorem bits_add_shiftLeft_below (h : low + width ≤ k) :
    bits low width (m + n <<< k) = bits low width m := by
  obtain ⟨d, rfl⟩ := Nat.exists_eq_add_of_le h
  have hplace : n <<< (low + width + d) = 2 ^ low * (2 ^ width * (n * 2 ^ d)) := by
    rw [Nat.shiftLeft_eq, Nat.pow_add, Nat.pow_add]
    ac_rfl
  rw [bits, bits, Nat.one_shiftLeft, Nat.shiftRight_eq_div_pow, Nat.shiftRight_eq_div_pow, hplace,
    Nat.add_mul_div_left _ _ (Nat.two_pow_pos low), Nat.add_mul_mod_self_left]

/-- A number that ends below its places does not show in them. -/
theorem bits_add_shiftLeft_above (h : k ≤ low) (hm : m < 1 <<< k) :
    bits low width (m + n <<< k) = bits (low - k) width n := by
  obtain ⟨d, rfl⟩ := Nat.exists_eq_add_of_le h
  rw [Nat.one_shiftLeft] at hm
  rw [bits, bits, Nat.add_sub_cancel_left, Nat.shiftRight_add, Nat.shiftRight_eq_div_pow _ k,
    Nat.shiftLeft_eq, Nat.add_mul_div_right _ _ (Nat.two_pow_pos k), Nat.div_eq_of_lt hm,
    Nat.zero_add]

theorem bits_placed (hm : m < 1 <<< k) (hn : n < 1 <<< width) :
    bits k width (m + n <<< k) = n := by
  rw [bits_add_shiftLeft_above (Nat.le_refl k) hm, Nat.sub_self, bits_zero_of_lt hn]

theorem add_shiftLeft_lt (hm : m < 1 <<< k) (hn : n < 1 <<< width) :
    m + n <<< k < 1 <<< (k + width) := by
  rw [Nat.one_shiftLeft] at *
  rw [Nat.shiftLeft_eq, Nat.pow_add]
  calc m + n * 2 ^ k < 2 ^ k + n * 2 ^ k := Nat.add_lt_add_right hm _
    _ = 2 ^ k * (n + 1) := by rw [Nat.mul_succ, Nat.mul_comm, Nat.add_comm]
    _ ≤ 2 ^ k * 2 ^ width := Nat.mul_le_mul_left _ hn

end Bits

/-! ### Parts -/

/-- The parts of a packed identifier. -/
structure PackedParts where
  base : Nat
  first : Nat
  flag : Nat
  second : Nat
  hash : Nat

namespace PackedParts

/-- What goes into a packed identifier. -/
def of (base : Nat) (flag : Bool) (hash first second : Nat) : PackedParts where
  base := bits 0 20 base
  first := bits 4 12 first
  flag := flag.toNat
  second := bits 0 8 second
  hash := bits 0 16 hash

/-- What a number shows in the places of the parts. -/
def shown (n : Nat) : PackedParts where
  base := bits 0 20 n
  first := bits 20 12 n
  flag := bits 32 1 n
  second := bits 33 8 n
  hash := bits 41 16 n

/-- The parts in their places, one of them in two. -/
def sum (p : PackedParts) : Nat :=
  p.base + p.first <<< 20 + p.flag <<< 32 + p.second <<< 33 + p.hash <<< 41
    + bits 0 4 p.second <<< 57

/-- No part is too large for its place. -/
structure Fits (p : PackedParts) : Prop where
  base_lt : p.base < 1 <<< 20
  first_lt : p.first < 1 <<< 12
  flag_lt : p.flag < 1 <<< 1
  second_lt : p.second < 1 <<< 8
  hash_lt : p.hash < 1 <<< 16

theorem fits_of (base : Nat) (flag : Bool) (hash first second : Nat) :
    (of base flag hash first second).Fits where
  base_lt := bits_lt 0 20 base
  first_lt := bits_lt 4 12 first
  flag_lt := flag.toNat_lt
  second_lt := bits_lt 0 8 second
  hash_lt := bits_lt 0 16 hash

/-- Each part in turn ends where the places of the next one begin. -/
structure Fits.Ends (p : PackedParts) : Prop where
  first : p.base + p.first <<< 20 < 1 <<< 32
  flag : p.base + p.first <<< 20 + p.flag <<< 32 < 1 <<< 33
  second : p.base + p.first <<< 20 + p.flag <<< 32 + p.second <<< 33 < 1 <<< 41
  hash : p.base + p.first <<< 20 + p.flag <<< 32 + p.second <<< 33 + p.hash <<< 41 < 1 <<< 57
  sum : p.sum < 1 <<< 61

section Places

variable {p : PackedParts}

theorem Fits.ends (h : p.Fits) : Fits.Ends p := by
  have hfirst := add_shiftLeft_lt h.base_lt h.first_lt
  have hflag := add_shiftLeft_lt hfirst h.flag_lt
  have hsecond := add_shiftLeft_lt hflag h.second_lt
  have hhash := add_shiftLeft_lt hsecond h.hash_lt
  exact ⟨hfirst, hflag, hsecond, hhash, add_shiftLeft_lt hhash (bits_lt 0 4 p.second)⟩

/-- The parts can be taken out of their places again. -/
theorem shown_sum (h : p.Fits) : shown p.sum = p := by
  have hends := h.ends
  have hbase : bits 0 20 p.sum = p.base := by
    unfold sum
    simp (disch := decide) only [bits_add_shiftLeft_below]
    exact bits_zero_of_lt h.base_lt
  have hfirst : bits 20 12 p.sum = p.first := by
    unfold sum
    simp (disch := decide) only [bits_add_shiftLeft_below]
    exact bits_placed h.base_lt h.first_lt
  have hflag : bits 32 1 p.sum = p.flag := by
    unfold sum
    simp (disch := decide) only [bits_add_shiftLeft_below]
    exact bits_placed hends.first h.flag_lt
  have hsecond : bits 33 8 p.sum = p.second := by
    unfold sum
    simp (disch := decide) only [bits_add_shiftLeft_below]
    exact bits_placed hends.flag h.second_lt
  have hhash : bits 41 16 p.sum = p.hash := by
    unfold sum
    simp (disch := decide) only [bits_add_shiftLeft_below]
    exact bits_placed hends.second h.hash_lt
  rw [shown, hbase, hfirst, hflag, hsecond, hhash]

/-- The lowest bits of the second random identifier stand in two places. -/
theorem bits_again_sum (h : p.Fits) : bits 57 4 p.sum = bits 33 4 p.sum := by
  have hagain : bits 57 4 p.sum = bits 0 4 p.second := by
    unfold sum
    exact bits_placed h.ends.hash (bits_lt 0 4 p.second)
  rw [hagain]
  unfold sum
  simp (disch := decide) only [bits_add_shiftLeft_below]
  rw [bits_add_shiftLeft_above (Nat.le_refl 33) h.ends.flag]

theorem bits_top_sum (h : p.Fits) : bits 61 3 p.sum = 0 := by
  have hlt := h.ends.sum
  rw [Nat.one_shiftLeft] at hlt
  rw [bits, Nat.shiftRight_eq_div_pow, Nat.div_eq_of_lt hlt, Nat.zero_mod]

end Places

end PackedParts

/-! ### Words -/

theorem toNat_and_mask {w mask : UInt64} {width : Nat}
    (hmask : mask.toNat = 1 <<< width - 1) : (w &&& mask).toNat = bits 0 width w.toNat := by
  rw [UInt64.toNat_and, hmask, Nat.one_shiftLeft, Nat.and_two_pow_sub_one_eq_mod, bits,
    Nat.one_shiftLeft, Nat.shiftRight_zero]

/-- A word that is put above the end of another one is added to it. -/
theorem toNat_or_shiftLeft {low w : UInt64} {k m n : Nat} (hk : k < 64) (hlow : low.toNat = m)
    (hw : w.toNat = n) (hm : m < 1 <<< k) (hsum : m + n <<< k < 18446744073709551616) :
    (low ||| (w <<< UInt64.ofNat k)).toNat = m + n <<< k := by
  have hshift : (UInt64.ofNat k).toNat % 64 = k := by
    rw [UInt64.toNat_ofNat']
    omega
  have hplaced : (w <<< UInt64.ofNat k).toNat = n <<< k := by
    rw [UInt64.toNat_shiftLeft, hshift, hw]
    exact Nat.mod_eq_of_lt (Nat.lt_of_le_of_lt (Nat.le_add_left _ m) hsum)
  rw [Nat.one_shiftLeft] at hm
  rw [UInt64.toNat_or, hplaced, hlow, Nat.or_comm, ← Nat.shiftLeft_add_eq_or_of_lt hm, Nat.add_comm]

theorem toNat_flagBit (flag : Bool) : (flagBit flag).toNat = flag.toNat := by
  cases flag <;> rfl

open PackedParts in
/-- Packing words is adding their parts. -/
theorem toNat_pack (base : UInt64) (flag : Bool) (hash first second : UInt64) :
    (pack base flag hash first second).toNat =
      (PackedParts.of base.toNat flag hash.toNat first.toNat second.toNat).sum := by
  have hfits := fits_of base.toNat flag hash.toNat first.toNat second.toNat
  have hends := hfits.ends
  have hword {n k : Nat} (h : n < 1 <<< k) (hk : 1 <<< k ≤ 18446744073709551616) :
      n < 18446744073709551616 := Nat.lt_of_lt_of_le h hk
  -- each part by itself
  have hbase : (base &&& baseMask).toNat = bits 0 20 base.toNat := toNat_and_mask rfl
  have hfirst : ((first >>> UInt64.ofNat 4) &&& 0xFFF).toNat = bits 4 12 first.toNat := by
    have hmask : (0xFFF : UInt64).toNat = 1 <<< 12 - 1 := rfl
    rw [toNat_and_mask hmask, toNat_shiftRight_ofNat first (by decide)]
    rfl
  have hsecond : (second &&& 0xFF).toNat = bits 0 8 second.toNat := toNat_and_mask rfl
  have hhash : (hash &&& 0xFFFF).toNat = bits 0 16 hash.toNat := toNat_and_mask rfl
  have hagain : (second &&& 0xF).toNat = bits 0 4 (bits 0 8 second.toNat) := by
    rw [bits_zero_bits_zero (by decide)]
    exact toNat_and_mask rfl
  -- one part after the other, each where the ones before it end
  have h20 := toNat_or_shiftLeft (by decide) hbase hfirst hfits.base_lt
    (hword hends.first (by decide))
  have h32 := toNat_or_shiftLeft (by decide) h20 (toNat_flagBit flag) hends.first
    (hword hends.flag (by decide))
  have h33 := toNat_or_shiftLeft (by decide) h32 hsecond hends.flag (hword hends.second (by decide))
  have h41 := toNat_or_shiftLeft (by decide) h33 hhash hends.second (hword hends.hash (by decide))
  exact toNat_or_shiftLeft (by decide) h41 hagain hends.hash (hword hends.sum (by decide))

/-- The lowest bits of a number with a sign are those of its remainder. -/
theorem bits_zero_toUInt64 (n : Int64) :
    bits 0 20 n.toUInt64.toNat = (n.toInt % 1048576).toNat := by
  have hlt : n.toUInt64.toNat < 18446744073709551616 := n.toUInt64.toNat_lt
  have hsign : n.toInt = n.toUInt64.toNat ∨ n.toInt = n.toUInt64.toNat - 18446744073709551616 := by
    have hcond := BitVec.toInt_eq_toNat_cond n.toBitVec
    split at hcond
    · exact Or.inl hcond
    · exact Or.inr hcond
  change n.toUInt64.toNat % 1048576 = _
  rcases hsign with h | h <;> omega

/-! ### Identifiers -/

/-- The random identifier that is made of these parts. -/
def Ingredients.id (p : Ingredients) : Nat := p.sum % 9223372036854775808

/-- A number is the sum of the parts, and shows them and nothing else. -/
structure IsPacked (n : Nat) (p : PackedParts) : Prop where
  sum : n = p.sum
  shown : PackedParts.shown n = p
  again : bits 57 4 n = bits 33 4 n
  top : bits 61 3 n = 0

variable {σ : Type} [RandomSource σ]

/-- A packed identifier takes one reading of the clock for itself, and then two random identifiers
are made. -/
theorem run_packedId (base : UInt64) (flag : Bool) (g : Generator σ) :
    (packedId base flag).run g =
      let first := randomId.run { g with clock := g.clock.next }
      let second := randomId.run first.2
      (pack base flag (contentHash (packedText base flag g.clock.unixNanos)) first.1 second.1,
        second.2) := rfl

theorem packedText_eq (base : UInt64) (flag : Bool) (nanos : Int) :
    packedText base flag nanos = Decimal.ofNat base.toNat ++ "#" ++ (if flag then "1" else "0") ++
      "#" ++ Decimal.ofInt nanos := by
  have hflag : Decimal.ofNat (flagBit flag).toNat = if flag then "1" else "0" := by
    cases flag <;> rfl
  rw [packedText, hflag]
  rfl

/-- What is packed from a number, a flag, a hash and two random identifiers. -/
theorem isPacked_pack (base : UInt64) (flag : Bool) (hash first second : UInt64) :
    IsPacked (pack base flag hash first second).toNat
      (.of base.toNat flag hash.toNat first.toNat second.toNat) := by
  have hfits := PackedParts.fits_of base.toNat flag hash.toNat first.toNat second.toNat
  rw [toNat_pack]
  exact ⟨rfl, PackedParts.shown_sum hfits, PackedParts.bits_again_sum hfits,
    PackedParts.bits_top_sum hfits⟩

/-- Numbers that are packed are told apart by the parts that they show. -/
theorem IsPacked.eq_iff {m n : Nat} {p q : PackedParts} (hm : IsPacked m p) (hn : IsPacked n q) :
    m = n ↔ PackedParts.shown m = PackedParts.shown n := by
  constructor
  · rintro rfl
    rfl
  · intro h
    rw [hm.shown, hn.shown] at h
    rw [hm.sum, hn.sum, h]

/-- The next random identifier is made from the parts that the generator gives. -/
theorem exists_drawn_id (g : Generator σ) :
    ∃ p, Drawn g p (randomId.run g).2 ∧ (randomId.run g).1.toNat = p.id := exists_drawn g

theorem exists_isPacked (g : Generator σ) (base : UInt64) (flag : Bool) :
    ∃ p q g', Drawn { g with clock := g.clock.next } p g' ∧
      Drawn g' q ((packedId base flag).run g).2 ∧
        IsPacked ((packedId base flag).run g).1.toNat
          (.of base.toNat flag
            (contentHash (Decimal.ofNat base.toNat ++ "#" ++ (if flag then "1" else "0") ++ "#" ++
              Decimal.ofInt g.clock.unixNanos)).toNat p.id q.id) := by
  obtain ⟨p, hp, hfirst⟩ := exists_drawn_id { g with clock := g.clock.next }
  obtain ⟨q, hq, hsecond⟩ := exists_drawn_id (randomId.run { g with clock := g.clock.next }).2
  refine ⟨p, q, _, hp, hq, ?_⟩
  rw [run_packedId, ← packedText_eq, ← hfirst, ← hsecond]
  exact isPacked_pack base flag _ _ _

/-- The identifier of an asset is a packed identifier without the flag, and positive as such. -/
theorem toInt_assetId (g : Generator σ) (appId : Int64) :
    ((assetId appId).run g).1.toInt = ((packedId appId.toUInt64 false).run g).1.toNat ∧
      ((packedId appId.toUInt64 false).run g).1.toNat < 2305843009213693952 := by
  have hasset : ((assetId appId).run g).1 =
      ((packedId appId.toUInt64 false).run g).1.toInt64 := rfl
  obtain ⟨p, q, -, -, -, hpacked⟩ := exists_isPacked g appId.toUInt64 false
  have hlt : ((packedId appId.toUInt64 false).run g).1.toNat < 2305843009213693952 := by
    rw [hpacked.sum]
    exact (PackedParts.fits_of _ _ _ _ _).ends.sum
  rw [hasset]
  exact ⟨toInt_toInt64 (by omega), hlt⟩

/-- **A packed identifier** is the sum of its parts, and each part shows in its place: the lowest
bits of the base number, of two random identifiers, and of the hash of a text with all of the base
number and the first reading of the clock.  The random identifiers are the next two that the
generator gives.  Two packed identifiers are the same exactly if they show the same parts.  The
identifier of an asset has at most 61 bits, no flag, and the lowest bits of the application. -/
theorem packedId_exact (g : Generator σ) :
    (∀ base flag, ∃ p q g', Drawn { g with clock := g.clock.next } p g' ∧
      Drawn g' q ((packedId base flag).run g).2 ∧
        IsPacked ((packedId base flag).run g).1.toNat
          (.of base.toNat flag
            (contentHash (Decimal.ofNat base.toNat ++ "#" ++ (if flag then "1" else "0") ++ "#" ++
              Decimal.ofInt g.clock.unixNanos)).toNat p.id q.id)) ∧
    (∀ {τ : Type} [RandomSource τ] (g' : Generator τ) base flag base' flag',
      ((packedId base flag).run g).1 = ((packedId base' flag').run g').1 ↔
        PackedParts.shown ((packedId base flag).run g).1.toNat =
          PackedParts.shown ((packedId base' flag').run g').1.toNat) ∧
    ∀ appId, ∃ n : Nat, ((assetId appId).run g).1.toInt = n ∧
      ((packedId appId.toUInt64 false).run g).1.toNat = n ∧ n < 2305843009213693952 ∧
        bits 32 1 n = 0 ∧ bits 0 20 n = (appId.toInt % 1048576).toNat := by
  refine ⟨exists_isPacked g, fun g' base flag base' flag' => ?_, fun appId => ?_⟩
  · obtain ⟨p, q, -, -, -, hpacked⟩ := exists_isPacked g base flag
    obtain ⟨p', q', -, -, -, hpacked'⟩ := exists_isPacked g' base' flag'
    rw [← UInt64.toNat_inj]
    exact hpacked.eq_iff hpacked'
  · obtain ⟨p, q, -, -, -, hpacked⟩ := exists_isPacked g appId.toUInt64 false
    obtain ⟨hasset, hlt⟩ := toInt_assetId g appId
    have hshown := hpacked.shown
    rw [PackedParts.shown, PackedParts.of, PackedParts.mk.injEq] at hshown
    obtain ⟨hbase, -, hflag, -, -⟩ := hshown
    rw [bits_zero_toUInt64] at hbase
    exact ⟨_, hasset, rfl, hlt, hflag, hbase⟩

end AssetAccess.Identifier
