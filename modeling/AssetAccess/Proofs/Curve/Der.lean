import AssetAccess.Curve.Der
import AssetAccess.Proofs.Curve.Signature
/-!
# The binary form is read back

A signature is read back from its binary form (`decode?_encode`).  The numbers of a signature are
below 2^256, so the content of each has at most 33 bytes, and every length fits the one byte that is
there for it.

Nothing else is read (`decode?_eq_some_iff`).  `IsContent` and `IsPair` say what the form is: each
integer as short as its sign bit allows, and nothing behind either of them or behind the whole.
-/

namespace AssetAccess.Curve.Der

open Digest

/-! ### Numbers -/

theorem value_magnitude (n : Nat) : ByteOrder.big.value (magnitude n) = n := by
  fun_induction magnitude n with
  | case1 => rfl
  | case2 n hn ih =>
    have hbyte : (UInt8.ofNat n).toNat = n % 256 := UInt8.toNat_ofNat'
    rw [ByteOrder.value_append_singleton, ih, hbyte]
    omega

theorem length_magnitude_le {n count : Nat} (h : n < 256 ^ count) :
    (magnitude n).length ≤ count := by
  induction count generalizing n with
  | zero =>
    have hn : n = 0 := by rwa [Nat.pow_zero, Nat.lt_one_iff] at h
    rw [hn, magnitude, if_pos rfl]
    rfl
  | succ count ih =>
    rw [magnitude]
    split
    · exact Nat.zero_le _
    · have hdiv : n / 256 < 256 ^ count := by
        rw [Nat.pow_succ] at h
        omega
      have hlength := ih hdiv
      rw [List.length_append, List.length_singleton]
      omega

/-- A zero byte in front does not change the number. -/
theorem value_content (n : Nat) : ByteOrder.big.value (content n) = n := by
  have hvalue := value_magnitude n
  unfold content
  split
  · rename_i hm
    rw [hm] at hvalue
    rw [← hvalue]
    rfl
  · rename_i b l hm
    rw [hm] at hvalue
    split
    · exact hvalue
    · rw [← hvalue]
      rfl

theorem length_content_le {n count : Nat} (h : n < 256 ^ count) :
    (content n).length ≤ count + 1 := by
  have hlength := length_magnitude_le h
  unfold content
  split
  · simp
  · rename_i b l hm
    rw [hm] at hlength
    split
    · exact Nat.le_succ_of_le hlength
    · exact Nat.succ_le_succ hlength

theorem ofContent?_content (n : Nat) : ofContent? (content n) = some n := by
  rw [ofContent?, value_content, if_pos rfl]

/-! ### Fields -/

/-- A field is split off from what follows it if its length fits one byte. -/
theorem splitField?_field (tag : UInt8) {l : List UInt8} (h : l.length < 128)
    (rest : List UInt8) : splitField? tag (field tag l ++ rest) = some (l, rest) := by
  have hcount : (UInt8.ofNat l.length).toNat = l.length := 
    UInt8.toNat_ofNat_of_lt' (h.trans (by decide))
  have hsmall : UInt8.ofNat l.length < 0x80 := by
    rw [UInt8.lt_iff_toNat_lt, hcount]
    exact h
  rw [field, List.cons_append, List.cons_append, splitField?, hcount, if_pos ⟨rfl, hsmall, by simp⟩,
    List.take_left, List.drop_left]

theorem length_field (tag : UInt8) (l : List UInt8) : (field tag l).length = l.length + 2 := rfl

theorem decodePair?_encodePair {r s : Nat} (hr : r < 256 ^ 32) (hs : s < 256 ^ 32) :
    decodePair? (encodePair r s) = some (r, s) := by
  have hr := length_content_le hr
  have hs := length_content_le hs
  -- two fields of at most 35 bytes each
  have hbody : (field 0x02 (content r) ++ field 0x02 (content s)).length < 128 := by
    rw [List.length_append, length_field, length_field]
    omega
  have houter := splitField?_field 0x30 hbody []
  have hfirst := splitField?_field 0x02 (show (content r).length < 128 by omega)
    (field 0x02 (content s))
  have hsecond := splitField?_field 0x02 (show (content s).length < 128 by omega) []
  rw [List.append_nil] at houter hsecond
  rw [decodePair?, encodePair, houter]
  simp [hfirst, hsecond, ofContent?_content]

/-! ### The form -/

/-- The bytes are the content of a number: most significant first, with the first bit clear, and
without a zero byte that could be left out. -/
structure IsContent (n : Nat) (l : List UInt8) : Prop where
  value : ByteOrder.big.value l = n
  clear : ∃ b r, l = b :: r ∧ b < 0x80
  short : ∀ b r, l = 0 :: b :: r → 0x80 ≤ b

/-- The bytes are two integers in a sequence, and nothing more. -/
inductive IsPair (r s : Nat) : List UInt8 → Prop where
  | mk {a b : List UInt8} (ha : IsContent r a) (hb : IsContent s b)
      (h : (field 0x02 a ++ field 0x02 b).length < 128) :
      IsPair r s (field 0x30 (field 0x02 a ++ field 0x02 b))

theorem magnitude_zero : magnitude 0 = [] := by rw [magnitude, if_pos rfl]

theorem magnitude_mul_add {n : Nat} {b : UInt8} (h : 256 * n + b.toNat ≠ 0) :
    magnitude (256 * n + b.toNat) = magnitude n ++ [b] := by
  have hb := b.toNat_lt
  have hbyte : UInt8.ofNat (256 * n + b.toNat) = b := by
    rw [← UInt8.toNat_inj, UInt8.toNat_ofNat']
    omega
  rw [magnitude, if_neg h, hbyte, show (256 * n + b.toNat) / 256 = n by omega]

/-- Bytes without a zero in front are the magnitude of their number. -/
theorem magnitude_value {l : List UInt8} (h : l.head? ≠ some 0) :
    magnitude (ByteOrder.big.value l) = l := by
  induction l using List.reverseRecOn with
  | nil => exact magnitude_zero
  | append_singleton l b ih =>
    rw [ByteOrder.value_append_singleton]
    by_cases hl : l = []
    · subst hl
      have hb : b.toNat ≠ 0 := fun hzero => h (congrArg some (UInt8.toNat_inj.mp hzero))
      have hone := magnitude_mul_add (n := 0) (b := b) (by omega)
      rwa [magnitude_zero] at hone
    · rw [List.head?_append_of_ne_nil _ hl] at h
      have hpos : ByteOrder.big.value l ≠ 0 := by
        intro hzero
        rw [hzero, magnitude_zero] at ih
        exact hl (ih h).symm
      rw [magnitude_mul_add (by omega), ih h]

theorem head?_magnitude (n : Nat) : (magnitude n).head? ≠ some 0 := by
  fun_induction magnitude n with
  | case1 => simp
  | case2 n hn ih =>
    by_cases hnil : magnitude (n / 256) = []
    · have hdiv := value_magnitude (n / 256)
      rw [hnil, ByteOrder.value, List.foldl_nil] at hdiv
      have hbyte : (UInt8.ofNat n).toNat = n := UInt8.toNat_ofNat_of_lt' (show n < 256 by omega)
      rw [hnil, List.nil_append, List.head?_cons, ne_eq, Option.some.injEq]
      intro hzero
      rw [hzero] at hbyte
      exact hn hbyte.symm
    · rwa [List.head?_append_of_ne_nil _ hnil]

theorem isContent_content (n : Nat) : IsContent n (content n) := by
  refine ⟨value_content n, ?_, ?_⟩
  · unfold content
    split
    · exact ⟨0, [], rfl, by decide⟩
    · rename_i b l _
      split
      · exact ⟨b, l, rfl, by assumption⟩
      · exact ⟨0, b :: l, rfl, by decide⟩
  · have hhead := head?_magnitude n
    unfold content
    split
    · intro b r h
      simp at h
    · rename_i b l hm
      rw [hm, List.head?_cons, ne_eq, Option.some.injEq] at hhead
      split
      · intro b' r h
        exact absurd (List.cons.inj h).1 hhead
      · rename_i hb
        intro b' r h
        obtain ⟨-, rfl, -⟩ : (0 : UInt8) = 0 ∧ b = b' ∧ l = r := by simpa using h
        exact UInt8.not_lt.mp hb

theorem content_eq_iff {n : Nat} {l : List UInt8} : content n = l ↔ IsContent n l := by
  constructor
  · rintro rfl
    exact isContent_content n
  · rintro ⟨rfl, ⟨b, r, rfl, hb⟩, hshort⟩
    unfold content
    by_cases hzero : b = 0
    · subst hzero
      cases r with
      | nil =>
        have hvalue : ByteOrder.big.value [0] = 0 := rfl
        rw [hvalue, magnitude_zero]
      | cons b r =>
        have hb : ¬ b < 0x80 := UInt8.not_lt.mpr (hshort b r rfl)
        have hhead : b ≠ 0 := fun h => hb (h ▸ (by decide))
        have hvalue : ByteOrder.big.value (0 :: b :: r) = ByteOrder.big.value (b :: r) := rfl
        rw [hvalue, magnitude_value (by simpa using hhead)]
        exact if_neg hb
    · rw [magnitude_value (by simpa using hzero)]
      exact if_pos hb

theorem ofContent?_eq_some_iff {l : List UInt8} {n : Nat} :
    ofContent? l = some n ↔ IsContent n l := by
  rw [ofContent?, Option.ite_none_right_eq_some, Option.some.injEq, content_eq_iff]
  constructor
  · rintro ⟨h, rfl⟩
    exact h
  · intro h
    rw [h.value]
    exact ⟨h, rfl⟩

theorem splitField?_eq_some_iff {tag : UInt8} {l body rest : List UInt8} :
    splitField? tag l = some (body, rest) ↔ body.length < 128 ∧ l = field tag body ++ rest := by
  constructor
  · intro h
    unfold splitField? at h
    split at h
    · rename_i t n l
      obtain ⟨⟨rfl, hn, hlength⟩, hpair⟩ := Option.ite_none_right_eq_some.mp h
      obtain ⟨rfl, rfl⟩ := Prod.mk.inj (Option.some.inj hpair)
      have hcount : (l.take n.toNat).length = n.toNat := List.length_take_of_le hlength
      rw [hcount]
      refine ⟨UInt8.lt_iff_toNat_lt.mp hn, ?_⟩
      rw [field, hcount, UInt8.ofNat_toNat, List.cons_append, List.cons_append,
        List.take_append_drop]
    · exact absurd h (by simp)
  · rintro ⟨h, rfl⟩
    exact splitField?_field tag h rest

theorem decodePair?_eq_some_iff {l : List UInt8} {r s : Nat} :
    decodePair? l = some (r, s) ↔ IsPair r s l := by
  simp only [decodePair?, Option.bind_eq_bind, Option.bind_eq_some_iff, Prod.exists,
    splitField?_eq_some_iff, Option.ite_none_right_eq_some, ofContent?_eq_some_iff]
  constructor
  · rintro ⟨_, after, ⟨h, rfl⟩, a, _, ⟨-, rfl⟩, b, rest, ⟨-, rfl⟩, hempty, r', ha, s', hb, heq⟩
    obtain ⟨rfl, rfl⟩ := Prod.mk.inj (Option.some.inj heq)
    obtain ⟨hafter, hrest⟩ := Bool.and_eq_true_iff.mp hempty
    rw [List.isEmpty_iff.mp hrest, List.append_nil] at h ⊢
    rw [List.isEmpty_iff.mp hafter, List.append_nil]
    exact .mk ha hb h
  · rintro @⟨a, b, ha, hb, h⟩
    have hlength := h
    rw [List.length_append, length_field, length_field] at hlength
    exact ⟨_, [], ⟨h, (List.append_nil _).symm⟩, a, _, ⟨by omega, rfl⟩, b, [],
      ⟨by omega, (List.append_nil _).symm⟩, rfl, r, ha, s, hb, rfl⟩

/-! ### Signatures -/

/-- **A signature is read back** from its binary form. -/
theorem decode?_encode (g : Signature) : decode? (encode g) = some g := by
  have hpair := decodePair?_encodePair (lt_of_isScalar g.isScalar_r) (lt_of_isScalar g.isScalar_s)
  rw [decode?, encode, hpair]
  exact dif_pos ⟨g.isScalar_r, g.isScalar_s⟩

/-- **Only the binary form of a signature is read.** -/
theorem decode?_eq_some_iff {l : List UInt8} {g : Signature} :
    decode? l = some g ↔ IsPair g.r g.s l := by
  simp only [decode?, Option.bind_eq_bind, Option.bind_eq_some_iff, Prod.exists,
    Signature.of?_eq_some_iff, decodePair?_eq_some_iff]
  constructor
  · rintro ⟨r, s, h, rfl, rfl⟩
    exact h
  · intro h
    exact ⟨g.r, g.s, h, rfl, rfl⟩

end AssetAccess.Curve.Der
