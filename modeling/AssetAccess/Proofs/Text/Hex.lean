import AssetAccess.Text.Ascii
import AssetAccess.Text.Hex
/-!
# Hexadecimal digits with letters of either case

A text is read as bytes exactly if it is, with its letters made small, what is written for the bytes
(`decode?_eq_some_iff`).  So the case of a letter does not count, and an odd number of digits or any
other character is refused.
-/

namespace AssetAccess.Hex

/-! ### Digits -/

theorem toNat_lt_of_value? {c : Char} {n : Nat} (h : value? c = some n) : c.toNat < 128 := by
  simp only [value?, Bool.and_eq_true, decide_eq_true_eq] at h
  refine Nat.lt_of_not_le fun hle => ?_
  rw [if_neg (by omega), if_neg (by omega), if_neg (by omega)] at h
  cases h

/-- No character beyond ASCII is made small. -/
theorem toLower_of_le {c : Char} (h : 128 ≤ c.toNat) : c.toLower = c := by
  have hZ : ¬ c.val ≤ 'Z'.val := by
    rw [UInt32.le_iff_toNat_le]
    change ¬ c.toNat ≤ 90
    omega
  exact dif_neg fun hcapital => hZ hcapital.2

theorem toNat_lt_of_toLower_eq_digit {c : Char} {n : Nat} (hn : n < 16)
    (h : c.toLower = digit n) : c.toNat < 128 := by
  have all : ∀ m < 16, (digit m).toNat < 128 := by decide
  refine Nat.lt_of_not_le fun hle => ?_
  rw [toLower_of_le hle] at h
  rw [h] at hle
  exact Nat.not_lt.mpr hle (all n hn)

/-- The digits with a value are the one that is written for it, and the same letter as a capital. -/
theorem value?_eq_some_iff {c : Char} {n : Nat} :
    value? c = some n ↔ n < 16 ∧ c.toLower = digit n := by
  have values : ∀ m < 128, ∀ k ∈ value? (Char.ofNat m), k < 16 ∧
      (Char.ofNat m).toLower = digit k := by decide +kernel
  have digits : ∀ m < 128, ∀ k < 16, (Char.ofNat m).toLower = digit k →
      value? (Char.ofNat m) = some k := by decide +kernel
  constructor
  · intro h
    have hvalue := values c.toNat (toNat_lt_of_value? h) n
    rw [Char.ofNat_toNat] at hvalue
    exact hvalue h
  · rintro ⟨hn, h⟩
    have hdigit := digits c.toNat (toNat_lt_of_toLower_eq_digit hn h) n hn
    rw [Char.ofNat_toNat] at hdigit
    exact hdigit h

/-! ### Texts -/

theorem encodeChars_cons (b : UInt8) (l : List UInt8) :
    encodeChars (b :: l) = digit (b.toNat / 16) :: digit (b.toNat % 16) :: encodeChars l := rfl

/-- The halves of a byte that is made of two digits are the values of the digits. -/
theorem encodeChars_ofNat_cons {high low : Nat} (hh : high < 16) (hl : low < 16)
    (l : List UInt8) :
    encodeChars (UInt8.ofNat (16 * high + low) :: l) =
      digit high :: digit low :: encodeChars l := by
  have hbyte : (UInt8.ofNat (16 * high + low)).toNat = 16 * high + low :=
    UInt8.toNat_ofNat_of_lt' (show 16 * high + low < 256 by omega)
  rw [encodeChars_cons, hbyte, show (16 * high + low) / 16 = high by omega,
    show (16 * high + low) % 16 = low by omega]

theorem decodeChars?_eq_some_iff {cs : List Char} {l : List UInt8} :
    decodeChars? cs = some l ↔ cs.map Char.toLower = encodeChars l := by
  fun_induction decodeChars? cs generalizing l with
  | case1 =>
    cases l with
    | nil => simp [encodeChars]
    | cons b l => simp [encodeChars_cons]
  | case2 c =>
    cases l with
    | nil => simp [encodeChars]
    | cons b l => simp [encodeChars_cons]
  | case3 high low r ih =>
    simp only [Option.bind_eq_bind, Option.bind_eq_some_iff, Option.pure_def, Option.some.injEq,
      ih, value?_eq_some_iff, List.map_cons]
    constructor
    · rintro ⟨m, ⟨hm, hhigh⟩, n, ⟨hn, hlow⟩, rest, hrest, rfl⟩
      rw [encodeChars_ofNat_cons hm hn, hhigh, hlow, hrest]
    · intro h
      cases l with
      | nil => simp [encodeChars] at h
      | cons b l =>
        have hb := b.toNat_lt
        rw [encodeChars_cons, List.cons.injEq, List.cons.injEq] at h
        obtain ⟨hhigh, hlow, hrest⟩ := h
        exact ⟨_, ⟨by omega, hhigh⟩, _, ⟨by omega, hlow⟩, l, hrest, by rw [ofNat_halves]⟩

/-- **A text is read as bytes** if its letters are those that are written for the bytes, in either
case. -/
theorem decode?_eq_some_iff {s : String} {l : List UInt8} :
    decode? s = some l ↔ Text.lower s = encode l := by
  rw [decode?, decodeChars?_eq_some_iff, Text.lower, encode, ← String.toList_inj,
    String.toList_ofList, String.toList_ofList]

end AssetAccess.Hex
