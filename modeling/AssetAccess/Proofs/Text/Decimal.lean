import AssetAccess.Text.Decimal
import Mathlib.Data.List.Basic
/-!
# Reading and writing decimal integers

`Denotes l n` says that a text is a decimal notation of an integer: one or more ASCII digits, of any
number, with or without a sign before them.  Reading accepts exactly these notations
(`int?_eq_some_iff`), and what is written for an integer denotes it (`denotes_ofInt`).
-/

namespace AssetAccess.Decimal

/-- The text is one or more digits, possibly behind a sign, and denotes the integer. -/
inductive Denotes : List Char → Int → Prop where
  | plain {l : List Char} (hne : l ≠ []) (hd : ∀ c ∈ l, isDigit c = true) :
      Denotes l (Nat.ofDigitChars 10 l 0 : Nat)
  | plus {l : List Char} (hne : l ≠ []) (hd : ∀ c ∈ l, isDigit c = true) :
      Denotes ('+' :: l) (Nat.ofDigitChars 10 l 0 : Nat)
  | minus {l : List Char} (hne : l ≠ []) (hd : ∀ c ∈ l, isDigit c = true) :
      Denotes ('-' :: l) (-(Nat.ofDigitChars 10 l 0 : Nat))

/-! ### Digits -/

theorem isDigit_eq (c : Char) : isDigit c = c.isDigit := by
  simp only [isDigit, Char.isDigit, Char.le_def, ge_iff_le]

theorem value_eq (l : List Char) : value l = Nat.ofDigitChars 10 l 0 := by
  rw [value, Nat.ofDigitChars_eq_foldl]
  rfl

theorem isDigit_of_mem_toDigits {n : Nat} {c : Char} (h : c ∈ Nat.toDigits 10 n) :
    isDigit c = true := by
  rw [isDigit_eq]
  exact Nat.isDigit_of_mem_toDigits (by decide) (by decide) h

theorem toNat_of_isDigit {c : Char} (h : isDigit c = true) : 48 ≤ c.toNat ∧ c.toNat ≤ 57 := by
  simp only [isDigit, Bool.and_eq_true, decide_eq_true_eq, Char.le_def,
    UInt32.le_iff_toNat_le] at h
  exact h

/-! ### Reading -/

theorem nat?_eq_some_iff {l : List Char} {n : Nat} :
    nat? l = some n ↔ l ≠ [] ∧ (∀ c ∈ l, isDigit c = true) ∧ value l = n := by
  simp only [nat?, Option.ite_none_left_eq_some, Bool.or_eq_true, List.isEmpty_iff,
    Bool.not_eq_true', List.all_eq_false, not_or, not_exists, not_and, Decidable.not_not,
    Option.some.injEq, and_assoc, ne_eq]

theorem int?_minus (l : List Char) :
    int? ('-' :: l) = Option.map (fun n : Nat => -(n : Int)) (nat? l) := by
  rw [int?]
  cases nat? l <;> rfl

theorem int?_plus (l : List Char) :
    int? ('+' :: l) = Option.map (fun n : Nat => (n : Int)) (nat? l) := by
  rw [int?]
  cases nat? l <;> rfl

theorem int?_of_ne {l : List Char} (hm : ∀ r, l ≠ '-' :: r) (hp : ∀ r, l ≠ '+' :: r) :
    int? l = Option.map (fun n : Nat => (n : Int)) (nat? l) := by
  unfold int?
  split
  · exact absurd rfl (hm _)
  · exact absurd rfl (hp _)
  · cases nat? l <;> rfl

/-- A text is read as the integer that it denotes, and no other text is read. -/
theorem int?_eq_some_iff {l : List Char} {n : Int} : int? l = some n ↔ Denotes l n := by
  have nat?_of {l : List Char} (hne : l ≠ []) (hd : ∀ c ∈ l, isDigit c = true) :
      nat? l = some (Nat.ofDigitChars 10 l 0) := nat?_eq_some_iff.mpr ⟨hne, hd, value_eq l⟩
  constructor
  · intro h
    by_cases hm : ∃ r, l = '-' :: r
    · obtain ⟨r, rfl⟩ := hm
      rw [int?_minus, Option.map_eq_some_iff] at h
      obtain ⟨m, hm, rfl⟩ := h
      obtain ⟨hne, hd, rfl⟩ := nat?_eq_some_iff.mp hm
      rw [value_eq]
      exact Denotes.minus hne hd
    · by_cases hp : ∃ r, l = '+' :: r
      · obtain ⟨r, rfl⟩ := hp
        rw [int?_plus, Option.map_eq_some_iff] at h
        obtain ⟨m, hm, rfl⟩ := h
        obtain ⟨hne, hd, rfl⟩ := nat?_eq_some_iff.mp hm
        rw [value_eq]
        exact Denotes.plus hne hd
      · rw [int?_of_ne (not_exists.mp hm) (not_exists.mp hp), Option.map_eq_some_iff] at h
        obtain ⟨m, hm, rfl⟩ := h
        obtain ⟨hne, hd, rfl⟩ := nat?_eq_some_iff.mp hm
        rw [value_eq]
        exact Denotes.plain hne hd
  · rintro (⟨hne, hd⟩ | ⟨hne, hd⟩ | ⟨hne, hd⟩)
    · -- a digit is no sign, so the text is read as a run of digits
      rw [int?_of_ne, nat?_of hne hd, Option.map_some]
      · rintro r rfl
        exact absurd (hd '-' (by simp)) (by decide)
      · rintro r rfl
        exact absurd (hd '+' (by simp)) (by decide)
    · rw [int?_plus, nat?_of hne hd, Option.map_some]
    · rw [int?_minus, nat?_of hne hd, Option.map_some]

/-- A text denotes one integer at most. -/
theorem Denotes.unique {l : List Char} {m n : Int} (hm : Denotes l m) (hn : Denotes l n) :
    m = n :=
  Option.some.inj ((int?_eq_some_iff.mpr hm).symm.trans (int?_eq_some_iff.mpr hn))

/-- A text is read as a number of 64 bits with a sign exactly when it denotes that number. -/
theorem int64?_eq_some_iff {l : List Char} {n : Int64} :
    int64? l = some n ↔ Denotes l n.toInt := by
  simp only [int64?, Option.bind_eq_bind, Option.bind_eq_some_iff, int?_eq_some_iff,
    Option.ite_none_right_eq_some, Bool.and_eq_true, decide_eq_true_eq, Option.some.injEq]
  constructor
  · rintro ⟨m, hm, ⟨hlow, hhigh⟩, rfl⟩
    rwa [Int64.toInt_ofInt_of_le (by omega) (by omega)]
  · intro h
    have hlow := n.le_toInt
    have hhigh := n.toInt_lt
    exact ⟨n.toInt, h, ⟨by omega, by omega⟩, Int64.ofInt_toInt n⟩

/-! ### Writing -/

theorem denotes_ofInt (n : Int) : Denotes (ofInt n).toList n := by
  have digits : ∀ c ∈ Nat.toDigits 10 n.natAbs, isDigit c = true := fun c => isDigit_of_mem_toDigits
  have hval : Nat.ofDigitChars 10 (Nat.toDigits 10 n.natAbs) 0 = n.natAbs :=
    Nat.ofDigitChars_toDigits (by decide) (by decide)
  unfold ofInt ofNat
  split
  · have h := Denotes.minus Nat.toDigits_ne_nil digits
    rw [hval, show (-(n.natAbs : Int)) = n by omega] at h
    rwa [String.toList_append, String.toList_ofList, String.toList_ofList, List.singleton_append]
  · have h := Denotes.plain Nat.toDigits_ne_nil digits
    rw [hval, show (n.natAbs : Int) = n by omega] at h
    rwa [String.toList_ofList]

theorem mem_ofInt {n : Int} {c : Char} (h : c ∈ (ofInt n).toList) : c = '-' ∨ isDigit c = true := by
  unfold ofInt ofNat at h
  split at h
  · rw [String.toList_append, String.toList_ofList, String.toList_ofList, List.mem_append] at h
    exact h.imp List.mem_singleton.mp isDigit_of_mem_toDigits
  · rw [String.toList_ofList] at h
    exact Or.inr (isDigit_of_mem_toDigits h)

/-! ### Numbers of a fixed width -/

section Padded

variable {width n : Nat}

theorem toList_padded (width n : Nat) : (padded width n).toList =
    List.replicate (width - (Nat.toDigits 10 n).length) '0' ++ Nat.toDigits 10 n := by
  rw [padded, String.toList_ofList]

theorem isDigit_of_mem_padded {c : Char} (h : c ∈ (padded width n).toList) : isDigit c = true := by
  rw [toList_padded, List.mem_append] at h
  rcases h with h | h
  · rw [(List.mem_replicate.mp h).2]
    decide
  · exact isDigit_of_mem_toDigits h

/-- Filling with zeros does not change the number. -/
theorem value_padded (width n : Nat) : value (padded width n).toList = n := by
  rw [value_eq, toList_padded, Nat.ofDigitChars_append, Nat.ofDigitChars_replicate_zero,
    Nat.mul_zero, Nat.ofDigitChars_toDigits (by decide) (by decide)]

theorem length_padded (h : (Nat.toDigits 10 n).length ≤ width) :
    (padded width n).toList.length = width := by
  rw [toList_padded, List.length_append, List.length_replicate]
  omega

theorem padded_ne_nil (width n : Nat) : (padded width n).toList ≠ [] := by
  rw [toList_padded]
  simp [Nat.toDigits_ne_nil]

end Padded

end AssetAccess.Decimal
