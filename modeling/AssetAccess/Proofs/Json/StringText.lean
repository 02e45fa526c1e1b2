import AssetAccess.Json.StringText
/-!
# Strings as they are written

`IsInside` is the grammar of what stands between the quotes of a string, and `Denotes` says which
text that stands for.  A string ends at the first quote that no escape covers (`isInside_of_scan`,
`scan_append`).  All of what a string may hold is scanned, but an escape that names one half of a
surrogate pair without the other denotes nothing (`decode?_eq_some_iff`).  What is written for a
text may stand between quotes and denotes the text (`isInside_encode`, `denotes_encode`).
-/

namespace AssetAccess.Json.StringText

/-- The grammar of the inside of a string: characters, escapes of one letter, and escapes of four
hexadecimal digits. -/
inductive IsInside : List Char → Prop where
  | nil : IsInside []
  | char {c : Char} {l : List Char} (hc : ¬ c < ' ') (hquote : c ≠ '"') (hslash : c ≠ '\\')
      (h : IsInside l) : IsInside (c :: l)
  | letter {c : Char} {l : List Char} (hc : (unescapeLetter? c).isSome = true) (h : IsInside l) :
      IsInside ('\\' :: c :: l)
  | unit {a b c d : Char} {l : List Char} (hu : (unit? a b c d).isSome = true) (h : IsInside l) :
      IsInside ('\\' :: 'u' :: a :: b :: c :: d :: l)

/-- The inside of a string stands for a text.  A character beyond 16 bits is escaped as a surrogate
pair. -/
inductive Denotes : List Char → List Char → Prop where
  | nil : Denotes [] []
  | char {c : Char} {l text : List Char} (hc : c ≠ '\\') (h : Denotes l text) :
      Denotes (c :: l) (c :: text)
  | letter {c d : Char} {l text : List Char} (hc : unescapeLetter? c = some d)
      (h : Denotes l text) : Denotes ('\\' :: c :: l) (d :: text)
  | unit {a b c d : Char} {n : Nat} {l text : List Char} (hn : unit? a b c d = some n)
      (hlow : isLowHalf n = false) (hhigh : isHighHalf n = false) (h : Denotes l text) :
      Denotes ('\\' :: 'u' :: a :: b :: c :: d :: l) (Char.ofNat n :: text)
  | pair {a b c d e f g k : Char} {n m : Nat} {l text : List Char} (hn : unit? a b c d = some n)
      (hhigh : isHighHalf n = true) (hm : unit? e f g k = some m) (hlow : isLowHalf m = true)
      (h : Denotes l text) :
      Denotes ('\\' :: 'u' :: a :: b :: c :: d :: '\\' :: 'u' :: e :: f :: g :: k :: l)
        (Char.ofNat (0x10000 + 1024 * (n - 0xD800) + (m - 0xDC00)) :: text)

/-! ### The end of a string -/

/-- What stands before the quote that ends a string has the form that it must have. -/
theorem isInside_of_scan {l raw rest : List Char} (h : scan l = some (raw, rest)) :
    l = raw ++ '"' :: rest ∧ IsInside raw := by
  fun_induction scan l generalizing raw rest with
  | case1 l =>
    obtain ⟨rfl, rfl⟩ := Prod.mk.inj (Option.some.inj h)
    exact ⟨rfl, .nil⟩
  | case2 a b c d l hu ih =>
    obtain ⟨⟨raw', rest'⟩, hs, he⟩ := Option.map_eq_some_iff.mp h
    obtain ⟨rfl, rfl⟩ := Prod.mk.inj he
    obtain ⟨rfl, hi⟩ := ih hs
    exact ⟨rfl, .unit hu hi⟩
  | case3 a b c d l hu => exact absurd h (by simp)
  | case4 c l hno hc ih =>
    obtain ⟨⟨raw', rest'⟩, hs, he⟩ := Option.map_eq_some_iff.mp h
    obtain ⟨rfl, rfl⟩ := Prod.mk.inj he
    obtain ⟨rfl, hi⟩ := ih hs
    exact ⟨rfl, .letter hc hi⟩
  | case5 c l hno hc => exact absurd h (by simp)
  | case6 c l hquote hu hletter hbad => exact absurd h (by simp)
  | case7 c l hquote hu hletter hbad ih =>
    obtain ⟨⟨raw', rest'⟩, hs, he⟩ := Option.map_eq_some_iff.mp h
    obtain ⟨rfl, rfl⟩ := Prod.mk.inj he
    obtain ⟨rfl, hi⟩ := ih hs
    rw [Bool.or_eq_true, decide_eq_true_eq, decide_eq_true_eq, not_or] at hbad
    exact ⟨rfl, .char hbad.1 hquote hbad.2 hi⟩
  | case8 => exact absurd h (by simp)

/-- A string ends at the quote behind its inside. -/
theorem scan_append {raw : List Char} (h : IsInside raw) (rest : List Char) :
    scan (raw ++ '"' :: rest) = some (raw, rest) := by
  induction h with
  | nil => rfl
  | @char c l hc hquote hslash h ih =>
    -- the character is none of those that the earlier cases of the scanner take
    rw [List.cons_append, scan, ih]
    · simp [hc, hslash]
    · exact hquote
    · rintro _ _ _ _ _ rfl
      exact absurd rfl hslash
    · rintro _ _ rfl
      exact absurd rfl hslash
  | @letter c l hc h ih =>
    rw [List.cons_append, List.cons_append, scan, if_pos hc, ih]
    · rfl
    · rintro _ _ _ _ _ rfl
      exact absurd hc (by decide)
  | @unit a b c d l hu h ih =>
    simp only [List.cons_append]
    rw [scan, if_pos hu, ih]
    rfl

/-! ### What a string stands for -/

theorem isLowHalf_of_isHighHalf {n : Nat} (h : isHighHalf n = true) : isLowHalf n = false := by
  simp only [isHighHalf, isLowHalf, Bool.and_eq_true, Bool.and_eq_false_iff, decide_eq_true_eq,
    decide_eq_false_iff_not] at h ⊢
  omega

theorem decode?_of_denotes {l text : List Char} (h : Denotes l text) : decode? l = some text := by
  induction h with
  | nil => rfl
  | char hc h ih =>
    rw [decode?, ih]
    · simp [hc]
    · rintro _ _ _ _ _ rfl
      exact absurd rfl hc
    · rintro _ _ rfl
      exact absurd rfl hc
  | letter hc h ih =>
    rw [decode?, ih]
    · simp [hc]
    · rintro _ _ _ _ _ rfl
      rw [show unescapeLetter? 'u' = none from rfl] at hc
      exact absurd hc (by simp)
  | unit hn hlow hhigh h ih =>
    rw [decode?]
    simp [hn, hlow, hhigh, ih]
  | pair hn hhigh hm hlow h ih =>
    rw [decode?]
    simp [hn, isLowHalf_of_isHighHalf hhigh, hhigh, hm, hlow, ih]

theorem denotes_of_decode? {l text : List Char} (h : decode? l = some text) : Denotes l text := by
  fun_induction decode? l generalizing text with
  | case1 =>
    obtain rfl := Option.some.inj h
    exact .nil
  | case2 a b c d l ihpair ih =>
    obtain ⟨n, hn, h⟩ := Option.bind_eq_some_iff.mp h
    split at h
    · exact absurd h (by simp)
    · rename_i hlow
      split at h
      · -- a high half counts only together with the low half behind it
        rename_i hhigh
        split at h
        · rename_i e f g k l
          obtain ⟨m, hm, h⟩ := Option.bind_eq_some_iff.mp h
          split at h
          · rename_i hpair
            obtain ⟨text', ht, h⟩ := Option.bind_eq_some_iff.mp h
            obtain rfl := Option.some.inj h
            exact .pair hn hhigh hm hpair (ihpair ht)
          · exact absurd h (by simp)
        · exact absurd h (by simp)
      · rename_i hhigh
        obtain ⟨text', ht, h⟩ := Option.bind_eq_some_iff.mp h
        obtain rfl := Option.some.inj h
        exact .unit hn (by simpa using hlow) (by simpa using hhigh) (ih ht)
  | case3 c l hunit ih =>
    obtain ⟨d, hd, h⟩ := Option.bind_eq_some_iff.mp h
    obtain ⟨text', ht, h⟩ := Option.bind_eq_some_iff.mp h
    obtain rfl := Option.some.inj h
    exact .letter hd (ih ht)
  | case4 => exact absurd h (by simp)
  | case5 c l hunit hletter hc ih =>
    obtain ⟨text', ht, rfl⟩ := Option.map_eq_some_iff.mp h
    exact .char hc (ih ht)

/-- A string is decoded as the text that it stands for, and otherwise it is not decoded. -/
theorem decode?_eq_some_iff {l text : List Char} : decode? l = some text ↔ Denotes l text :=
  ⟨denotes_of_decode?, decode?_of_denotes⟩

/-- A text is no longer than what stands for it. -/
theorem Denotes.length_le {l text : List Char} (h : Denotes l text) : text.length ≤ l.length := by
  induction h with
  | nil => exact Nat.le_refl 0
  | char _ _ ih => simpa using ih
  | _ =>
    simp only [List.length_cons]
    omega

/-! ### Writing -/

/-- The four digits that are written for a control character are its number. -/
theorem unit?_control {c : Char} (h : c < ' ') :
    unit? '0' '0' (Hex.digit (c.toNat / 16)) (Hex.digit (c.toNat % 16)) = some c.toNat := by
  have hc : c.toNat < 32 := h
  have hzero : Hex.value? '0' = some 0 := rfl
  have hhigh := Hex.value?_digit (n := c.toNat / 16) (by omega)
  have hlow := Hex.value?_digit (n := c.toNat % 16) (by omega)
  have hsum : 4096 * 0 + 256 * 0 + 16 * (c.toNat / 16) + c.toNat % 16 = c.toNat := by omega
  rw [unit?, hzero, hhigh, hlow]
  exact congrArg some hsum

theorem isInside_escape_append (c : Char) {l : List Char} (h : IsInside l) :
    IsInside ((escape? c).getD [c] ++ l) := by
  unfold escape?
  split
  case h_8 hquote hslash _ _ _ _ _ =>
    by_cases hc : c < ' '
    · rw [if_pos hc]
      exact .unit (by rw [unit?_control hc]; rfl) h
    · rw [if_neg hc]
      exact .char hc hquote hslash h
  all_goals exact .letter rfl h

theorem denotes_escape_append (c : Char) {l text : List Char} (h : Denotes l text) :
    Denotes ((escape? c).getD [c] ++ l) (c :: text) := by
  unfold escape?
  split
  case h_8 _ hslash _ _ _ _ _ =>
    by_cases hc : c < ' '
    · have hlt : c.toNat < 32 := hc
      have hunit : Denotes _ (Char.ofNat c.toNat :: text) := .unit (unit?_control hc)
        (by simp [isLowHalf]; omega) (by simp [isHighHalf]; omega) h
      rw [Char.ofNat_toNat] at hunit
      rw [if_pos hc]
      exact hunit
    · rw [if_neg hc]
      exact .char hslash h
  all_goals exact .letter rfl h

/-- What is written for a text may stand between quotes. -/
theorem isInside_encode (l : List Char) : IsInside (encode l) := by
  induction l with
  | nil => exact .nil
  | cons c l ih => exact isInside_escape_append c ih

/-- What is written for a text denotes it. -/
theorem denotes_encode (l : List Char) : Denotes (encode l) l := by
  induction l with
  | nil => exact .nil
  | cons c l ih => exact denotes_escape_append c ih

end AssetAccess.Json.StringText
