import AssetAccess.Proofs.Account.KeyText
/-!
# The numbers of a key

A number of a key is written as an integer without a sign, or as a string of one or more digits
(`IsNumeral`).  What is read as a number is cut out of the text of a value by taking off the quotes
at either end, whatever kind of value it is, and the rest has to be digits.  Of all the values that
JSON has this lets through the numerals, and one more: of the empty string nothing is left, which is
read as 0 (`IsLooseNumeral`, `isComponent_source_iff`).

An escape does not get through, since a quote that is taken off together with the last one leaves
the backslash that stood before it.
-/

namespace AssetAccess.Account

open Json

/-- A value is a number as it is written in a key. -/
inductive IsNumeral : Tree → Nat → Prop where
  | integer {l : List Char} (h : NumberText.IsWhole l) :
      IsNumeral (.number l) (Nat.ofDigitChars 10 l 0)
  | digits {l : List Char} (h : NumberText.IsRun l) :
      IsNumeral (.string l) (Nat.ofDigitChars 10 l 0)

/-- A value is such a number, or it is the empty string, which counts as 0. -/
inductive IsLooseNumeral (t : Tree) (n : Nat) : Prop where
  | numeral (h : IsNumeral t n)
  | empty (ht : t = .string []) (hn : n = 0)

theorem IsNumeral.unique {t : Tree} {m n : Nat} (hm : IsNumeral t m) (hn : IsNumeral t n) :
    m = n := by
  cases hm <;> cases hn <;> rfl

theorem IsLooseNumeral.unique {t : Tree} {m n : Nat} (hm : IsLooseNumeral t m)
    (hn : IsLooseNumeral t n) : m = n := by
  have nonempty {n : Nat} (h : IsNumeral (.string []) n) : False := by
    cases h with
    | digits h => exact h.1 rfl
  rcases hm with hm | ⟨rfl, rfl⟩
  · rcases hn with hn | ⟨rfl, rfl⟩
    · exact hm.unique hn
    · exact (nonempty hm).elim
  · rcases hn with hn | ⟨-, rfl⟩
    · exact (nonempty hn).elim
    · rfl

/-- A number other than 0 is written as a numeral. -/
theorem IsLooseNumeral.isNumeral {t : Tree} {n : Nat} (h : IsLooseNumeral t n) (hn : n ≠ 0) :
    IsNumeral t n := by
  rcases h with h | ⟨-, hzero⟩
  · exact h
  · exact absurd hzero hn

/-- The digits of a number are a numeral. -/
theorem isNumeral_toDigits (n : Nat) : IsNumeral (.number (Nat.toDigits 10 n)) n := by
  have h := IsNumeral.integer (NumberText.isWhole_toDigits n)
  rwa [Nat.ofDigitChars_toDigits (by decide) (by decide)] at h

/-! ### Quotes -/

namespace KeyText

/-- Only quotes are taken off at the end of a text that does not start with one. -/
theorem exists_trimQuotes_append {c : Char} (hc : c ≠ '"') (l : List Char) :
    ∃ w, (∀ d ∈ w, d = '"') ∧ trimQuotes (c :: l) ++ w = c :: l := by
  have hfront : (c :: l).dropWhile (· == '"') = c :: l :=
    List.dropWhile_cons_of_neg (by simpa using hc)
  refine ⟨((c :: l).reverse.takeWhile (· == '"')).reverse, fun d hd => ?_, ?_⟩
  · have hquote := List.mem_takeWhile_imp (List.mem_reverse.mp hd)
    exact beq_iff_eq.mp hquote
  · rw [trimQuotes, hfront, ← List.reverse_append, List.takeWhile_append_dropWhile,
      List.reverse_reverse]

/-- The quotes around a text are taken off. -/
theorem trimQuotes_quoted {l : List Char} (h : l.head? ≠ some '"') :
    trimQuotes ('"' :: (l ++ ['"'])) = trimQuotes l := by
  cases l with
  | nil => rfl
  | cons c r =>
    have hc : ¬ (c == '"') = true := by simpa using h
    have hfront (s : List Char) : (c :: s).dropWhile (· == '"') = c :: s :=
      List.dropWhile_cons_of_neg hc
    have hquote : ('"' :: (c :: r ++ ['"'])).dropWhile (· == '"') = c :: (r ++ ['"']) := by
      rw [List.dropWhile_cons_of_pos (by decide), List.cons_append, hfront]
    rw [trimQuotes, trimQuotes, hquote, hfront, ← List.cons_append, List.reverse_append,
      List.reverse_singleton, List.singleton_append, List.dropWhile_cons_of_pos (by decide)]

theorem mem_trimQuotes_cons {c : Char} (hc : c ≠ '"') (l : List Char) :
    c ∈ trimQuotes (c :: l) := by
  obtain ⟨w, hw, heq⟩ := exists_trimQuotes_append hc l
  cases htrim : trimQuotes (c :: l) with
  | nil =>
    rw [htrim, List.nil_append] at heq
    exact absurd (hw c (by rw [heq]; exact List.mem_cons_self)) hc
  | cons d r =>
    rw [htrim, List.cons_append] at heq
    rw [(List.cons.inj heq).1]
    exact List.mem_cons_self

/-- What starts with another character than a quote or a digit is no component. -/
theorem not_isComponent_cons {c : Char} (hc : c ≠ '"') (hdigit : Decimal.isDigit c = false)
    (l : List Char) (n : Nat) : ¬ IsComponent (c :: l) n := by
  intro h
  have hmem := h.1 c (mem_trimQuotes_cons hc l)
  rw [hdigit] at hmem
  exact Bool.noConfusion hmem

/-! ### Numbers -/

theorem eq_nil_of_isPart {isMark : Char → Bool} {signed : Bool} {p : List Char}
    (hp : NumberText.IsPart isMark signed p) (hm : ∀ c, isMark c = true → Decimal.isDigit c = false)
    (hd : ∀ c ∈ p, Decimal.isDigit c = true) : p = [] := by
  cases hp with
  | absent => rfl
  | @present c _ _ hc =>
    have hdigit := hd c (by simp)
    rw [hm c hc] at hdigit
    exact Bool.noConfusion hdigit

/-- A number that consists of digits is its whole part alone. -/
theorem isWhole_of_isNumber {l : List Char} (h : NumberText.IsNumber l)
    (hd : ∀ c ∈ l, Decimal.isDigit c = true) : NumberText.IsWhole l := by
  obtain @⟨sign, whole, fraction, exponent, hs, hw, hf, he⟩ := h
  have hsign : sign = [] := by
    rcases hs with rfl | rfl
    · rfl
    · exact absurd (hd '-' (by simp)) (by decide)
  have hfraction : fraction = [] := by
    refine eq_nil_of_isPart hf (fun c hc => ?_) fun c hc => hd c (by simp [hc])
    rw [beq_iff_eq.mp hc]
    decide
  have hexponent : exponent = [] := by
    refine eq_nil_of_isPart he (fun c hc => ?_) fun c hc => hd c (by simp [hc])
    rcases Bool.or_eq_true_iff.mp hc with hc | hc
    · rw [beq_iff_eq.mp hc]
      decide
    · rw [beq_iff_eq.mp hc]
      decide
  rw [hsign, hfraction, hexponent, List.nil_append, List.append_nil, List.append_nil]
  exact hw

theorem ne_quote_of_isDigit {c : Char} (h : Decimal.isDigit c = true) : c ≠ '"' := by
  rintro rfl
  exact absurd h (by decide)

theorem ne_quote_of_mem_isPart {isMark : Char → Bool} {signed : Bool} {p : List Char}
    (hp : NumberText.IsPart isMark signed p) (hm : isMark '"' = false) {c : Char} (hc : c ∈ p) :
    c ≠ '"' := by
  cases hp with
  | absent => exact absurd hc List.not_mem_nil
  | present hmark hs hr =>
    rw [List.cons_append, List.mem_cons, List.mem_append] at hc
    rcases hc with rfl | hc | hc
    · rintro rfl
      rw [hm] at hmark
      exact Bool.noConfusion hmark
    · rcases hs with rfl | ⟨-, rfl | rfl⟩
      · exact absurd hc List.not_mem_nil
      · rw [List.mem_singleton.mp hc]
        decide
      · rw [List.mem_singleton.mp hc]
        decide
    · exact ne_quote_of_isDigit (hr.2 c hc)

theorem isDigit_of_mem_isWhole {l : List Char} (h : NumberText.IsWhole l) {c : Char}
    (hc : c ∈ l) : Decimal.isDigit c = true := by
  rcases h with rfl | h
  · rw [List.mem_singleton.mp hc]
    decide
  · exact h.1.2 c hc

theorem quote_not_mem_of_isNumber {l : List Char} (h : NumberText.IsNumber l) : '"' ∉ l := by
  obtain ⟨hs, hw, hf, he⟩ := h
  intro hc
  rw [List.mem_append, List.mem_append, List.mem_append] at hc
  rcases hc with ((hc | hc) | hc) | hc
  · rcases hs with rfl | rfl
    · exact absurd hc List.not_mem_nil
    · exact absurd hc (by decide)
  · exact absurd (isDigit_of_mem_isWhole hw hc) (by decide)
  · exact ne_quote_of_mem_isPart hf (by decide) hc rfl
  · exact ne_quote_of_mem_isPart he (by decide) hc rfl

/-- The digits of a component are a run of characters without quotes. -/
theorem isComponent_number_iff {l : List Char} (h : NumberText.IsNumber l) {n : Nat} :
    IsComponent l n ↔ NumberText.IsWhole l ∧ Nat.ofDigitChars 10 l 0 = n ∧ n < 256 ^ 32 := by
  have htrim : trimQuotes l = l := by
    obtain ⟨c, r, rfl, -⟩ := h.exists_cons
    have hc : c ≠ '"' := fun hc => quote_not_mem_of_isNumber h (by simp [hc])
    obtain ⟨w, hw, heq⟩ := exists_trimQuotes_append hc r
    cases w with
    | nil => rwa [List.append_nil] at heq
    | cons d w =>
      obtain rfl := hw d List.mem_cons_self
      exact absurd (by rw [← heq]; simp) (quote_not_mem_of_isNumber h)
  rw [IsComponent, htrim, Decimal.value_eq]
  exact and_congr_left' ⟨isWhole_of_isNumber h, fun hw c => isDigit_of_mem_isWhole hw⟩

/-! ### Strings -/

/-- No quote follows digits inside a string: only an escape covers one. -/
theorem eq_nil_of_isInside {u w : List Char} (h : StringText.IsInside (u ++ w))
    (hu : ∀ c ∈ u, Decimal.isDigit c = true) (hw : ∀ c ∈ w, c = '"') : w = [] := by
  induction u with
  | nil =>
    cases w with
    | nil => rfl
    | cons c w =>
      obtain rfl := hw c List.mem_cons_self
      cases h with
      | char _ hquote => exact absurd rfl hquote
  | cons c u ih =>
    rw [List.forall_mem_cons] at hu
    rw [List.cons_append] at h
    generalize hl : u ++ w = l at h
    cases h with
    | char _ _ _ h => exact ih (hl ▸ h) hu.2
    | letter => exact absurd hu.1 (by decide)
    | unit => exact absurd hu.1 (by decide)

/-- Only digits may stand inside a string that is a component, or nothing. -/
theorem isComponent_string_iff {l : List Char} (h : StringText.IsInside l) {n : Nat} :
    IsComponent ('"' :: (l ++ ['"'])) n ↔
      (∀ c ∈ l, Decimal.isDigit c = true) ∧ Nat.ofDigitChars 10 l 0 = n ∧ n < 256 ^ 32 := by
  have hhead : l.head? ≠ some '"' := by
    cases h with
    | nil => simp
    | char _ hquote => simpa using hquote
    | letter => simp
    | unit => simp
  rw [IsComponent, trimQuotes_quoted hhead, Decimal.value_eq]
  constructor
  · rintro ⟨hd, hn⟩
    have htrim : trimQuotes l = l := by
      cases l with
      | nil => rfl
      | cons c r =>
        obtain ⟨w, hw, heq⟩ := exists_trimQuotes_append (by simpa using hhead) r
        rw [← heq] at h
        obtain rfl := eq_nil_of_isInside h hd hw
        rwa [List.append_nil] at heq
    rw [htrim] at hd hn
    exact ⟨hd, hn⟩
  · rintro ⟨hd, hn⟩
    rw [trimQuotes_of_isDigit hd]
    exact ⟨hd, hn⟩

/-! ### Values -/

/-- **The components of a key** are the numerals that fit 32 bytes, and the empty string. -/
theorem isComponent_source_iff {t : Tree} {p : List Char} (h : Tree.Spells t p) {n : Nat} :
    IsComponent t.source n ↔ IsLooseNumeral t n ∧ n < 256 ^ 32 := by
  rw [h.source_eq]
  -- a value of another kind starts with a letter, a bracket or a brace
  have other {c : Char} {l : List Char} (hc : c ≠ '"') (hdigit : Decimal.isDigit c = false)
      (hno : ¬ IsLooseNumeral t n) : IsComponent (c :: l) n ↔ IsLooseNumeral t n ∧ n < 256 ^ 32 :=
    iff_of_false (not_isComponent_cons hc hdigit l n) fun h => hno h.1
  have noNumeral (ht : ∀ l, t ≠ .number l) (ht' : ∀ l, t ≠ .string l) : ¬ IsLooseNumeral t n := by
    rintro (h | ⟨rfl, -⟩)
    · cases h with
      | integer => exact ht _ rfl
      | digits => exact ht' _ rfl
    · exact ht' _ rfl
  cases h with
  | number h =>
    rw [isComponent_number_iff h, ← and_assoc]
    refine and_congr_left' ⟨?_, ?_⟩
    · rintro ⟨hw, rfl⟩
      exact .numeral (.integer hw)
    · rintro (h | ⟨ht, -⟩)
      · cases h with
        | integer hw => exact ⟨hw, rfl⟩
      · exact absurd ht (by simp)
  | @string l h =>
    rw [isComponent_string_iff h, ← and_assoc]
    refine and_congr_left' ⟨?_, ?_⟩
    · rintro ⟨hd, rfl⟩
      by_cases hl : l = []
      · subst hl
        exact .empty rfl rfl
      · exact .numeral (.digits ⟨hl, hd⟩)
    · rintro (h | ⟨ht, rfl⟩)
      · cases h with
        | digits h => exact ⟨h.2, rfl⟩
      · obtain rfl := Tree.string.inj ht
        exact ⟨by simp, rfl⟩
  | _ => exact other (by decide) (by decide) (noNumeral (by simp) (by simp))

end KeyText

end AssetAccess.Account
