import AssetAccess.Proofs.Text.Blank
import AssetAccess.Proofs.Time.Calendar
import AssetAccess.Time.SignDate
import Mathlib.Tactic.SplitIfs
/-!
# Sign dates can be read back

What is written for an instant denotes that instant, cut to its second (`parse?_format`).  Every
number of a date is written with digits only and stands before a mark that is no digit, so a reader
takes exactly the digits that were written (`digits?_append`); the date itself comes back by
`Calendar.dayNumber_ofDayNumber`.  A reader knows no fractions of a second, so what has been read is
not cut when it is written again (`truncated_of_parse?`).

A written date holds digits and five marks (`mem_format`), and so neither a slash nor anything
beyond printable ASCII.
-/

namespace AssetAccess

/-- The instant without its fraction of a second; a leap second stays one. -/
def Instant.truncated (t : Instant) : Instant where
  second := t.second
  nano := if t.nano < 1000000000 then 0 else 1000000000
  firstSecond_le := t.firstSecond_le
  le_lastSecond := t.le_lastSecond
  nano_lt := by
    split
    · exact Or.inl (by decide)
    · rename_i h
      exact Or.inr ⟨by decide, (t.nano_lt.resolve_left h).2⟩

theorem Instant.of?_eq_some_iff {second : Int} {nano : Nat} {t : Instant} :
    Instant.of? second nano = some t ↔ t.second = second ∧ t.nano = nano := by
  unfold Instant.of?
  constructor
  · intro h
    split at h
    · rw [← Option.some.inj h]
      exact ⟨rfl, rfl⟩
    · simp at h
  · rintro ⟨rfl, rfl⟩
    rw [dif_pos ⟨t.firstSecond_le, t.le_lastSecond, t.nano_lt⟩]

/-- The seconds that an instant can start with. -/
theorem Instant.exists_of?_iff {second : Int} :
    (∃ t, Instant.of? second 0 = some t) ↔ firstSecond ≤ second ∧ second ≤ lastSecond := by
  constructor
  · rintro ⟨t, h⟩
    obtain ⟨rfl, -⟩ := Instant.of?_eq_some_iff.mp h
    exact ⟨t.firstSecond_le, t.le_lastSecond⟩
  · rintro ⟨hfirst, hlast⟩
    exact ⟨⟨second, 0, hfirst, hlast, Or.inl (by decide)⟩, Instant.of?_eq_some_iff.mpr ⟨rfl, rfl⟩⟩

/-- Cutting off the fraction changes nothing where there is none. -/
theorem Instant.truncated_eq_self_iff {t : Instant} :
    t.truncated = t ↔ t.nano = 0 ∨ t.nano = 1000000000 := by
  constructor
  · intro h
    have hnano : (if t.nano < 1000000000 then 0 else 1000000000) = t.nano :=
      congrArg Instant.nano h
    split at hnano
    · exact Or.inl hnano.symm
    · exact Or.inr hnano.symm
  · intro h
    have hnano : (if t.nano < 1000000000 then 0 else 1000000000) = t.nano := by
      split <;> omega
    cases t
    simp only [Instant.truncated, Instant.mk.injEq, true_and]
    exact hnano

namespace SignDate

open Calendar

/-! ### Readers -/

/-- A reader takes a run of digits that ends at a mark, if it is not too long. -/
theorem digits?_append {most : Nat} {run l : List Char} {mark : Char} (hne : run ≠ [])
    (hd : ∀ c ∈ run, Decimal.isDigit c = true) (hlen : run.length ≤ most)
    (hmark : Decimal.isDigit mark = false) :
    digits? most (run ++ mark :: l) = some (Decimal.value run, mark :: l) := by
  have htake : (run ++ mark :: l).take most = run ++ (mark :: l).take (most - run.length) := by
    rw [List.take_append, List.take_of_length_le hlen]
  have hstop : ((mark :: l).take (most - run.length)).takeWhile Decimal.isDigit = [] := by
    cases most - run.length with
    | zero => rfl
    | succ k => rw [List.take_succ_cons, List.takeWhile_cons, hmark]; rfl
  have hrun : ((run ++ mark :: l).take most).takeWhile Decimal.isDigit = run := by
    rw [htake, List.takeWhile_append_of_pos hd, hstop, List.append_nil]
  simp only [digits?, hrun, List.isEmpty_iff, hne, if_false, List.drop_left]

theorem number?_padded {n : Nat} (hn : n < 100) {mark : Char}
    (hmark : Decimal.isDigit mark = false) (l : List Char) :
    number? ((Decimal.padded 2 n).toList ++ mark :: l) = some (n, mark :: l) := by
  have hd : ∀ c ∈ (Decimal.padded 2 n).toList, Decimal.isDigit c = true :=
    fun c => Decimal.isDigit_of_mem_padded
  have hskip : Text.skipBlanks ((Decimal.padded 2 n).toList ++ mark :: l)
      = (Decimal.padded 2 n).toList ++ mark :: l := by
    obtain ⟨c, r, hcr⟩ := List.exists_cons_of_ne_nil (Decimal.padded_ne_nil 2 n)
    rw [hcr, List.cons_append]
    exact Text.skipBlanks_cons (Text.isBlank_of_isDigit (hd c (by simp [hcr]))) _
  have hlen : (Nat.toDigits 10 n).length ≤ 2 :=
    (Nat.length_toDigits_le_iff (by decide) (by decide)).mpr hn
  rw [number?, hskip, digits?_append (Decimal.padded_ne_nil _ _) hd
    (Decimal.length_padded hlen).le hmark, Decimal.value_padded]

theorem mark?_cons (c : Char) (l : List Char) : mark? c (c :: l) = some l := by
  rw [mark?, if_pos rfl]

/-- A signed year is read to its end, however many digits it has. -/
theorem digits?_signed {n : Nat} {mark : Char} (hmark : Decimal.isDigit mark = false)
    (l : List Char) :
    digits? ((Decimal.padded 4 n).toList ++ mark :: l).length
      ((Decimal.padded 4 n).toList ++ mark :: l) = some (n, mark :: l) := by
  rw [digits?_append (Decimal.padded_ne_nil _ _) (fun c => Decimal.isDigit_of_mem_padded) _ hmark,
    Decimal.value_padded]
  rw [List.length_append]
  omega

theorem year?_yearText (y : Int) {mark : Char} (hmark : Decimal.isDigit mark = false)
    (l : List Char) : year? ((yearText y).toList ++ mark :: l) = some (y, mark :: l) := by
  unfold yearText
  split
  · rename_i hy
    simp only [Bool.and_eq_true, decide_eq_true_eq] at hy
    -- four digits, and the first of them is neither white space nor a sign
    obtain ⟨c, r, hcr⟩ := List.exists_cons_of_ne_nil (Decimal.padded_ne_nil 4 y.toNat)
    have hd : ∀ c ∈ (Decimal.padded 4 y.toNat).toList, Decimal.isDigit c = true :=
      fun c => Decimal.isDigit_of_mem_padded
    have hlen : (Nat.toDigits 10 y.toNat).length ≤ 4 :=
      (Nat.length_toDigits_le_iff (by decide) (by decide)).mpr (by omega)
    have hc := hd c (by simp [hcr])
    have hread := digits?_append (l := l) (Decimal.padded_ne_nil _ _) hd
      (Decimal.length_padded hlen).le hmark
    rw [hcr, List.cons_append] at hread ⊢
    rw [year?, Text.skipBlanks_cons (Text.isBlank_of_isDigit hc)]
    split
    · rename_i h
      rw [(List.cons.inj h).1] at hc
      exact absurd hc (by decide)
    · rename_i h
      rw [(List.cons.inj h).1] at hc
      exact absurd hc (by decide)
    · rw [hread, ← hcr, Decimal.value_padded, Option.map_some]
      simp only [Int.toNat_of_nonneg hy.1]
  · rename_i hy
    simp only [Bool.and_eq_true, decide_eq_true_eq, not_and] at hy
    split
    · rw [String.toList_append, String.toList_ofList, List.singleton_append, List.cons_append,
        year?, Text.skipBlanks_cons (by decide)]
      simp only [digits?_signed hmark l, Option.map_some]
      rw [show -(y.natAbs : Int) = y by omega]
    · rw [String.toList_append, String.toList_ofList, List.singleton_append, List.cons_append,
        year?, Text.skipBlanks_cons (by decide)]
      simp only [digits?_signed hmark l, Option.map_some]
      rw [show (y.natAbs : Int) = y by omega]

/-! ### Whole dates -/

theorem toList_format (t : Instant) :
    let date := Date.ofDayNumber (t.second / 86400)
    let s := (t.second % 86400).toNat
    (format t).toList = (yearText date.year).toList ++ '-' ::
      ((Decimal.padded 2 date.month).toList ++ '-' :: ((Decimal.padded 2 date.day).toList ++ 'T' ::
        ((Decimal.padded 2 (s / 3600)).toList ++ ':' :: ((Decimal.padded 2 (s / 60 % 60)).toList ++
          ':' :: ((Decimal.padded 2 (s % 60 + t.nano / 1000000000)).toList ++ 'Z' :: []))))) := by
  simp [format]

/-- The date and the time of day of an instant lead back to it. -/
theorem instant?_of_instant (t : Instant) :
    let s := (t.second % 86400).toNat
    instant? (Date.ofDayNumber (t.second / 86400)) (s / 3600) (s / 60 % 60)
      (s % 60 + t.nano / 1000000000) = some t.truncated := by
  have hnano := t.nano_lt
  have hs : (t.second % 86400).toNat < 86400 := by omega
  have hint : ((t.second % 86400).toNat : Int) = t.second % 86400 := by omega
  simp only [instant?, exists_ofDayNumber, dayNumber_ofDayNumber, Bool.true_and]
  generalize hsec : (t.second % 86400).toNat = s at hs hint ⊢
  have hleap : t.nano / 1000000000 = 0 ∧ t.nano < 1000000000 ∨
      t.nano / 1000000000 = 1 ∧ ¬ t.nano < 1000000000 ∧ s % 60 = 59 := by omega
  rw [if_pos, Instant.of?_eq_some_iff]
  · rcases hleap with ⟨h0, hn⟩ | ⟨h1, hn, h59⟩
    · rw [h0, if_neg (by omega)]
      simp only [Instant.truncated, hn, if_true, and_true]
      omega
    · rw [h1, h59, if_pos rfl]
      simp only [Instant.truncated, hn, if_false, and_true]
      omega
  · simp only [Bool.and_eq_true, decide_eq_true_eq]
    omega

/-- A written date is read as the instant that it was written for, cut to its second. -/
theorem parse?_format (t : Instant) : parse? (format t) = some t.truncated := by
  have hdate := exists_ofDayNumber (t.second / 86400)
  simp only [Date.exists, Bool.and_eq_true, decide_eq_true_eq] at hdate
  have hmonth : (Date.ofDayNumber (t.second / 86400)).month < 100 := by omega
  have hday : (Date.ofDayNumber (t.second / 86400)).day < 100 := by
    refine Nat.lt_of_le_of_lt hdate.2 ?_
    unfold daysInMonth
    split_ifs <;> omega
  have hs : (t.second % 86400).toNat < 86400 := by omega
  have hhour : (t.second % 86400).toNat / 3600 < 100 := by omega
  have hminute : (t.second % 86400).toNat / 60 % 60 < 100 := by omega
  have hsecond : (t.second % 86400).toNat % 60 + t.nano / 1000000000 < 100 := by
    have := t.nano_lt
    omega
  have hdash : Decimal.isDigit '-' = false := by decide
  have hcolon : Decimal.isDigit ':' = false := by decide
  have htime : Decimal.isDigit 'T' = false := by decide
  have hzone : Decimal.isDigit 'Z' = false := by decide
  -- each number is read to the mark behind it, and the mark is taken off
  rw [parse?, toList_format]
  simp only [year?_yearText _ hdash, number?_padded hmonth hdash, number?_padded hday htime,
    number?_padded hhour hcolon, number?_padded hminute hcolon, number?_padded hsecond hzone,
    mark?_cons, Option.bind_eq_bind, Option.bind_some, List.isEmpty_nil, if_true]
  exact instant?_of_instant t

/-! ### Dates that can be read -/

theorem mem_yearText {y : Int} {c : Char} (h : c ∈ (yearText y).toList) :
    Decimal.isDigit c = true ∨ c = '-' ∨ c = '+' := by
  unfold yearText at h
  split at h
  · exact Or.inl (Decimal.isDigit_of_mem_padded h)
  · rw [String.toList_append, List.mem_append] at h
    rcases h with h | h
    · split at h
      · exact Or.inr (Or.inl (by simpa using h))
      · exact Or.inr (Or.inr (by simpa using h))
    · exact Or.inl (Decimal.isDigit_of_mem_padded h)

/-- The characters of a written date. -/
theorem mem_format {t : Instant} {c : Char} (h : c ∈ (format t).toList) :
    Decimal.isDigit c = true ∨ c ∈ ['-', '+', 'T', ':', 'Z'] := by
  rw [toList_format] at h
  simp only [List.mem_append, List.mem_cons, List.not_mem_nil, or_false] at h
  have digit {width n : Nat} (h : c ∈ (Decimal.padded width n).toList) :
      Decimal.isDigit c = true ∨ c ∈ ['-', '+', 'T', ':', 'Z'] :=
    Or.inl (Decimal.isDigit_of_mem_padded h)
  rcases h with h | rfl | h | rfl | h | rfl | h | rfl | h | rfl | h | rfl
  · rcases mem_yearText h with h | rfl | rfl
    · exact Or.inl h
    · exact Or.inr (by decide)
    · exact Or.inr (by decide)
  · exact Or.inr (by decide)
  · exact digit h
  · exact Or.inr (by decide)
  · exact digit h
  · exact Or.inr (by decide)
  · exact digit h
  · exact Or.inr (by decide)
  · exact digit h
  · exact Or.inr (by decide)
  · exact digit h
  · exact Or.inr (by decide)

end SignDate

end AssetAccess
