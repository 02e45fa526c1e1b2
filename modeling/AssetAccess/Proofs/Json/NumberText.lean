import AssetAccess.Json.NumberText
import AssetAccess.Proofs.Json.Float64
import AssetAccess.Proofs.Text.Decimal
import Mathlib.Data.List.TakeDrop
import Mathlib.Data.List.TakeWhile
/-!
# Numbers as they are written

`IsNumber` is the grammar of numbers: a hyphen or nothing, a whole part without leading zeros, and
a fraction and an exponent, either of which may be missing.  A number is taken from the start of a
text only if it has this form (`isNumber_of_scan`), and it is taken whole if no character follows
that could go on with it (`scan_append`).  The digits that are written for a number have this form
(`isNumber_toDigits`), and so has what is written for an integer (`isNumber_ofInt`).

A number is read as a float in steps, each of which rounds.  Where it has digits alone and they fit
64 bits there is one step only, and the float is the nearest one (`float?_of_isRun`).
-/

namespace AssetAccess.Json.NumberText

/-- One or more digits. -/
def IsRun (l : List Char) : Prop := l ≠ [] ∧ ∀ c ∈ l, Decimal.isDigit c = true

/-- A part that may be missing: a mark, a sign where there may be one, and digits. -/
inductive IsPart (isMark : Char → Bool) (signed : Bool) : List Char → Prop where
  | absent : IsPart isMark signed []
  | present {c : Char} {sign run : List Char} (hc : isMark c = true)
      (hs : sign = [] ∨ signed = true ∧ (sign = ['+'] ∨ sign = ['-'])) (hr : IsRun run) :
      IsPart isMark signed (c :: sign ++ run)

/-- The whole part of a number: zero, or digits of which the first one is not zero. -/
def IsWhole (l : List Char) : Prop := l = ['0'] ∨ IsRun l ∧ l.head? ≠ some '0'

/-- The grammar of numbers. -/
inductive IsNumber : List Char → Prop where
  | mk {sign whole fraction exponent : List Char} (hs : sign = [] ∨ sign = ['-'])
      (hw : IsWhole whole) (hf : IsPart (· == '.') false fraction)
      (he : IsPart (fun c => c == 'e' || c == 'E') true exponent) :
      IsNumber (sign ++ whole ++ fraction ++ exponent)

/-- No text of this kind starts here. -/
def Ends (p : Char → Bool) (rest : List Char) : Prop := ∀ c ∈ rest.head?, p c = false

/-- A character that can go on with a number. -/
def goesOn (c : Char) : Bool := Decimal.isDigit c || c == '.' || c == 'e' || c == 'E'

/-! ### Digits -/

theorem digits_append {run rest : List Char} (hr : ∀ c ∈ run, Decimal.isDigit c = true)
    (he : Ends Decimal.isDigit rest) : digits (run ++ rest) = (run, rest) := by
  have hrest : rest.takeWhile Decimal.isDigit = [] ∧ rest.dropWhile Decimal.isDigit = rest := by
    cases rest with
    | nil => exact ⟨rfl, rfl⟩
    | cons c l =>
      have hc := he c rfl
      exact ⟨List.takeWhile_cons_of_neg (by simp [hc]), List.dropWhile_cons_of_neg (by simp [hc])⟩
  rw [digits, List.span_eq_takeWhile_dropWhile, List.takeWhile_append_of_pos hr,
    List.dropWhile_append_of_pos hr, hrest.1, hrest.2, List.append_nil]

theorem of_digits {l run rest : List Char} (h : digits l = (run, rest)) :
    l = run ++ rest ∧ ∀ c ∈ run, Decimal.isDigit c = true := by
  rw [digits, List.span_eq_takeWhile_dropWhile, Prod.mk.injEq] at h
  obtain ⟨rfl, rfl⟩ := h
  exact ⟨List.takeWhile_append_dropWhile.symm, fun c => List.mem_takeWhile_imp⟩

theorem isRun_of_digits {l run rest : List Char} (h : digits l = (run, rest))
    (hne : run.isEmpty = false) : l = run ++ rest ∧ IsRun run := by
  obtain ⟨hl, hd⟩ := of_digits h
  exact ⟨hl, List.isEmpty_eq_false_iff.mp hne, hd⟩

theorem IsRun.isEmpty {l : List Char} (h : IsRun l) : l.isEmpty = false :=
  List.isEmpty_eq_false_iff.mpr h.1

theorem IsRun.exists_cons {l : List Char} (h : IsRun l) :
    ∃ c r, l = c :: r ∧ Decimal.isDigit c = true := by
  obtain ⟨c, r, rfl⟩ := List.exists_cons_of_ne_nil h.1
  exact ⟨c, r, rfl, h.2 c List.mem_cons_self⟩

/-! ### Parts -/

section Parts

variable {isMark : Char → Bool} {signed : Bool} {l p rest : List Char}

/-- The sign behind a mark, and the rest. -/
def splitSign (signed : Bool) (l : List Char) : List Char × List Char :=
  match signed, l with
  | true, '+' :: r => (['+'], r)
  | true, '-' :: r => (['-'], r)
  | _, r => ([], r)

theorem part?_cons {c : Char} (hc : isMark c = true) (r : List Char) :
    part? isMark signed (c :: r) =
      let run := digits (splitSign signed r).2
      if run.1.isEmpty then none else some (c :: (splitSign signed r).1 ++ run.1, run.2) := by
  unfold part?
  dsimp only
  rw [if_neg (by simp [hc])]
  rfl

theorem part?_of_not {c : Char} (hc : isMark c = false) (r : List Char) :
    part? isMark signed (c :: r) = some ([], c :: r) := by
  unfold part?
  exact if_pos (by simp [hc])

theorem of_splitSign {sign r : List Char} (h : splitSign signed l = (sign, r)) :
    l = sign ++ r ∧ (sign = [] ∨ signed = true ∧ (sign = ['+'] ∨ sign = ['-'])) := by
  unfold splitSign at h
  split at h <;> obtain ⟨rfl, rfl⟩ := Prod.mk.inj h
  · exact ⟨rfl, Or.inr ⟨rfl, Or.inl rfl⟩⟩
  · exact ⟨rfl, Or.inr ⟨rfl, Or.inr rfl⟩⟩
  · exact ⟨rfl, Or.inl rfl⟩

theorem splitSign_append {sign run : List Char}
    (hs : sign = [] ∨ signed = true ∧ (sign = ['+'] ∨ sign = ['-'])) (hr : IsRun run) :
    splitSign signed (sign ++ (run ++ rest)) = (sign, run ++ rest) := by
  rcases hs with rfl | ⟨rfl, rfl | rfl⟩
  · obtain ⟨c, r, rfl, hc⟩ := hr.exists_cons
    unfold splitSign
    split
    · rename_i heq
      obtain ⟨rfl, -⟩ := List.cons.inj heq
      exact absurd hc (by decide)
    · rename_i heq
      obtain ⟨rfl, -⟩ := List.cons.inj heq
      exact absurd hc (by decide)
    · rfl
  · rfl
  · rfl

theorem isPart_of_part? (h : part? isMark signed l = some (p, rest)) :
    l = p ++ rest ∧ IsPart isMark signed p := by
  cases l with
  | nil =>
    obtain ⟨rfl, rfl⟩ := Prod.mk.inj (Option.some.inj h)
    exact ⟨rfl, .absent⟩
  | cons c r =>
    by_cases hc : isMark c = true
    · rw [part?_cons hc] at h
      dsimp only at h
      split at h
      · exact absurd h (by simp)
      · rename_i hne
        obtain ⟨rfl, rfl⟩ := Prod.mk.inj (Option.some.inj h)
        obtain ⟨hr, hs⟩ := of_splitSign (Prod.eta (splitSign signed r)).symm
        obtain ⟨hd, hrun⟩ := isRun_of_digits (Prod.eta (digits (splitSign signed r).2)).symm
          (by simpa using hne)
        refine ⟨?_, .present hc hs hrun⟩
        rw [List.cons_append, List.cons_append, List.append_assoc, ← hd, ← hr]
    · rw [part?_of_not (by simpa using hc)] at h
      obtain ⟨rfl, rfl⟩ := Prod.mk.inj (Option.some.inj h)
      exact ⟨rfl, .absent⟩

theorem part?_append (hp : IsPart isMark signed p) (hm : Ends isMark rest)
    (hd : Ends Decimal.isDigit rest) : part? isMark signed (p ++ rest) = some (p, rest) := by
  cases hp with
  | absent =>
    cases rest with
    | nil => rfl
    | cons c r =>
      exact part?_of_not (hm c rfl) r
  | present hc hs hr =>
    rw [List.cons_append, List.cons_append, List.append_assoc, part?_cons hc,
      splitSign_append hs hr, digits_append hr.2 hd]
    simp [hr.isEmpty]

/-- A part that may be missing starts with its mark, or what follows it does. -/
theorem Ends.part_append {q : Char → Bool} (hp : IsPart isMark signed p)
    (hq : ∀ c, isMark c = true → q c = false) (he : Ends q rest) : Ends q (p ++ rest) := by
  cases hp with
  | absent => exact he
  | present hc _ _ =>
    intro d hd
    obtain rfl := Option.some.inj hd
    exact hq _ hc

end Parts

/-! ### Whole parts -/

/-- The hyphen of a number, and the rest. -/
def splitHyphen (l : List Char) : List Char × List Char :=
  match l with
  | '-' :: r => (['-'], r)
  | r => ([], r)

/-- Reads the whole part of a number. -/
def whole? (l : List Char) : Option (List Char × List Char) :=
  match l with
  | '0' :: r => some (['0'], r)
  | r => let (run, rest) := digits r; if run.isEmpty then none else some (run, rest)

section Whole

variable {l sign whole rest : List Char}

theorem of_splitHyphen (h : splitHyphen l = (sign, rest)) :
    l = sign ++ rest ∧ (sign = [] ∨ sign = ['-']) := by
  unfold splitHyphen at h
  split at h <;> obtain ⟨rfl, rfl⟩ := Prod.mk.inj h
  · exact ⟨rfl, Or.inr rfl⟩
  · exact ⟨rfl, Or.inl rfl⟩

theorem IsWhole.exists_cons (h : IsWhole whole) :
    ∃ c r, whole = c :: r ∧ Decimal.isDigit c = true := by
  rcases h with rfl | ⟨h, -⟩
  · exact ⟨'0', [], rfl, by decide⟩
  · exact h.exists_cons

theorem splitHyphen_append (hs : sign = [] ∨ sign = ['-']) (hw : IsWhole whole) :
    splitHyphen (sign ++ (whole ++ rest)) = (sign, whole ++ rest) := by
  rcases hs with rfl | rfl
  · obtain ⟨c, r, rfl, hc⟩ := hw.exists_cons
    unfold splitHyphen
    split
    · rename_i heq
      obtain ⟨rfl, -⟩ := List.cons.inj heq
      exact absurd hc (by decide)
    · rfl
  · rfl

theorem isWhole_of_whole? (h : whole? l = some (whole, rest)) :
    l = whole ++ rest ∧ IsWhole whole := by
  unfold whole? at h
  split at h
  · obtain ⟨rfl, rfl⟩ := Prod.mk.inj (Option.some.inj h)
    exact ⟨rfl, Or.inl rfl⟩
  · rename_i hzero
    dsimp only at h
    split at h
    · exact absurd h (by simp)
    · rename_i hne
      obtain ⟨rfl, rfl⟩ := Prod.mk.inj (Option.some.inj h)
      obtain ⟨hl, hrun⟩ := isRun_of_digits (Prod.eta (digits l)).symm (by simpa using hne)
      refine ⟨hl, Or.inr ⟨hrun, fun hhead => ?_⟩⟩
      obtain ⟨r, hr⟩ := List.head?_eq_some_iff.mp hhead
      exact hzero (r ++ (digits l).2) (hl.trans (by rw [hr]; rfl))

theorem whole?_append (hw : IsWhole whole) (he : Ends Decimal.isDigit rest) :
    whole? (whole ++ rest) = some (whole, rest) := by
  rcases hw with rfl | ⟨hrun, hzero⟩
  · rfl
  · unfold whole?
    split
    · rename_i heq
      obtain ⟨c, r, rfl, -⟩ := hrun.exists_cons
      obtain ⟨rfl, -⟩ := List.cons.inj heq
      exact absurd rfl hzero
    · rw [digits_append hrun.2 he]
      exact if_neg (by simp [hrun.isEmpty])

end Whole

/-! ### Numbers -/

theorem scan_eq (l : List Char) :
    scan l = (whole? (splitHyphen l).2).bind fun whole =>
      (part? (· == '.') false whole.2).bind fun fraction =>
        (part? (fun c => c == 'e' || c == 'E') true fraction.2).bind fun exponent =>
          some ((splitHyphen l).1 ++ whole.1 ++ fraction.1 ++ exponent.1, exponent.2) := by
  unfold scan whole?
  -- the reader splits the hyphen off and reads the whole part in its own matches
  change (match (splitHyphen l).2 with | '0' :: r => _ | r => _) = _
  split
  · rfl
  · dsimp only
    split <;> rfl

/-- A number starts with a hyphen or a digit. -/
theorem IsNumber.exists_cons {n : List Char} (h : IsNumber n) :
    ∃ c r, n = c :: r ∧ (c = '-' ∨ Decimal.isDigit c = true) := by
  obtain ⟨hs, hw, -, -⟩ := h
  rcases hs with rfl | rfl
  · obtain ⟨c, r, rfl, hc⟩ := hw.exists_cons
    exact ⟨c, _, rfl, Or.inr hc⟩
  · exact ⟨'-', _, rfl, Or.inl rfl⟩

/-- What is taken from the start of a text is a number. -/
theorem isNumber_of_scan {l n rest : List Char} (h : scan l = some (n, rest)) :
    l = n ++ rest ∧ IsNumber n := by
  simp only [scan_eq, Option.bind_eq_some_iff, Prod.exists, Option.some.injEq,
    Prod.mk.injEq] at h
  obtain ⟨whole, l₁, hw, fraction, l₂, hf, exponent, l₃, he, rfl, rfl⟩ := h
  obtain ⟨hl, hsign⟩ := of_splitHyphen (Prod.eta (splitHyphen l)).symm
  obtain ⟨h₁, hwhole⟩ := isWhole_of_whole? hw
  obtain ⟨rfl, hfraction⟩ := isPart_of_part? hf
  obtain ⟨rfl, hexponent⟩ := isPart_of_part? he
  refine ⟨?_, .mk hsign hwhole hfraction hexponent⟩
  rw [List.append_assoc, List.append_assoc, List.append_assoc, ← h₁, ← hl]

/-- A number is taken whole where no character follows that can go on with it. -/
theorem scan_append {n rest : List Char} (h : IsNumber n) (he : Ends goesOn rest) :
    scan (n ++ rest) = some (n, rest) := by
  obtain ⟨hs, hw, hf, hx⟩ := h
  rename_i sign whole fraction exponent
  -- a part ends where the next one starts with its mark, and the last one where `rest` starts
  have ends {p : Char → Bool} (hp : ∀ c, p c = true → goesOn c = true) : Ends p rest :=
    fun c hc => by
      have := he c hc
      cases hpc : p c with
      | false => rfl
      | true => rw [hp c hpc] at this; exact absurd this (by simp)
  have hdigit : Ends Decimal.isDigit rest := ends fun c hc => by simp [goesOn, hc]
  have hpoint : Ends (· == '.') rest := ends fun c hc => by simp [goesOn, hc]
  have hletter : Ends (fun c => c == 'e' || c == 'E') rest := ends fun c hc => by
    rcases Bool.or_eq_true_iff.mp hc with hc | hc <;> simp [goesOn, hc]
  have letter {c : Char} (hc : (c == 'e' || c == 'E') = true) :
      Decimal.isDigit c = false ∧ (c == '.') = false := by
    rcases Bool.or_eq_true_iff.mp hc with hc | hc <;> rw [eq_of_beq hc] <;> decide
  have point {c : Char} (hc : (c == '.') = true) : Decimal.isDigit c = false := by
    rw [eq_of_beq hc]
    decide
  have hdigit' : Ends Decimal.isDigit (exponent ++ rest) :=
    hdigit.part_append hx fun c hc => (letter hc).1
  rw [scan_eq, List.append_assoc, List.append_assoc, List.append_assoc, splitHyphen_append hs hw,
    whole?_append hw (hdigit'.part_append hf fun c => point), Option.bind_some,
    part?_append hf (hpoint.part_append hx fun c hc => (letter hc).2) hdigit', Option.bind_some,
    part?_append hx hletter hdigit, Option.bind_some]

/-! ### Floats -/

theorem le_foldl_digits (l : List Char) (n : Nat) :
    n ≤ l.foldl (fun n c => 10 * n + (c.toNat - 48)) n := by
  induction l generalizing n with
  | nil => exact Nat.le_refl n
  | cons c l ih =>
    have hle := ih (10 * n + (c.toNat - 48))
    rw [List.foldl_cons]
    omega

/-- All digits count where the number that they make fits 64 bits. -/
theorem extend_of_le {l : List Char} {n : Nat}
    (h : l.foldl (fun n c => 10 * n + (c.toNat - 48)) n ≤ 18446744073709551615) :
    extend n l = (l.foldl (fun n c => 10 * n + (c.toNat - 48)) n, []) := by
  induction l generalizing n with
  | nil => rfl
  | cons c l ih =>
    rw [List.foldl_cons] at h ⊢
    rw [extend, if_pos ((le_foldl_digits l _).trans h), ih h]

theorem unsigned_append {sign run : List Char} (hs : sign = [] ∨ sign = ['-']) (hr : IsRun run) :
    unsigned (sign ++ run) = (!sign.isEmpty, run) := by
  rcases hs with rfl | rfl
  · obtain ⟨c, r, rfl, hc⟩ := hr.exists_cons
    unfold unsigned
    split
    · rename_i heq
      obtain ⟨rfl, -⟩ := List.cons.inj heq
      exact absurd hc (by decide)
    · rfl
  · rfl

theorem scientific_of_isRun {sign run : List Char} (hs : sign = [] ∨ sign = ['-'])
    (hr : IsRun run) (h : Decimal.value run ≤ 18446744073709551615) :
    scientific (sign ++ run) = ⟨!sign.isEmpty, Decimal.value run, 0, 0⟩ := by
  have hdigits : digits run = (run, []) := by
    have happend := @digits_append run [] hr.2 (by rintro c ⟨⟩)
    rwa [List.append_nil] at happend
  have hextend : extend 0 run = (Decimal.value run, []) := extend_of_le h
  simp only [scientific, unsigned_append hs hr, hdigits, hextend]
  rfl

/-- **Digits that fit 64 bits denote the float that is nearest** to the number that they make. -/
theorem float?_of_isRun {sign run : List Char} (hs : sign = [] ∨ sign = ['-']) (hr : IsRun run)
    (h : Decimal.value run ≤ 18446744073709551615) :
    float? (sign ++ run) =
      Float64.of? (!sign.isEmpty) (.ofNat (Decimal.value run)) := by
  unfold float? Scientific.magnitude?
  rw [scientific_of_isRun hs hr h]
  simp [Magnitude.scale?_zero]

/-! ### Writing -/

theorem head?_toDigits_ne_zero {n : Nat} (h : n ≠ 0) :
    (Nat.toDigits 10 n).head? ≠ some '0' := by
  induction n using Nat.strongRecOn with
  | _ n ih =>
    by_cases hlt : n < 10
    · have all : ∀ m < 10, m ≠ 0 → Nat.digitChar m ≠ '0' := by decide
      rw [Nat.toDigits_of_lt_base hlt, List.head?_cons, ne_eq, Option.some.injEq]
      exact all n hlt h
    · -- the first digit is that of the number without its last one
      rw [Nat.toDigits_of_base_le (by decide) (by omega),
        List.head?_append_of_ne_nil _ Nat.toDigits_ne_nil]
      exact ih (n / 10) (by omega) (by omega)

theorem isWhole_toDigits (n : Nat) : IsWhole (Nat.toDigits 10 n) := by
  by_cases hn : n = 0
  · subst hn
    exact Or.inl rfl
  · exact Or.inr ⟨⟨Nat.toDigits_ne_nil, fun _ => Decimal.isDigit_of_mem_toDigits⟩,
      head?_toDigits_ne_zero hn⟩

/-- The digits of a number have the form of a number. -/
theorem isNumber_toDigits (n : Nat) : IsNumber (Nat.toDigits 10 n) := by
  have hnumber := IsNumber.mk (Or.inl rfl) (isWhole_toDigits n) .absent .absent
  rwa [List.nil_append, List.append_nil, List.append_nil] at hnumber

/-- So has the written form of an integer. -/
theorem isNumber_ofInt (n : Int) : IsNumber (Decimal.ofInt n).toList := by
  unfold Decimal.ofInt Decimal.ofNat
  split
  · have hnumber := IsNumber.mk (Or.inr rfl) (isWhole_toDigits n.natAbs) .absent .absent
    rw [List.append_nil, List.append_nil] at hnumber
    rwa [String.toList_append, String.toList_ofList, String.toList_ofList]
  · rw [String.toList_ofList]
    exact isNumber_toDigits n.natAbs

end AssetAccess.Json.NumberText
