import AssetAccess.Proofs.Sequence
import AssetAccess.Proofs.Text.Pieces
import AssetAccess.Url.Ipv6
import Mathlib.Data.List.TakeWhile
/-!
# Reading a written address of 128 bits

The text of an address denotes it (`parse?_text`).  Each piece is read back from its digits
(`piece?_digits`), and so are pieces between colons (`groups?_digits`).  Two colons that stand
together in the text stand for the run of zeros that was left out (`cutRun_append`), and the run is
as long as what is missing from eight pieces.
-/

namespace AssetAccess.Url.Ipv6

/-! ### Pieces -/

/-- The digits of a piece. -/
def digits (p : UInt16) : List Char := Nat.toDigits 16 p.toNat

theorem exists_of_mem_toDigits {base n : Nat} {c : Char} (hb : 1 < base)
    (h : c ∈ Nat.toDigits base n) : ∃ d < base, c = Nat.digitChar d := by
  induction n using Nat.strongRecOn with
  | _ n ih =>
    by_cases hn : n < base
    · rw [Nat.toDigits_of_lt_base hn, List.mem_singleton] at h
      exact ⟨n, hn, h⟩
    · rw [Nat.toDigits_of_base_le hb (Nat.not_lt.mp hn), List.mem_append, List.mem_singleton] at h
      rcases h with h | h
      · exact ih _ (Nat.div_lt_self (by omega) hb) h
      · exact ⟨_, Nat.mod_lt _ (by omega), h⟩

theorem ne_of_mem_digits {p : UInt16} {c : Char} (h : c ∈ digits p) : c ≠ ':' ∧ c ≠ '.' := by
  obtain ⟨d, hd, rfl⟩ := exists_of_mem_toDigits (by decide) h
  have all : ∀ n < 16, Nat.digitChar n ≠ ':' ∧ Nat.digitChar n ≠ '.' := by decide
  exact all d hd

theorem value?_digitChar {d : Nat} (h : d < 16) : Hex.value? (Nat.digitChar d) = some d := by
  have all : ∀ n < 16, Hex.value? (Nat.digitChar n) = some n := by decide
  exact all d h

/-- The values of the digits of a number make up the number. -/
theorem exists_values_toDigits (n : Nat) : ∃ l, (Nat.toDigits 16 n).mapM Hex.value? = some l ∧
    l.foldl (fun m d => 16 * m + d) 0 = n := by
  induction n using Nat.strongRecOn with
  | _ n ih =>
    by_cases hn : n < 16
    · refine ⟨[n], ?_, by simp⟩
      rw [Nat.toDigits_of_lt_base hn]
      simp [value?_digitChar hn]
    · obtain ⟨l, hl, hval⟩ := ih (n / 16) (by omega)
      refine ⟨l ++ [n % 16], ?_, ?_⟩
      · rw [Nat.toDigits_of_base_le (by decide) (Nat.not_lt.mp hn), List.mapM_append, hl]
        simp [value?_digitChar (Nat.mod_lt n (show 0 < 16 by decide))]
      · rw [List.foldl_append, hval]
        simp only [List.foldl_cons, List.foldl_nil]
        omega

/-- A piece is read back from its digits. -/
theorem piece?_digits (p : UInt16) : piece? (digits p) = some p := by
  have hp := p.toNat_lt
  obtain ⟨l, hl, hval⟩ := exists_values_toDigits p.toNat
  have hne : (digits p).isEmpty = false := List.isEmpty_eq_false_iff.mpr Nat.toDigits_ne_nil
  have hlen : ¬ (digits p).length > 4 := by
    rw [digits, gt_iff_lt, Nat.not_lt, Nat.length_toDigits_le_iff (by decide) (by decide)]
    omega
  rw [digits] at hlen hne
  simp [piece?, digits, hne, hlen, hl, hval]

theorem digits_ne_nil (p : UInt16) : digits p ≠ [] := Nat.toDigits_ne_nil

/-! ### Pieces between colons -/

variable {pieces : List UInt16}

theorem toList_piecesText (pieces : List UInt16) :
    (piecesText pieces).toList = [':'].intercalate (pieces.map digits) := by
  rw [piecesText, String.toList_intercalate, List.map_map]
  simp only [Function.comp_def, String.toList_ofList]
  rfl

theorem splitOn_piecesText (hne : pieces ≠ []) :
    (piecesText pieces).toList.splitOn ':' = pieces.map digits := by
  rw [toList_piecesText]
  refine List.splitOn_intercalate ':' (fun l hl hc => ?_) (by simpa using hne)
  obtain ⟨p, -, rfl⟩ := List.mem_map.mp hl
  exact (ne_of_mem_digits hc).1 rfl

theorem groups?_digits (final : Bool) (pieces : List UInt16) :
    groups? final (pieces.map digits) = some pieces := by
  have nodot (p : UInt16) : '.' ∉ digits p := fun h => (ne_of_mem_digits h).2 rfl
  induction pieces with
  | nil => rfl
  | cons p l ih =>
    cases l with
    | nil => simp [groups?, nodot p, piece?_digits]
    | cons q l =>
      rw [List.map_cons, List.map_cons, groups?]
      · rw [List.map_cons] at ih
        simp [piece?_digits, ih]
      · simp

/-- Pieces are read back from their text. -/
theorem piecesOf?_piecesText (final : Bool) (pieces : List UInt16) :
    piecesOf? final (piecesText pieces).toList = some pieces := by
  unfold piecesOf?
  split
  · rename_i h
    cases pieces with
    | nil => rfl
    | cons p l =>
      -- the first piece has a digit
      have hsplit := splitOn_piecesText (List.cons_ne_nil p l)
      rw [List.isEmpty_iff.mp h, List.splitOn_nil, List.map_cons] at hsplit
      exact absurd (List.cons.inj hsplit).1.symm (digits_ne_nil p)
  · rename_i h
    have hne : pieces ≠ [] := by
      rintro rfl
      exact h rfl
    rw [splitOn_piecesText hne, groups?_digits]

/-! ### The run of zeros -/

theorem cutRun_cons {c : Char} (hc : c ≠ ':') (l : List Char) :
    cutRun (c :: l) = (c :: (cutRun l).1, (cutRun l).2) := by
  rw [cutRun]
  rintro l rfl
  exact absurd rfl hc

theorem cutRun_colon {c : Char} (hc : c ≠ ':') (l : List Char) :
    cutRun (':' :: c :: l) = (':' :: (cutRun (c :: l)).1, (cutRun (c :: l)).2) := by
  rw [cutRun]
  rintro m - h
  exact hc (List.cons.inj h).1

theorem cutRun_append_of_forall {d : List Char} (h : ∀ c ∈ d, c ≠ ':') (l : List Char) :
    cutRun (d ++ l) = (d ++ (cutRun l).1, (cutRun l).2) := by
  induction d with
  | nil => rfl
  | cons c d ih =>
    rw [List.cons_append, cutRun_cons (h c List.mem_cons_self),
      ih fun e he => h e (List.mem_cons_of_mem c he)]
    rfl

/-- Pieces between colons hold no two colons that stand together. -/
theorem cutRun_append (pieces : List UInt16) (l : List Char) :
    cutRun ((piecesText pieces).toList ++ l) =
      ((piecesText pieces).toList ++ (cutRun l).1, (cutRun l).2) := by
  rw [toList_piecesText]
  induction pieces with
  | nil => rfl
  | cons p ps ih =>
    have hp : ∀ c ∈ digits p, c ≠ ':' := fun c hc => (ne_of_mem_digits hc).1
    cases ps with
    | nil =>
      rw [List.map_cons, List.map_nil, List.intercalate_singleton]
      exact cutRun_append_of_forall hp l
    | cons q ps =>
      obtain ⟨c, r, hq⟩ := List.exists_cons_of_ne_nil (digits_ne_nil q)
      have hc : c ≠ ':' := (ne_of_mem_digits (p := q) (by rw [hq]; exact List.mem_cons_self)).1
      obtain ⟨m, hm⟩ : ∃ m, [':'].intercalate ((q :: ps).map digits) = c :: m := by
        cases ps with
        | nil => exact ⟨r, by rw [List.map_cons, List.map_nil, List.intercalate_singleton, hq]⟩
        | cons q' ps =>
          rw [List.map_cons, List.map_cons, List.intercalate_cons_cons, hq]
          exact ⟨_, rfl⟩
      rw [List.map_cons, List.map_cons, List.intercalate_cons_cons, ← List.map_cons,
        List.append_assoc, List.append_assoc, cutRun_append_of_forall hp]
      rw [hm] at ih ⊢
      rw [List.singleton_append, List.cons_append, cutRun_colon hc, ← List.cons_append, ih]
      simp

/-- Pieces fall into those before a place, the zeros at that place, and those behind them. -/
theorem append_zeros (pieces : List UInt16) (i : Nat) :
    pieces.take i ++ List.replicate (zerosAt pieces i) 0 ++ pieces.drop (i + zerosAt pieces i) =
      pieces := by
  have hzeros : (pieces.drop i).takeWhile (· == 0) = List.replicate (zerosAt pieces i) 0 := by
    refine List.eq_replicate_iff.mpr ⟨rfl, fun p hp => ?_⟩
    simpa using List.mem_takeWhile_imp hp
  have hrest : pieces.drop (i + zerosAt pieces i) = (pieces.drop i).dropWhile (· == 0) := by
    rw [← List.drop_drop]
    conv_lhs => rw [← List.takeWhile_append_dropWhile (p := (· == 0)) (l := pieces.drop i)]
    exact List.drop_left
  rw [List.append_assoc, ← hzeros, hrest, List.takeWhile_append_dropWhile, List.take_append_drop]

/-- Two colons between pieces stand for the zeros that are missing. -/
theorem allPieces?_of_run {left right : List UInt16} (h : left.length + right.length ≤ 7) :
    allPieces? ((piecesText left).toList ++ ':' :: ':' :: (piecesText right).toList) =
      some (left ++ List.replicate (8 - (left.length + right.length)) 0 ++ right) := by
  have hcut : cutRun ((piecesText left).toList ++ ':' :: ':' :: (piecesText right).toList) =
      ((piecesText left).toList, some (piecesText right).toList) := by
    rw [cutRun_append, cutRun, List.append_nil]
  rw [allPieces?, hcut]
  simp only [piecesOf?_piecesText, Option.bind_eq_bind, Option.bind_some, h, if_true]

theorem allPieces?_of_no_run (hne : pieces ≠ []) :
    allPieces? (piecesText pieces).toList = some pieces := by
  have hcut := cutRun_append pieces []
  rw [List.append_nil, cutRun, List.append_nil] at hcut
  rw [allPieces?, hcut]
  exact (congrArg (groups? true) (splitOn_piecesText hne)).trans (groups?_digits true pieces)

/-- **The text of an address denotes it.** -/
theorem parse?_text (a : Ipv6) : parse? a.text.toList = some a := by
  have hzeros := append_zeros a.pieces (longestRun a.pieces)
  have hall : allPieces? a.text.toList = some a.pieces := by
    unfold text
    dsimp only
    split
    · refine allPieces?_of_no_run fun h => ?_
      have := a.length_pieces
      rw [h] at this
      exact absurd this (by decide)
    · rename_i hcount
      have hsum := congrArg List.length hzeros
      rw [List.length_append, List.length_append, List.length_replicate, a.length_pieces] at hsum
      rw [String.toList_append, String.toList_append, List.append_assoc]
      refine (allPieces?_of_run (by omega)).trans (congrArg some ?_)
      conv_rhs => rw [← hzeros]
      congr 3
      omega
  rw [parse?, hall]
  simp [a.length_pieces]

end AssetAccess.Url.Ipv6
