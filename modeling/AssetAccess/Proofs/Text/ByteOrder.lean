import AssetAccess.Proofs.Text.Utf8
import AssetAccess.Text.Sorted
import Mathlib.Tactic.SplitIfs
/-!
# The order of texts is that of their bytes

Texts are compared character by character, and what is transmitted is compared byte by byte.  Both
give the same order (`bytesLT_iff`): of two characters the smaller one has the smaller bytes, at the
first place where the bytes of the two differ (`lex_utf8EncodeChar`).
-/

namespace AssetAccess.Text

/-- The bytes of one text come before those of another. -/
def BytesLT (s t : String) : Prop := List.Lex (· < ·) (utf8 s) (utf8 t)

/-! ### Characters -/

/-- The first byte decides, and where it is the same the rest does. -/
theorem lex_cons {a b : UInt8} {l m : List UInt8} (hle : a.toNat ≤ b.toNat)
    (h : a.toNat = b.toNat → List.Lex (· < ·) l m) : List.Lex (· < ·) (a :: l) (b :: m) := by
  rcases Nat.lt_or_eq_of_le hle with hlt | heq
  · exact .rel (UInt8.lt_iff_toNat_lt.mpr hlt)
  · rw [UInt8.toNat_inj.mp heq]
    exact .cons (h heq)

/-- The bytes of the smaller character come first, whatever follows the two. -/
theorem lex_utf8EncodeChar {c d : Char} (h : c < d) (x y : List UInt8) :
    List.Lex (· < ·) (String.utf8EncodeChar c ++ x) (String.utf8EncodeChar d ++ y) := by
  have hlt : c.val.toNat < d.val.toNat := UInt32.lt_iff_toNat_lt.mp h
  have hd : d.val.toNat < 0x110000 := by
    have := d.valid
    unfold UInt32.isValidChar Nat.isValidChar at this
    omega
  unfold String.utf8EncodeChar
  dsimp only
  -- fewer bytes have the smaller lead byte; as many are compared in turn, and are not all equal
  split_ifs <;> simp only [List.cons_append, List.nil_append]
  all_goals repeat' refine lex_cons ?_ fun _ => ?_
  all_goals
    simp only [UInt8.toNat_ofNat'] at *
    omega

/-! ### Texts -/

theorem lex_flatMap {l m : List Char} (h : List.Lex (· < ·) l m) :
    List.Lex (· < ·) (l.flatMap String.utf8EncodeChar) (m.flatMap String.utf8EncodeChar) := by
  induction h with
  | @nil d m =>
    rw [List.flatMap_cons, List.flatMap_nil]
    cases he : String.utf8EncodeChar d with
    | nil => exact absurd he String.utf8EncodeChar_ne_nil
    | cons b l => exact .nil
  | @cons c l m _ ih =>
    rw [List.flatMap_cons, List.flatMap_cons]
    induction String.utf8EncodeChar c with
    | nil => exact ih
    | cons b l ihb => exact .cons ihb
  | @rel c l d m hcd =>
    rw [List.flatMap_cons, List.flatMap_cons]
    exact lex_utf8EncodeChar hcd _ _

/-- **Texts are ordered as their bytes are.** -/
theorem bytesLT_iff {s t : String} : BytesLT s t ↔ s < t := by
  have bytes_of_lt {s t : String} (h : s < t) : BytesLT s t :=
    lex_flatMap (List.lex_lt.mpr (String.lt_iff.mp h))
  constructor
  · intro h
    -- were the texts in the other order, so would be their bytes
    by_contra hlt
    by_cases hgt : t < s
    · exact List.lt_asymm (List.lex_lt.mp h) (List.lex_lt.mp (bytes_of_lt hgt))
    · rw [String.le_antisymm (String.not_lt.mp hgt) (String.not_lt.mp hlt)] at h
      exact List.lt_irrefl _ (List.lex_lt.mp h)
  · exact bytes_of_lt

/-- Texts in ascending order have their bytes in ascending order. -/
theorem pairwise_not_bytesLT {l : List String} (h : l.Pairwise (· ≤ ·)) :
    l.Pairwise fun s t => ¬ BytesLT t s :=
  h.imp fun hle hlt => String.not_lt.mpr hle (bytesLT_iff.mp hlt)

end AssetAccess.Text
