import AssetAccess.Proofs.Text.Percent
import AssetAccess.Url.Address
/-!
# Encoded parts of an address

The parts of an address keep the percent sign, so that encoding a part twice is the same as encoding
it once.  A text is `Kept` when every character of it is ASCII and stands for itself.  Encoding
gives such a text (`kept_encodeBytes`) and leaves such a text as it is (`encodeBytes_of_kept`).
Both hold for each of the four sets of bytes that the parts of an address are written with
(`Reencodes`).
-/

namespace AssetAccess.Url

open Percent

variable {keep : UInt8 → Bool}

/-- The kept bytes are ASCII, and the percent sign and the capital digits are among them. -/
structure Reencodes (keep : UInt8 → Bool) : Prop where
  lt_of_keep (b : UInt8) (h : keep b = true) : b.toNat < 128
  percent : keep 0x25 = true
  digit (n : Nat) (h : n < 16) : keep (UInt8.ofNat (Hex.capitalDigit n).toNat) = true

/-- Every character is ASCII and is kept. -/
def Kept (keep : UInt8 → Bool) (l : List Char) : Prop :=
  ∀ c ∈ l, c.toNat < 128 ∧ keep (UInt8.ofNat c.toNat) = true

instance (keep : UInt8 → Bool) (l : List Char) : Decidable (Kept keep l) :=
  List.decidableBAll _ l

theorem lt_of_isPlain {b : UInt8} (h : isPlain b = true) : b.toNat < 128 := by
  simp only [isPlain, Bool.and_eq_true, decide_eq_true_eq, UInt8.le_iff_toNat_le] at h
  have hle : b.toNat ≤ 126 := h.1.1.1.2
  omega

theorem reencodes_path : Reencodes Path.isKept where
  lt_of_keep b h := by
    simp only [Path.isKept, Bool.and_eq_true] at h
    exact lt_of_isPlain h.1.1.1.1.1
  percent := by decide
  digit := by decide

theorem reencodes_query : Reencodes isKeptInQuery where
  lt_of_keep b h := by
    simp only [isKeptInQuery, Bool.and_eq_true] at h
    exact lt_of_isPlain h.1.1
  percent := by decide
  digit := by decide

theorem reencodes_user : Reencodes Authority.isKept where
  lt_of_keep b h := by
    simp only [Authority.isKept, Bool.and_eq_true] at h
    exact reencodes_path.lt_of_keep b h.1
  percent := by decide
  digit := by decide

theorem reencodes_fragment : Reencodes isKeptInFragment where
  lt_of_keep b h := by
    simp only [isKeptInFragment, Bool.and_eq_true] at h
    exact lt_of_isPlain h.1
  percent := by decide
  digit := by decide

/-! ### Texts that are kept -/

/-- A character that is not kept stands in no kept text. -/
theorem Kept.not_mem {l : List Char} (h : Kept keep l) {c : Char}
    (hc : keep (UInt8.ofNat c.toNat) = false) : c ∉ l := by
  intro hl
  have hk := (h c hl).2
  rw [hc] at hk
  exact absurd hk (by simp)

theorem kept_encodeByte (hk : Reencodes keep) (b : UInt8) : Kept keep (encodeByte keep b) := by
  have hb := b.toNat_lt
  intro c hc
  unfold encodeByte at hc
  split at hc
  · rename_i h
    rw [List.mem_singleton] at hc
    rw [hc, Text.toNat_charOfByte, UInt8.ofNat_toNat]
    exact ⟨hk.lt_of_keep b h, h⟩
  · simp only [List.mem_cons, List.not_mem_nil, or_false] at hc
    rcases hc with rfl | rfl | rfl
    · exact ⟨by decide, hk.percent⟩
    · exact ⟨(capitalDigit_facts (by omega)).1, hk.digit _ (by omega)⟩
    · exact ⟨(capitalDigit_facts (by omega)).1, hk.digit _ (by omega)⟩

/-- What is written for some bytes is kept. -/
theorem kept_encodeBytes (hk : Reencodes keep) (l : List UInt8) :
    Kept keep (encodeBytes keep l).toList := by
  intro c hc
  rw [encodeBytes, String.toList_ofList] at hc
  obtain ⟨b, _, hcb⟩ := List.mem_flatMap.mp hc
  exact kept_encodeByte hk b c hcb

/-- What is kept is written as it is. -/
theorem encodeBytes_of_kept {l : List Char} (h : Kept keep l) :
    encodeBytes keep (Text.utf8 (String.ofList l)) = String.ofList l := by
  have hlt : ∀ c ∈ (String.ofList l).toList, c.toNat < 128 := by
    intro c hc
    rw [String.toList_ofList] at hc
    exact (h c hc).1
  rw [encodeBytes, Text.utf8_of_forall_lt hlt, String.toList_ofList, List.flatMap_map]
  congr 1
  conv_rhs => rw [← List.flatMap_singleton' l]
  refine List.flatMap_congr fun c hc => ?_
  obtain ⟨hc128, hkeep⟩ := h c hc
  rw [encodeByte, if_pos hkeep, Text.toNat_ofNat_toNat hc128, Char.ofNat_toNat]

/-- Encoding twice is the same as encoding once. -/
theorem encodeBytes_encodeBytes (hk : Reencodes keep) (l : List UInt8) :
    encodeBytes keep (Text.utf8 (encodeBytes keep l)) = encodeBytes keep l := by
  have h := encodeBytes_of_kept (kept_encodeBytes hk l)
  rwa [String.ofList_toList] at h

end AssetAccess.Url
