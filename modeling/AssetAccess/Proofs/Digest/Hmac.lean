import AssetAccess.Digest.Hmac
import AssetAccess.Proofs.Text.Hex
import AssetAccess.Proofs.Text.Utf8
import Mathlib.Data.List.Basic
/-!
# Signatures are compared exactly

`Hmac.matchesHex` answers yes for one text only, the hexadecimal text of the keyed digest
(`matchesHex_iff`).  Comparing in full is equality of byte sequences (`equalInFull_iff`), and hex
digits with small letters spell their bytes in one way (`encodeChars_of_decodeChars?`).

The shape that is checked for is one of bytes, and it is one of characters as well, since a text
with another character has a byte that is no digit (`hasShape_iff`).
-/

namespace AssetAccess.Hmac

open Text

/-! ### Comparing in full -/

theorem or_eq_zero_iff {a b : UInt8} : a ||| b = 0 ↔ a = 0 ∧ b = 0 := by
  rw [← UInt8.toBitVec_inj, ← UInt8.toBitVec_inj, ← UInt8.toBitVec_inj, UInt8.toBitVec_or]
  exact BitVec.or_eq_zero_iff

/-- The differences of two byte sequences leave a trace in the accumulator. -/
theorem foldl_or_xor_eq_zero_iff (l : List (UInt8 × UInt8)) (d : UInt8) :
    l.foldl (fun d p => d ||| (p.1 ^^^ p.2)) d = 0 ↔ d = 0 ∧ ∀ p ∈ l, p.1 = p.2 := by
  induction l generalizing d with
  | nil => simp
  | cons p l ih =>
    rw [List.foldl_cons, ih, or_eq_zero_iff, UInt8.xor_eq_zero_iff, List.forall_mem_cons, and_assoc]

theorem equalInFull_iff {l m : List UInt8} : equalInFull l m = true ↔ l = m := by
  rw [equalInFull, Bool.and_eq_true, beq_iff_eq, beq_iff_eq, foldl_or_xor_eq_zero_iff]
  constructor
  · rintro ⟨hlen, -, h⟩
    refine List.ext_getElem hlen fun i hi hi' => ?_
    have hz : i < (l.zip m).length := by
      rw [List.length_zip]
      omega
    have := h _ (List.getElem_mem hz)
    rwa [List.getElem_zip] at this
  · rintro rfl
    refine ⟨rfl, rfl, fun p hp => ?_⟩
    obtain ⟨i, hi, rfl⟩ := List.getElem_of_mem hp
    rw [List.getElem_zip]

/-! ### Spelling -/

theorem isSmallHexDigit_digit {n : Nat} (h : n < 16) : isSmallHexDigit (Hex.digit n) = true := by
  have all : ∀ m < 16, isSmallHexDigit (Hex.digit m) = true := by decide
  exact all n h

/-- Bytes are written with decimal digits and small letters. -/
theorem isSmallHexDigit_of_mem_encode {l : List UInt8} {c : Char}
    (hc : c ∈ (Hex.encode l).toList) : isSmallHexDigit c = true := by
  rw [Hex.encode, String.toList_ofList, Hex.encodeChars] at hc
  obtain ⟨b, _, hcb⟩ := List.mem_flatMap.mp hc
  have hb := b.toNat_lt
  simp only [List.mem_cons, List.not_mem_nil, or_false] at hcb
  rcases hcb with rfl | rfl
  · exact isSmallHexDigit_digit (by omega)
  · exact isSmallHexDigit_digit (by omega)

theorem isSmallHexDigit_iff {c : Char} :
    isSmallHexDigit c = true ↔ ('0' ≤ c ∧ c ≤ '9') ∨ ('a' ≤ c ∧ c ≤ 'f') := by
  simp only [isSmallHexDigit, Bool.or_eq_true, Bool.and_eq_true, decide_eq_true_eq]

theorem toNat_lt_of_isSmallHexDigit {c : Char} (hc : isSmallHexDigit c = true) :
    c.toNat < 128 := by
  simp only [isSmallHexDigit, Bool.or_eq_true, Bool.and_eq_true, decide_eq_true_eq,
    Char.le_def, UInt32.le_iff_toNat_le] at hc
  have h9 : ('9' : Char).val.toNat = 57 := rfl
  have hf : ('f' : Char).val.toNat = 102 := rfl
  change c.val.toNat < 128
  omega

/-- A digit with a small letter is the one that is written for its value. -/
theorem exists_value?_of_isSmallHexDigit {c : Char} (hc : isSmallHexDigit c = true) :
    ∃ n < 16, Hex.value? c = some n ∧ Hex.digit n = c := by
  have all : ∀ m < 128, isSmallHexDigit (Char.ofNat m) = true →
      ∃ n < 16, Hex.value? (Char.ofNat m) = some n ∧ Hex.digit n = Char.ofNat m := by
    decide +kernel
  have := all c.toNat (toNat_lt_of_isSmallHexDigit hc)
  rw [Char.ofNat_toNat] at this
  exact this hc

/-- Small digits are what is written for the bytes that they spell. -/
theorem encodeChars_of_decodeChars? {cs : List Char} {l : List UInt8}
    (hs : ∀ c ∈ cs, isSmallHexDigit c = true) (h : Hex.decodeChars? cs = some l) :
    Hex.encodeChars l = cs := by
  have all : ∀ m < 16, (Hex.digit m).toLower = Hex.digit m := by decide
  have hsmall : cs.map Char.toLower = cs := by
    refine (List.map_congr_left fun c hc => ?_).trans cs.map_id
    obtain ⟨n, hn, -, rfl⟩ := exists_value?_of_isSmallHexDigit (hs c hc)
    exact all n hn
  rw [← Hex.decodeChars?_eq_some_iff.mp h, hsmall]

/-! ### Shape -/

/-- The byte of a digit of a written signature. -/
def IsDigitByte (b : UInt8) : Prop := (0x30 ≤ b ∧ b ≤ 0x39) ∨ (0x61 ≤ b ∧ b ≤ 0x66)

instance (b : UInt8) : Decidable (IsDigitByte b) := inferInstanceAs (Decidable (_ ∨ _))

/-- The shape of a signature among its bytes: there are 64 of them, all digits. -/
def HasShape (s : String) : Prop := (utf8 s).length = 64 ∧ ∀ b ∈ utf8 s, IsDigitByte b

theorem isDigitByte_ofNat_iff {c : Char} (h : c.toNat < 128) :
    IsDigitByte (UInt8.ofNat c.toNat) ↔ isSmallHexDigit c = true := by
  have all : ∀ n < 128, IsDigitByte (UInt8.ofNat (Char.ofNat n).toNat) ↔
      isSmallHexDigit (Char.ofNat n) = true := by decide +kernel
  exact of_forall_ascii (P := fun c => IsDigitByte (UInt8.ofNat c.toNat) ↔
    isSmallHexDigit c = true) all h

theorem toNat_lt_of_isDigitByte {b : UInt8} (h : IsDigitByte b) : b.toNat < 128 := by
  have all : ∀ b : UInt8, IsDigitByte b → b.toNat < 128 := of_forall_byte (by decide +kernel)
  exact all b h

/-- The shape can be looked for among the characters as well: each of them is one byte then. -/
theorem hasShape_iff {s : String} :
    (s.length = 64 ∧ ∀ c ∈ s.toList, isSmallHexDigit c = true) ↔ HasShape s := by
  have bytes (hascii : ∀ c ∈ s.toList, c.toNat < 128) :
      (s.length = 64 ∧ ∀ c ∈ s.toList, isSmallHexDigit c = true) ↔ HasShape s := by
    rw [HasShape, utf8_of_forall_lt hascii, List.length_map, String.length_toList,
      List.forall_mem_map]
    refine and_congr_right fun _ => forall₂_congr fun c hc => ?_
    exact (isDigitByte_ofNat_iff (hascii c hc)).symm
  constructor
  · intro h
    exact (bytes fun c hc => toNat_lt_of_isSmallHexDigit (h.2 c hc)).mp h
  · intro h
    exact (bytes (forall_utf8_lt_iff.mp fun b hb => toNat_lt_of_isDigitByte (h.2 b hb))).mpr h

/-! ### Signatures -/

theorem length_tag (key message : List UInt8) : (tag key message).length = 32 :=
  Sha256.length_digest _

theorem length_hex (key message : String) : (hex key message).length = 64 := by
  rw [hex, Hex.encode, String.length_ofList, Hex.length_encodeChars, length_tag]

theorem isSmallHexDigit_of_mem_hex {key message : String} {c : Char}
    (hc : c ∈ (hex key message).toList) : isSmallHexDigit c = true :=
  isSmallHexDigit_of_mem_encode hc

theorem hasShape_hex (key message : String) : HasShape (hex key message) :=
  hasShape_iff.mp ⟨length_hex key message, fun _ => isSmallHexDigit_of_mem_hex⟩

/-- A text that passes has the shape of a signature and spells the keyed digest. -/
theorem matchesHex_eq_true_iff {key message signature : String} :
    matchesHex key message signature = true ↔ HasShape signature ∧
      Hex.decode? signature = some (tag (utf8 key) (utf8 message)) := by
  rw [matchesHex, Bool.and_eq_true, Bool.and_eq_true, beq_iff_eq, List.all_eq_true,
    ← hasShape_iff]
  refine and_congr_right fun _ => ?_
  split
  · rename_i bytes hd
    rw [equalInFull_iff, hd, Option.some.injEq]
  · rename_i hd
    simp [hd]

/-- Of all spellings of the keyed digest, the one with the shape of a signature is the written
one. -/
theorem hasShape_and_decode?_iff {key message signature : String} :
    (HasShape signature ∧ Hex.decode? signature = some (tag (utf8 key) (utf8 message))) ↔
      signature = hex key message := by
  constructor
  · rintro ⟨hshape, hd⟩
    rw [hex, Hex.encode, encodeChars_of_decodeChars? (hasShape_iff.mpr hshape).2 hd,
      String.ofList_toList]
  · rintro rfl
    exact ⟨hasShape_hex key message, Hex.decode?_encode _⟩

/-- A text passes as a signature exactly when it is the written one. -/
theorem matchesHex_iff {key message signature : String} :
    matchesHex key message signature = true ↔ signature = hex key message :=
  matchesHex_eq_true_iff.trans hasShape_and_decode?_iff

/-- **A signature is compared character for character.**  The texts that pass are the written
signature and no other.  It consists of 64 decimal digits and small letters up to `f` and has the
shape that is checked for; of the spellings that are read as the keyed digest, with letters of
either case, it alone has that shape. -/
theorem matchesHex_exact (key message signature : String) :
    (matchesHex key message signature = true ↔ signature = hex key message) ∧
    (hex key message).length = 64 ∧
    (∀ c ∈ (hex key message).toList, ('0' ≤ c ∧ c ≤ '9') ∨ ('a' ≤ c ∧ c ≤ 'f')) ∧
    HasShape (hex key message) ∧
    (Hex.decode? signature = some (tag (utf8 key) (utf8 message)) ↔
      Text.lower signature = hex key message) ∧
    (HasShape signature ∧ Text.lower signature = hex key message ↔
      signature = hex key message) := by
  have hspelling : Hex.decode? signature = some (tag (utf8 key) (utf8 message)) ↔
      Text.lower signature = hex key message := Hex.decode?_eq_some_iff
  refine ⟨matchesHex_iff, length_hex key message, fun c hc => ?_, hasShape_hex key message,
    hspelling, ?_⟩
  · exact isSmallHexDigit_iff.mp (isSmallHexDigit_of_mem_hex hc)
  · rw [← hspelling]
    exact hasShape_and_decode?_iff

end AssetAccess.Hmac
