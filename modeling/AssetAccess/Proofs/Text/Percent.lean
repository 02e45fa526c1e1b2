import AssetAccess.Proofs.Text.Pieces
import AssetAccess.Proofs.Text.Utf8
import AssetAccess.Text.Percent
/-!
# Percent encoding loses nothing

Where the kept bytes are below 128 and the percent sign is not among them, decoding gives back what
was encoded (`decode_encodeBytes`), so encoding is injective.  The bytes kept in signed texts are
such (`keepsAscii_keptWhenSigned`).

The characters of an encoded text are percent signs and kept characters (`mem_encodeBytes`).  A
separator that is neither stands outside every encoded text (`not_mem_encodeBytes`), which is why
two encoded texts can be joined by it and taken apart again (`joined_inj`).

An encoded text is a sequence of kept characters and escapes (`isEncoded_encodeBytes`).  Texts are
encoded piece by piece (`encode_append`), so where slashes are kept, encoding goes on between them
(`pieces_encode`).
-/

namespace AssetAccess.Percent

open Text

variable {keep : UInt8 → Bool}

/-- The kept bytes are ASCII and do not include the percent sign. -/
def KeepsAscii (keep : UInt8 → Bool) : Prop := ∀ b, keep b = true → b.toNat < 128 ∧ b ≠ 0x25

theorem keepsAscii_keptWhenSigned (slashEscaped : Bool) :
    KeepsAscii (keptWhenSigned slashEscaped) := by
  intro b hb
  have hb' : keptWhenSigned false b = true := by
    cases slashEscaped with
    | false => exact hb
    | true =>
      simp only [keptWhenSigned, Bool.or_eq_true, Bool.and_eq_true] at hb ⊢
      exact hb.imp_right fun h => ⟨h.1, rfl⟩
  have all : ∀ b : UInt8, keptWhenSigned false b = true → b.toNat < 128 ∧ b ≠ 0x25 :=
    of_forall_byte (by decide +kernel)
  exact all b hb'

/-! ### Hexadecimal digits -/

theorem capitalDigit_facts {n : Nat} (h : n < 16) :
    (Hex.capitalDigit n).toNat < 128 ∧
      isAlphanumeric (UInt8.ofNat (Hex.capitalDigit n).toNat) = true := by
  have all : ∀ m < 16, (Hex.capitalDigit m).toNat < 128 ∧
      isAlphanumeric (UInt8.ofNat (Hex.capitalDigit m).toNat) = true := by decide
  exact all n h

theorem digitValue?_capitalDigit {n : Nat} (h : n < 16) :
    digitValue? (UInt8.ofNat (Hex.capitalDigit n).toNat) = some n := by
  rw [digitValue?, toNat_ofNat_toNat (capitalDigit_facts h).1, Char.ofNat_toNat]
  exact Hex.value?_capitalDigit h

/-! ### Decoding what was encoded -/

theorem decodeBytes_cons_of_ne {b : UInt8} (h : b ≠ 0x25) (r : List UInt8) :
    decodeBytes (b :: r) = b :: decodeBytes r := by
  match r with
  | [] => simp [decodeBytes]
  | [c] => simp [decodeBytes]
  | c :: d :: r =>
    rw [decodeBytes, beq_eq_false_iff_ne.mpr h]

theorem decodeBytes_escape {high low : Nat} (hh : high < 16) (hl : low < 16) (r : List UInt8) :
    decodeBytes (0x25 :: UInt8.ofNat (Hex.capitalDigit high).toNat ::
        UInt8.ofNat (Hex.capitalDigit low).toNat :: r)
      = UInt8.ofNat (16 * high + low) :: decodeBytes r := by
  rw [decodeBytes, digitValue?_capitalDigit hh, digitValue?_capitalDigit hl, beq_self_eq_true]

/-- The characters of an encoded byte are ASCII. -/
theorem lt_of_mem_encodeByte (hk : KeepsAscii keep) {b : UInt8} {c : Char}
    (hc : c ∈ encodeByte keep b) : c.toNat < 128 := by
  have hb := b.toNat_lt
  unfold encodeByte at hc
  split at hc
  · rename_i h
    rw [List.mem_singleton] at hc
    rw [hc, toNat_charOfByte]
    exact (hk b h).1
  · simp only [List.mem_cons, List.not_mem_nil, or_false] at hc
    rcases hc with rfl | rfl | rfl
    · decide
    · exact (capitalDigit_facts (by omega)).1
    · exact (capitalDigit_facts (by omega)).1

theorem lt_of_mem_encodeBytes (hk : KeepsAscii keep) {l : List UInt8} {c : Char}
    (hc : c ∈ (encodeBytes keep l).toList) : c.toNat < 128 := by
  rw [encodeBytes, String.toList_ofList] at hc
  obtain ⟨b, _, hcb⟩ := List.mem_flatMap.mp hc
  exact lt_of_mem_encodeByte hk hcb

/-- Percent decoding gives back the bytes that were encoded. -/
theorem decode_encodeBytes (hk : KeepsAscii keep) (l : List UInt8) :
    decode (encodeBytes keep l) = l := by
  rw [decode, utf8_of_forall_lt fun c => lt_of_mem_encodeBytes hk, encodeBytes,
    String.toList_ofList]
  induction l with
  | nil => rfl
  | cons b l ih =>
    have hb := b.toNat_lt
    rw [List.flatMap_cons, List.map_append, encodeByte]
    -- a kept byte is no percent sign and stands for itself, any other comes back from its digits
    split
    · rename_i h
      simp only [List.map_cons, List.map_nil, List.cons_append, List.nil_append]
      rw [toNat_charOfByte, UInt8.ofNat_toNat, decodeBytes_cons_of_ne (hk b h).2, ih]
    · simp only [List.map_cons, List.map_nil, List.cons_append, List.nil_append]
      rw [show UInt8.ofNat '%'.toNat = 0x25 from rfl, decodeBytes_escape (by omega) (by omega), ih,
        Hex.ofNat_halves]

/-- A text without percent signs stands for its bytes. -/
theorem decode_of_not_mem {s : String} (h : '%' ∉ s.toList) : decode s = utf8 s := by
  have same {l : List UInt8} (hl : ∀ b ∈ l, b ≠ 0x25) : decodeBytes l = l := by
    induction l with
    | nil => simp [decodeBytes]
    | cons b l ih =>
      rw [decodeBytes_cons_of_ne (hl b List.mem_cons_self),
        ih fun d hd => hl d (List.mem_cons_of_mem b hd)]
  refine same fun b hb => ?_
  rintro rfl
  exact h ((mem_utf8_iff (c := '%') (by decide)).mp hb)

theorem encodeBytes_injective (hk : KeepsAscii keep) {l m : List UInt8}
    (h : encodeBytes keep l = encodeBytes keep m) : l = m := by
  rw [← decode_encodeBytes hk l, h, decode_encodeBytes hk m]

theorem encode_injective {slashEscaped : Bool} {s t : String}
    (h : encode s slashEscaped = encode t slashEscaped) : s = t :=
  utf8_injective (encodeBytes_injective (keepsAscii_keptWhenSigned slashEscaped) h)

/-! ### The characters of an encoded text -/

theorem mem_encodeBytes {slashEscaped : Bool} {l : List UInt8} {c : Char}
    (hc : c ∈ (encodeBytes (keptWhenSigned slashEscaped) l).toList) :
    c = '%' ∨ keptWhenSigned slashEscaped (UInt8.ofNat c.toNat) = true := by
  rw [encodeBytes, String.toList_ofList] at hc
  obtain ⟨b, _, hcb⟩ := List.mem_flatMap.mp hc
  have hb := b.toNat_lt
  have digit {n : Nat} (hn : n < 16) :
      keptWhenSigned slashEscaped (UInt8.ofNat (Hex.capitalDigit n).toNat) = true := by
    simp [keptWhenSigned, isUnreserved, (capitalDigit_facts hn).2]
  unfold encodeByte at hcb
  split at hcb
  · rename_i h
    rw [List.mem_singleton] at hcb
    rw [hcb, toNat_charOfByte, UInt8.ofNat_toNat]
    exact Or.inr h
  · simp only [List.mem_cons, List.not_mem_nil, or_false] at hcb
    rcases hcb with rfl | rfl | rfl
    · exact Or.inl rfl
    · exact Or.inr (digit (by omega))
    · exact Or.inr (digit (by omega))

/-- A separator that is not kept stands outside every encoded text. -/
theorem not_mem_encodeBytes {slashEscaped : Bool} {sep : Char} (hp : sep ≠ '%')
    (hs : keptWhenSigned slashEscaped (UInt8.ofNat sep.toNat) = false) (l : List UInt8) :
    sep ∉ (encodeBytes (keptWhenSigned slashEscaped) l).toList := by
  intro h
  rcases mem_encodeBytes h with h | h
  · exact hp h
  · rw [hs] at h
    exact absurd h (by simp)

/-! ### The shape of an encoded text -/

/-- A letter or a digit of ASCII, a hyphen, an underscore, a full stop or a tilde. -/
def IsUnreservedChar (c : Char) : Prop :=
  ('A' ≤ c ∧ c ≤ 'Z') ∨ ('a' ≤ c ∧ c ≤ 'z') ∨ ('0' ≤ c ∧ c ≤ '9') ∨
    c = '-' ∨ c = '_' ∨ c = '.' ∨ c = '~'

instance (c : Char) : Decidable (IsUnreservedChar c) := inferInstanceAs (Decidable (_ ∨ _))

/-- A digit or a capital letter up to F. -/
def IsCapitalHexDigit (c : Char) : Prop := ('0' ≤ c ∧ c ≤ '9') ∨ ('A' ≤ c ∧ c ≤ 'F')

instance (c : Char) : Decidable (IsCapitalHexDigit c) := inferInstanceAs (Decidable (_ ∨ _))

/-- A character that is written as it is: an unreserved one, or a slash that is not escaped. -/
def StandsForItself (slashEscaped : Bool) (c : Char) : Prop :=
  IsUnreservedChar c ∨ (c = '/' ∧ slashEscaped = false)

instance (slashEscaped : Bool) (c : Char) : Decidable (StandsForItself slashEscaped c) :=
  inferInstanceAs (Decidable (_ ∨ _))

/-- A text of characters that stand for themselves and of escapes, each of them a percent sign with
two hexadecimal digits behind it, whose letters are capitals. -/
inductive IsEncoded (slashEscaped : Bool) : List Char → Prop where
  | nil : IsEncoded slashEscaped []
  | plain {c : Char} {l : List Char} (hc : StandsForItself slashEscaped c)
      (h : IsEncoded slashEscaped l) : IsEncoded slashEscaped (c :: l)
  | escape {high low : Char} {l : List Char} (hh : IsCapitalHexDigit high)
      (hl : IsCapitalHexDigit low) (h : IsEncoded slashEscaped l) :
      IsEncoded slashEscaped ('%' :: high :: low :: l)

theorem isCapitalHexDigit_capitalDigit {n : Nat} (h : n < 16) :
    IsCapitalHexDigit (Hex.capitalDigit n) := by
  have all : ∀ m < 16, IsCapitalHexDigit (Hex.capitalDigit m) := by decide
  exact all n h

/-- The kept bytes are those of the characters that stand for themselves. -/
theorem keptWhenSigned_iff {slashEscaped : Bool} (b : UInt8) :
    keptWhenSigned slashEscaped b = true ↔
      StandsForItself slashEscaped (Char.ofNat b.toNat) := by
  have all : ∀ (b : UInt8) (e : Bool),
      keptWhenSigned e b = true ↔ StandsForItself e (Char.ofNat b.toNat) :=
    of_forall_byte (by decide +kernel)
  exact all b slashEscaped

theorem IsEncoded.encodeByte_append {slashEscaped : Bool} {l : List Char}
    (h : IsEncoded slashEscaped l) (b : UInt8) :
    IsEncoded slashEscaped (encodeByte (keptWhenSigned slashEscaped) b ++ l) := by
  have hb := b.toNat_lt
  unfold encodeByte
  split
  · rename_i hk
    exact .plain ((keptWhenSigned_iff b).mp hk) h
  · have hh : b.toNat / 16 < 16 := by omega
    have hl : b.toNat % 16 < 16 := by omega
    exact .escape (isCapitalHexDigit_capitalDigit hh) (isCapitalHexDigit_capitalDigit hl) h

/-- An encoded text holds characters that stand for themselves and escapes, and nothing else. -/
theorem isEncoded_encodeBytes (slashEscaped : Bool) (l : List UInt8) :
    IsEncoded slashEscaped (encodeBytes (keptWhenSigned slashEscaped) l).toList := by
  rw [encodeBytes, String.toList_ofList]
  induction l with
  | nil => exact .nil
  | cons b l ih =>
    rw [List.flatMap_cons]
    exact ih.encodeByte_append b

theorem StandsForItself.lt {slashEscaped : Bool} {c : Char} (h : StandsForItself slashEscaped c) :
    c.toNat < 128 := by
  have of_le {d : Char} (hle : c ≤ d) (hd : d.toNat < 128) : c.toNat < 128 :=
    Nat.lt_of_le_of_lt (UInt32.le_iff_toNat_le.mp hle) hd
  rcases h with (⟨-, hc⟩ | ⟨-, hc⟩ | ⟨-, hc⟩ | rfl | rfl | rfl | rfl) | ⟨rfl, -⟩
  · exact of_le hc (by decide)
  · exact of_le hc (by decide)
  · exact of_le hc (by decide)
  all_goals decide

/-- A single character is written as it is exactly when it stands for itself. -/
theorem encode_singleton_iff {slashEscaped : Bool} {c : Char} :
    encode (String.singleton c) slashEscaped = String.singleton c ↔
      StandsForItself slashEscaped c := by
  by_cases hlt : c.toNat < 128
  · have hutf : Text.utf8 (String.singleton c) = [UInt8.ofNat c.toNat] := by
      rw [utf8, String.toList_singleton, List.flatMap_singleton, utf8EncodeChar_of_lt hlt]
    have hkept := @keptWhenSigned_iff slashEscaped (UInt8.ofNat c.toNat)
    rw [toNat_ofNat_toNat hlt, Char.ofNat_toNat] at hkept
    rw [← hkept, ← String.toList_inj, encode, hutf, encodeBytes, String.toList_ofList,
      List.flatMap_singleton, String.toList_singleton, encodeByte]
    split
    · rename_i hk
      rw [toNat_ofNat_toNat hlt, Char.ofNat_toNat]
      simp [hk]
    · rename_i hk
      simp [hk]
  · -- what is written is ASCII, and so is what stands for itself
    constructor
    · intro h
      have hc : c ∈ (encode (String.singleton c) slashEscaped).toList := by
        rw [h, String.toList_singleton]
        exact List.mem_singleton_self c
      exact absurd (lt_of_mem_encodeBytes (keepsAscii_keptWhenSigned slashEscaped) hc) hlt
    · intro h
      exact absurd h.lt hlt

/-! ### Encoding piece by piece -/

theorem encodeBytes_append (l m : List UInt8) :
    encodeBytes keep (l ++ m) = encodeBytes keep l ++ encodeBytes keep m := by
  rw [encodeBytes, List.flatMap_append, String.ofList_append]
  rfl

theorem encode_append (s t : String) (slashEscaped : Bool) :
    encode (s ++ t) slashEscaped = encode s slashEscaped ++ encode t slashEscaped := by
  rw [encode, utf8_append]
  exact encodeBytes_append _ _

/-- A text without slashes is written in one way. -/
theorem encode_of_not_mem {s : String} (h : '/' ∉ s.toList) (slashEscaped : Bool) :
    encode s slashEscaped = encode s false := by
  have hkept : ∀ b ∈ utf8 s, keptWhenSigned slashEscaped b = keptWhenSigned false b := by
    intro b hb
    have hne : b ≠ 0x2F := by
      rintro rfl
      exact h ((mem_utf8_iff (c := '/') (by decide)).mp hb)
    rw [keptWhenSigned, keptWhenSigned, beq_eq_false_iff_ne.mpr hne, Bool.false_and, Bool.false_and]
  have hbyte : ∀ b ∈ utf8 s,
      encodeByte (keptWhenSigned slashEscaped) b = encodeByte (keptWhenSigned false) b := by
    intro b hb
    rw [encodeByte, encodeByte, hkept b hb]
  rw [encode, encode, encodeBytes, encodeBytes, List.flatMap_congr hbyte]

theorem encode_intercalate (l : List String) :
    encode ("/".intercalate l) false = "/".intercalate (l.map (encode · false)) := by
  have hslash : encode "/" false = "/" := by decide +kernel
  induction l with
  | nil => rfl
  | cons s l ih =>
    cases l with
    | nil => simp
    | cons t l =>
      rw [String.intercalate_cons_cons, encode_append, encode_append, hslash, ih]
      simp only [List.map_cons, String.intercalate_cons_cons]

/-- The pieces of an encoded text between its slashes are the encoded pieces of the text. -/
theorem pieces_encode (s : String) (slashEscaped : Bool) :
    pieces '/' (encode s false) = (pieces '/' s).map (encode · slashEscaped) := by
  have hm : "/".toList = ['/'] := by simp
  have hsplit : encode s false = "/".intercalate ((pieces '/' s).map (encode · true)) := by
    have hpieces : (pieces '/' s).map (encode · true) = (pieces '/' s).map (encode · false) := by
      apply List.map_congr_left
      intro p hp
      exact encode_of_not_mem (not_mem_of_mem_pieces hp) true
    rw [hpieces, ← encode_intercalate, intercalate_pieces hm]
  have hback : pieces '/' (encode s false) = (pieces '/' s).map (encode · true) := by
    rw [hsplit]
    apply pieces_intercalate hm
    · simpa using pieces_ne_nil '/' s
    · intro q hq
      obtain ⟨p, -, rfl⟩ := List.mem_map.mp hq
      -- written with its slashes escaped, a piece holds none
      exact not_mem_encodeBytes (by decide) (by decide) _
  rw [hback]
  apply List.map_congr_left
  intro p hp
  have hp' := not_mem_of_mem_pieces hp
  rw [encode_of_not_mem hp' true, encode_of_not_mem hp' slashEscaped]

/-! ### Two encoded texts with a mark between them -/

section Joined

variable {slashEscaped : Bool} {mark : String} {sep : Char}

/-- What stands before the first separator of a text and what stands behind it, decoded. -/
def sides (sep : Char) (t : String) : List UInt8 × List UInt8 :=
  let (before, after) := cutFirst sep t.toList
  (decode (String.ofList before), decode (String.ofList (after.getD [])))

theorem toList_joined (hm : mark.toList = [sep]) (s t : String) :
    (s ++ mark ++ t).toList = s.toList ++ sep :: t.toList := by
  rw [String.toList_append, String.toList_append, hm, List.append_assoc, List.singleton_append]

theorem sides_joined (hm : mark.toList = [sep]) (hp : sep ≠ '%')
    (hs : keptWhenSigned slashEscaped (UInt8.ofNat sep.toNat) = false) (a b : List UInt8) :
    sides sep (encodeBytes (keptWhenSigned slashEscaped) a ++ mark
      ++ encodeBytes (keptWhenSigned slashEscaped) b) = (a, b) := by
  have hk := keepsAscii_keptWhenSigned slashEscaped
  rw [sides, toList_joined hm, cutFirst_append (not_mem_encodeBytes hp hs a)]
  dsimp only
  rw [Option.getD_some, String.ofList_toList, String.ofList_toList, decode_encodeBytes hk,
    decode_encodeBytes hk]

theorem count_joined (hm : mark.toList = [sep]) (hp : sep ≠ '%')
    (hs : keptWhenSigned slashEscaped (UInt8.ofNat sep.toNat) = false) (a b : List UInt8) :
    (encodeBytes (keptWhenSigned slashEscaped) a ++ mark
      ++ encodeBytes (keptWhenSigned slashEscaped) b).toList.count sep = 1 := by
  rw [toList_joined hm, List.count_append, List.count_cons_self,
    List.count_eq_zero_of_not_mem (not_mem_encodeBytes hp hs a),
    List.count_eq_zero_of_not_mem (not_mem_encodeBytes hp hs b)]

/-- Two encoded texts can be read off the text in which a mark stands between them. -/
theorem joined_inj (hm : mark.toList = [sep]) (hp : sep ≠ '%')
    (hs : keptWhenSigned slashEscaped (UInt8.ofNat sep.toNat) = false) {a b a' b' : List UInt8}
    (h : encodeBytes (keptWhenSigned slashEscaped) a ++ mark
          ++ encodeBytes (keptWhenSigned slashEscaped) b
        = encodeBytes (keptWhenSigned slashEscaped) a' ++ mark
          ++ encodeBytes (keptWhenSigned slashEscaped) b') : a = a' ∧ b = b' := by
  have hsides := congrArg (sides sep) h
  rwa [sides_joined hm hp hs, sides_joined hm hp hs, Prod.mk.injEq] at hsides

/-- The joined text holds the mark, percent signs and kept characters, all of them ASCII. -/
theorem mem_joined (hm : mark.toList = [sep]) (hsep : sep.toNat < 128) {a b : List UInt8} {c : Char}
    (hc : c ∈ (encodeBytes (keptWhenSigned slashEscaped) a ++ mark
      ++ encodeBytes (keptWhenSigned slashEscaped) b).toList) :
    c.toNat < 128 ∧
      (c = sep ∨ c = '%' ∨ keptWhenSigned slashEscaped (UInt8.ofNat c.toNat) = true) := by
  have hk := keepsAscii_keptWhenSigned slashEscaped
  rw [toList_joined hm, List.mem_append, List.mem_cons] at hc
  rcases hc with hc | rfl | hc
  · exact ⟨lt_of_mem_encodeBytes hk hc, Or.inr (mem_encodeBytes hc)⟩
  · exact ⟨hsep, Or.inl rfl⟩
  · exact ⟨lt_of_mem_encodeBytes hk hc, Or.inr (mem_encodeBytes hc)⟩

theorem not_mem_joined (hm : mark.toList = [sep]) {c : Char} (hp : c ≠ '%') (hc : c ≠ sep)
    (hs : keptWhenSigned slashEscaped (UInt8.ofNat c.toNat) = false) (a b : List UInt8) :
    c ∉ (encodeBytes (keptWhenSigned slashEscaped) a ++ mark
      ++ encodeBytes (keptWhenSigned slashEscaped) b).toList := by
  rw [String.toList_append, String.toList_append, List.mem_append, List.mem_append, hm,
    List.mem_singleton]
  rintro ((h | h) | h)
  · exact not_mem_encodeBytes hp hs a h
  · exact hc h
  · exact not_mem_encodeBytes hp hs b h

theorem joined_ne_empty (hm : mark.toList = [sep]) (s t : String) : s ++ mark ++ t ≠ "" := by
  intro h
  have h' := congrArg String.toList h
  simp [hm] at h'

end Joined

end AssetAccess.Percent
