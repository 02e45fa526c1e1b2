import AssetAccess.Text.Utf8
import Mathlib.Data.List.Basic
import Mathlib.Tactic.ByContra
/-!
# The bytes of a text

`utf8` is injective (`utf8_injective`) and turns joining into joining (`utf8_append`).  A character
below 128 is one byte, its own number, and every byte of any other character is 128 or more
(`utf8EncodeChar_of_lt`, `le_of_mem_utf8EncodeChar`).  So an ASCII character is looked for among the
bytes as well as in the text (`mem_utf8_iff`), and bytes below 128 and the text that they spell as
ASCII determine each other (`ofList_map_utf8`, `utf8_ofList_map`).

Reading undoes writing: a text is read back from its bytes (`ofUtf8?_utf8`), character by character
(`decodeUnits_utf8EncodeChar`).
-/

namespace AssetAccess.Text

theorem utf8_append (s t : String) : utf8 (s ++ t) = utf8 s ++ utf8 t := by
  simp [utf8]

/-- What holds of the bytes of a mark holds of the bytes of a joined text exactly when it holds of
those of every piece. -/
theorem forall_utf8_intercalate {P : UInt8 → Prop} {mark : String} (hm : ∀ b ∈ utf8 mark, P b)
    {l : List String} :
    (∀ b ∈ utf8 (mark.intercalate l), P b) ↔ ∀ p ∈ l, ∀ b ∈ utf8 p, P b := by
  induction l with
  | nil => simp [utf8]
  | cons p l ih =>
    cases l with
    | nil => simp
    | cons q l =>
      rw [String.intercalate_cons_cons, utf8_append, utf8_append, List.forall_mem_append,
        List.forall_mem_append, ih, and_iff_left hm]
      exact (List.forall_mem_cons (p := fun p => ∀ b ∈ utf8 p, P b)).symm

theorem utf8_injective {s t : String} (h : utf8 s = utf8 t) : s = t := by
  rw [← String.toByteArray_inj, ← String.utf8Encode_toList, ← String.utf8Encode_toList]
  exact congrArg List.toByteArray h

/-! ### ASCII -/

/-- What holds of the first 128 characters one by one holds of every ASCII character. -/
theorem of_forall_ascii {P : Char → Prop} (all : ∀ n < 128, P (Char.ofNat n)) {c : Char}
    (h : c.toNat < 128) : P c := by
  have hc := all c.toNat h
  rwa [Char.ofNat_toNat] at hc

/-- What holds of the 256 bytes one by one holds of every byte. -/
theorem of_forall_byte {P : UInt8 → Prop} (all : ∀ n < 256, P (UInt8.ofNat n)) (b : UInt8) :
    P b := by
  have hb := all b.toNat b.toNat_lt
  rwa [UInt8.ofNat_toNat] at hb

theorem utf8EncodeChar_of_lt {c : Char} (h : c.toNat < 128) :
    String.utf8EncodeChar c = [UInt8.ofNat c.toNat] := by
  have hv : c.val.toNat ≤ 0x7f := by
    change c.toNat ≤ 127
    omega
  simp only [String.utf8EncodeChar, hv, ↓reduceIte]
  rfl

theorem le_of_mem_utf8EncodeChar {c : Char} (h : 128 ≤ c.toNat) {b : UInt8}
    (hb : b ∈ String.utf8EncodeChar c) : 128 ≤ b.toNat := by
  have hv : ¬ c.val.toNat ≤ 0x7f := by
    change ¬ c.toNat ≤ 127
    omega
  simp only [String.utf8EncodeChar, hv, ↓reduceIte] at hb
  -- each byte is a number below 128 on top of a lead or continuation mark
  split at hb
  · simp only [List.mem_cons, List.not_mem_nil, or_false] at hb
    rcases hb with rfl | rfl <;> rw [UInt8.toNat_ofNat'] <;> omega
  · split at hb
    · simp only [List.mem_cons, List.not_mem_nil, or_false] at hb
      rcases hb with rfl | rfl | rfl <;> rw [UInt8.toNat_ofNat'] <;> omega
    · simp only [List.mem_cons, List.not_mem_nil, or_false] at hb
      rcases hb with rfl | rfl | rfl | rfl <;> rw [UInt8.toNat_ofNat'] <;> omega

/-- The bytes of a text are below 128 exactly when its characters are. -/
theorem forall_utf8_lt_iff {s : String} :
    (∀ b ∈ utf8 s, b.toNat < 128) ↔ ∀ c ∈ s.toList, c.toNat < 128 := by
  constructor
  · intro h c hc
    by_contra hlt
    -- any other character would bring in a byte of 128 or more
    obtain ⟨b, hb⟩ := List.exists_mem_of_ne_nil _ (String.utf8EncodeChar_ne_nil (c := c))
    have := h b (List.mem_flatMap.mpr ⟨c, hc, hb⟩)
    have := le_of_mem_utf8EncodeChar (Nat.not_lt.mp hlt) hb
    omega
  · intro h b hb
    obtain ⟨c, hc, hbc⟩ := List.mem_flatMap.mp hb
    have hlt := h c hc
    rw [utf8EncodeChar_of_lt hlt, List.mem_singleton] at hbc
    rw [hbc, UInt8.toNat_ofNat']
    omega

theorem utf8_of_forall_lt {s : String} (h : ∀ c ∈ s.toList, c.toNat < 128) :
    utf8 s = s.toList.map fun c => UInt8.ofNat c.toNat := by
  rw [utf8, List.map_eq_flatMap]
  exact List.flatMap_congr fun c hc => utf8EncodeChar_of_lt (h c hc)

theorem toNat_ofNat_toNat {c : Char} (h : c.toNat < 128) :
    (UInt8.ofNat c.toNat).toNat = c.toNat := by
  rw [UInt8.toNat_ofNat']
  omega

/-- An ASCII character stands in a text exactly when its byte is among the bytes of the text. -/
theorem mem_utf8_iff {s : String} {c : Char} (h : c.toNat < 128) :
    UInt8.ofNat c.toNat ∈ utf8 s ↔ c ∈ s.toList := by
  constructor
  · intro hc
    obtain ⟨d, hd, hcd⟩ := List.mem_flatMap.mp hc
    by_cases hlt : d.toNat < 128
    · rw [utf8EncodeChar_of_lt hlt, List.mem_singleton] at hcd
      have hnat := congrArg UInt8.toNat hcd
      rw [toNat_ofNat_toNat h, toNat_ofNat_toNat hlt] at hnat
      rwa [Char.toNat_inj.mp hnat]
    · -- the bytes of any other character are too large
      have hle := le_of_mem_utf8EncodeChar (Nat.not_lt.mp hlt) hcd
      rw [toNat_ofNat_toNat h] at hle
      omega
  · intro hc
    refine List.mem_flatMap.mpr ⟨c, hc, ?_⟩
    rw [utf8EncodeChar_of_lt h]
    exact List.mem_singleton_self _

theorem toNat_charOfByte (b : UInt8) : (Char.ofNat b.toNat).toNat = b.toNat := by
  have hb := b.toNat_lt
  have hv : Nat.isValidChar b.toNat := Or.inl (by omega)
  rw [Char.ofNat, dif_pos hv]
  rfl

/-- Bytes below 128 spell, as ASCII, the text whose bytes they are. -/
theorem ofList_map_utf8 {s : String} (h : ∀ c ∈ s.toList, c.toNat < 128) :
    String.ofList ((utf8 s).map fun b => Char.ofNat b.toNat) = s := by
  rw [utf8_of_forall_lt h, List.map_map]
  conv_rhs => rw [← String.ofList_toList (s := s)]
  congr 1
  conv_rhs => rw [← List.map_id s.toList]
  refine List.map_congr_left fun c hc => ?_
  rw [Function.comp, toNat_ofNat_toNat (h c hc), Char.ofNat_toNat, id]

/-- The text that bytes below 128 spell as ASCII has these bytes. -/
theorem utf8_ofList_map {l : List UInt8} (h : ∀ b ∈ l, b.toNat < 128) :
    utf8 (String.ofList (l.map fun b => Char.ofNat b.toNat)) = l := by
  rw [utf8_of_forall_lt, String.toList_ofList, List.map_map]
  · conv_rhs => rw [← List.map_id l]
    refine List.map_congr_left fun b _ => ?_
    rw [Function.comp, toNat_charOfByte, UInt8.ofNat_toNat, id]
  · intro c hc
    rw [String.toList_ofList] at hc
    obtain ⟨b, hb, rfl⟩ := List.mem_map.mp hc
    rw [toNat_charOfByte]
    exact h b hb

/-! ### Reading

The number of a character is spread over its bytes: its first bits stand in the lead byte, and six
in each byte behind that.  The bounds on the second byte keep out what would be written with fewer
bytes and what is no character. -/

/-- Whether `next` may stand behind `lead` at the start of a character in which `more` bytes follow
the lead byte. -/
def leads (lead next : UInt8) (more : Nat) : Bool :=
  match continuation? lead with
  | some (lo, hi, n) => lo ≤ next && next ≤ hi && n == more
  | none => false

theorem leads_two : ∀ high < 32, 2 ≤ high → ∀ low < 64,
    leads (UInt8.ofNat (high + 192)) (UInt8.ofNat (low + 128)) 1 = true := by
  decide +kernel

/-- The numbers of three bytes are those of 16 bits but the small ones and the surrogates. -/
theorem leads_three : ∀ high < 16, ∀ low < 64, 32 ≤ 64 * high + low →
    64 * high + low < 864 ∨ 896 ≤ 64 * high + low →
    leads (UInt8.ofNat (high + 224)) (UInt8.ofNat (low + 128)) 2 = true := by
  decide +kernel

theorem leads_four : ∀ high < 8, ∀ low < 64, 16 ≤ 64 * high + low → 64 * high + low < 272 →
    leads (UInt8.ofNat (high + 240)) (UInt8.ofNat (low + 128)) 3 = true := by
  decide +kernel

section Units

variable {value more k n : Nat} {lo hi lead next : UInt8} {l : List UInt8}

theorem not_lt_of_continuation? (h : (continuation? lead).isSome = true) : ¬ lead < 0x80 := by
  have all : ∀ b : UInt8, (continuation? b).isSome = true → ¬ b < 0x80 :=
    of_forall_byte (by decide +kernel)
  exact all lead h

/-- A byte within the bounds adds six bits to the number of its character. -/
theorem decodeUnits_inside (hlo : lo ≤ next) (hhi : next ≤ hi) :
    decodeUnits (.inside value lo hi more) (next :: l) =
      match more with
      | 0 => some (Char.ofNat (value * 64 + (next.toNat - 0x80))) :: decodeUnits .between l
      | m + 1 => decodeUnits (.inside (value * 64 + (next.toNat - 0x80)) 0x80 0xBF m) l := by
  rw [decodeUnits, decide_eq_true hlo, decide_eq_true hhi]
  rfl

/-- A lead byte starts the number of a character, and the byte behind it goes on with the number. -/
theorem decodeUnits_lead (h : leads lead next (more + 1) = true) :
    decodeUnits .between (lead :: next :: l) =
      decodeUnits (.inside (lead.toNat % (64 >>> (more + 1))) next next more) (next :: l) := by
  unfold leads at h
  split at h
  · rename_i lo hi n hc
    simp only [Bool.and_eq_true, decide_eq_true_eq, beq_iff_eq] at h
    obtain ⟨⟨hlo, hhi⟩, rfl⟩ := h
    have hlead : ¬ lead < 0x80 := not_lt_of_continuation? (by rw [hc]; rfl)
    rw [decodeUnits, decodeUnits.start, if_neg hlead, hc]
    dsimp only
    rw [Nat.add_sub_cancel, decodeUnits_inside hlo hhi,
      decodeUnits_inside (UInt8.le_refl next) (UInt8.le_refl next)]
  · exact absurd h Bool.false_ne_true

theorem toNat_mark (h : k < 64) : (UInt8.ofNat (k + 128)).toNat = k + 128 := by
  rw [UInt8.toNat_ofNat']
  omega

/-- A byte behind the second one has the widest bounds. -/
theorem decodeUnits_trail (h : k < 64) :
    decodeUnits (.inside value 0x80 0xBF more) (UInt8.ofNat (k + 128) :: l) =
      decodeUnits (.inside value (UInt8.ofNat (k + 128)) (UInt8.ofNat (k + 128)) more)
        (UInt8.ofNat (k + 128) :: l) := by
  have hlo : 0x80 ≤ UInt8.ofNat (k + 128) := by
    rw [UInt8.le_iff_toNat_le, toNat_mark h]
    exact Nat.le_add_left 128 k
  have hhi : UInt8.ofNat (k + 128) ≤ 0xBF := by
    rw [UInt8.le_iff_toNat_le, toNat_mark h]
    exact Nat.add_le_add_right (Nat.le_of_lt_succ h) 128
  rw [decodeUnits_inside hlo hhi, decodeUnits_inside (UInt8.le_refl _) (UInt8.le_refl _)]

theorem decodeUnits_next (h : k < 64) :
    decodeUnits (.inside value (UInt8.ofNat (k + 128)) (UInt8.ofNat (k + 128)) more)
        (UInt8.ofNat (k + 128) :: l) =
      match more with
      | 0 => some (Char.ofNat (value * 64 + k)) :: decodeUnits .between l
      | m + 1 => decodeUnits (.inside (value * 64 + k) 0x80 0xBF m) l := by
  rw [decodeUnits_inside (UInt8.le_refl _) (UInt8.le_refl _), toNat_mark h, Nat.add_sub_cancel]

theorem decodeUnits_two (h : 128 ≤ n) (h' : n ≤ 2047) :
    decodeUnits .between (UInt8.ofNat (n / 64 % 32 + 192) :: UInt8.ofNat (n % 64 + 128) :: l) =
      some (Char.ofNat n) :: decodeUnits .between l := by
  have hlow : n % 64 < 64 := Nat.mod_lt n (by decide)
  have hlead : (UInt8.ofNat (n / 64 % 32 + 192)).toNat % (64 >>> 1) = n / 64 % 32 := by
    rw [UInt8.toNat_ofNat', show 64 >>> 1 = 32 by decide]
    omega
  have hnumber : n / 64 % 32 * 64 + n % 64 = n := by omega
  rw [decodeUnits_lead (leads_two _ (by omega) (by omega) _ hlow), hlead, decodeUnits_next hlow]
  dsimp only
  rw [hnumber]

theorem decodeUnits_three (h : 2048 ≤ n) (h' : n ≤ 65535) (hn : n < 55296 ∨ 57343 < n) :
    decodeUnits .between (UInt8.ofNat (n / 4096 % 16 + 224) :: UInt8.ofNat (n / 64 % 64 + 128) ::
      UInt8.ofNat (n % 64 + 128) :: l) = some (Char.ofNat n) :: decodeUnits .between l := by
  have hmiddle : n / 64 % 64 < 64 := Nat.mod_lt _ (by decide)
  have hlow : n % 64 < 64 := Nat.mod_lt n (by decide)
  have hlead : (UInt8.ofNat (n / 4096 % 16 + 224)).toNat % (64 >>> 2) = n / 4096 % 16 := by
    rw [UInt8.toNat_ofNat', show 64 >>> 2 = 16 by decide]
    omega
  have hnumber : (n / 4096 % 16 * 64 + n / 64 % 64) * 64 + n % 64 = n := by omega
  rw [decodeUnits_lead (leads_three _ (by omega) _ hmiddle (by omega) (by omega)), hlead,
    decodeUnits_next hmiddle]
  dsimp only
  rw [decodeUnits_trail hlow, decodeUnits_next hlow]
  dsimp only
  rw [hnumber]

theorem decodeUnits_four (h : 65536 ≤ n) (h' : n < 1114112) :
    decodeUnits .between (UInt8.ofNat (n / 262144 % 8 + 240) :: UInt8.ofNat (n / 4096 % 64 + 128) ::
      UInt8.ofNat (n / 64 % 64 + 128) :: UInt8.ofNat (n % 64 + 128) :: l) =
        some (Char.ofNat n) :: decodeUnits .between l := by
  have hhigh : n / 4096 % 64 < 64 := Nat.mod_lt _ (by decide)
  have hmiddle : n / 64 % 64 < 64 := Nat.mod_lt _ (by decide)
  have hlow : n % 64 < 64 := Nat.mod_lt n (by decide)
  have hlead : (UInt8.ofNat (n / 262144 % 8 + 240)).toNat % (64 >>> 3) = n / 262144 % 8 := by
    rw [UInt8.toNat_ofNat', show 64 >>> 3 = 8 by decide]
    omega
  have hnumber : ((n / 262144 % 8 * 64 + n / 4096 % 64) * 64 + n / 64 % 64) * 64 + n % 64 = n := by
    omega
  rw [decodeUnits_lead (leads_four _ (by omega) _ hhigh (by omega) (by omega)), hlead,
    decodeUnits_next hhigh]
  dsimp only
  rw [decodeUnits_trail hmiddle, decodeUnits_next hmiddle]
  dsimp only
  rw [decodeUnits_trail hlow, decodeUnits_next hlow]
  dsimp only
  rw [hnumber]

end Units

/-- A character is read from its bytes, whatever follows them. -/
theorem decodeUnits_utf8EncodeChar (c : Char) (l : List UInt8) :
    decodeUnits .between (String.utf8EncodeChar c ++ l) = some c :: decodeUnits .between l := by
  have hvalid : c.toNat < 55296 ∨ 57343 < c.toNat ∧ c.toNat < 1114112 := c.valid
  have hbytes : String.utf8EncodeChar c =
      if c.toNat ≤ 127 then [UInt8.ofNat c.toNat]
      else if c.toNat ≤ 2047 then
        [UInt8.ofNat (c.toNat / 64 % 32 + 192), UInt8.ofNat (c.toNat % 64 + 128)]
      else if c.toNat ≤ 65535 then
        [UInt8.ofNat (c.toNat / 4096 % 16 + 224), UInt8.ofNat (c.toNat / 64 % 64 + 128),
          UInt8.ofNat (c.toNat % 64 + 128)]
      else
        [UInt8.ofNat (c.toNat / 262144 % 8 + 240), UInt8.ofNat (c.toNat / 4096 % 64 + 128),
          UInt8.ofNat (c.toNat / 64 % 64 + 128), UInt8.ofNat (c.toNat % 64 + 128)] := rfl
  rw [hbytes]
  conv_rhs => rw [← Char.ofNat_toNat c]
  split
  · have hlt : UInt8.ofNat c.toNat < 0x80 := by
      rw [UInt8.lt_iff_toNat_lt, toNat_ofNat_toNat (by omega)]
      exact Nat.lt_of_le_of_lt ‹_› (by decide)
    rw [List.singleton_append, decodeUnits, decodeUnits.start, if_pos hlt,
      toNat_ofNat_toNat (by omega)]
  · split
    · exact decodeUnits_two (by omega) (by omega)
    · split
      · exact decodeUnits_three (by omega) (by omega) (by omega)
      · exact decodeUnits_four (by omega) (by omega)

/-- The bytes of a text are read as its characters. -/
theorem decodeUnits_flatMap (l : List Char) :
    decodeUnits .between (l.flatMap String.utf8EncodeChar) = l.map some := by
  induction l with
  | nil => rw [List.flatMap_nil, decodeUnits, List.map_nil]
  | cons c l ih => rw [List.flatMap_cons, decodeUnits_utf8EncodeChar, ih, List.map_cons]

/-- **A text is read back from its bytes.** -/
theorem ofUtf8?_utf8 (s : String) : ofUtf8? (utf8 s) = some s := by
  have all : (s.toList.map some).mapM id = some s.toList := by
    rw [List.mapM_map]
    exact List.mapM_pure.trans (congrArg some (List.map_id _))
  rw [ofUtf8?, utf8, decodeUnits_flatMap, all, Option.map_some, String.ofList_toList]

end AssetAccess.Text
