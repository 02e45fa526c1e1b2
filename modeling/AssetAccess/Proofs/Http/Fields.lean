import AssetAccess.Http.Fields
import AssetAccess.Proofs.Sequence
import AssetAccess.Proofs.Text.Utf8
/-!
# Names and values of header fields

`names` lists the names that have a value, each once (`mem_names_iff`, `nodup_names`).  A value is
read as text exactly when it is the bytes of a visible one (`FieldValue.text?_eq_some_iff`), and
every text without control characters can be stored (`FieldValue.exists_ofString?_iff`).  Spaces and
tabs around a value make no difference to its signed form (`FieldValue.trimBlanks_trimmed`).
-/

namespace AssetAccess.Http

/-! ### Tokens -/

theorem not_mem_of_isToken {s : String} {c : Char} (h : isToken s = true)
    (hc : isTokenChar c = false) : c ∉ s.toList := by
  intro hs
  rw [isToken, Bool.and_eq_true, List.all_eq_true] at h
  rw [h.2 c hs] at hc
  exact absurd hc (by simp)

theorem toNat_of_isTokenChar {c : Char} (h : isTokenChar c = true) :
    32 ≤ c.toNat ∧ c.toNat < 127 := by
  have of_le {low high : Char} (hl : low.val ≤ c.val) (hh : c.val ≤ high.val)
      (h : 32 ≤ low.toNat ∧ high.toNat < 127) : 32 ≤ c.toNat ∧ c.toNat < 127 :=
    ⟨Nat.le_trans h.1 (UInt32.le_iff_toNat_le.mp hl),
      Nat.lt_of_le_of_lt (UInt32.le_iff_toNat_le.mp hh) h.2⟩
  rw [isTokenChar, Bool.or_eq_true, List.contains_iff_mem] at h
  rcases h with h | h
  · -- a capital letter, a small letter or a digit
    rcases Bool.or_eq_true_iff.mp (show (c.isAlpha || c.isDigit) = true from h) with h | h
    · rcases Bool.or_eq_true_iff.mp (show (c.isUpper || c.isLower) = true from h) with h | h
      · have h : 'A'.val ≤ c.val ∧ c.val ≤ 'Z'.val := of_decide_eq_true h
        exact of_le h.1 h.2 (by decide)
      · have h := Bool.and_eq_true_iff.mp h
        exact of_le (of_decide_eq_true h.1) (of_decide_eq_true h.2)
          (by decide : _ ∧ 'z'.toNat < 127)
    · have h := Bool.and_eq_true_iff.mp h
      exact of_le (of_decide_eq_true h.1) (of_decide_eq_true h.2) (by decide : _ ∧ '9'.toNat < 127)
  · have all : List.all ['!', '#', '$', '%', '&', '\'', '*', '+', '-', '.', '^', '_', '\x60', '|',
        '~'] (fun d => 32 ≤ d.toNat && d.toNat < 127) = true := by decide
    simpa using List.all_eq_true.mp all c h

theorem FieldName.isToken_text (n : FieldName) : isToken n.text = true := by
  have h := n.isFieldName_text
  rw [isFieldName, Bool.and_eq_true, Bool.and_eq_true] at h
  exact h.1.1

theorem FieldName.mem_text {n : FieldName} {c : Char} (h : c ∈ n.text.toList) :
    isTokenChar c = true := by
  have ht := n.isToken_text
  rw [isToken, Bool.and_eq_true, List.all_eq_true] at ht
  exact ht.2 c h

/-! ### Blanks around values -/

/-- Blanks at either end do not change what is left when the blanks are gone. -/
theorem trimBlanks_append {a b : List UInt8} (ha : ∀ c ∈ a, Text.isBlankByte c = true)
    (hb : ∀ c ∈ b, Text.isBlankByte c = true) (l : List UInt8) :
    Text.trimBlanks (a ++ l ++ b) = Text.trimBlanks l := by
  have hb' : ∀ c ∈ b.reverse, Text.isBlankByte c = true := fun c hc => hb c (List.mem_reverse.mp hc)
  rw [Text.trimBlanks, Text.trimBlanks, List.append_assoc, List.dropWhile_append_of_pos ha,
    List.dropWhile_append]
  split
  · -- there is nothing but blanks
    rename_i hl
    rw [List.isEmpty_iff.mp hl, List.dropWhile_eq_nil_iff.mpr hb]
  · rw [List.reverse_append, List.dropWhile_append_of_pos hb']

/-- A value is its trimmed form with spaces and tabs at its ends. -/
theorem FieldValue.exists_bytes_eq (v : FieldValue) :
    ∃ a b, (∀ c ∈ a, isBlank c = true) ∧ (∀ c ∈ b, isBlank c = true) ∧
      v.bytes = a ++ v.trimmed.bytes ++ b := by
  obtain ⟨a, b, hv, ha, hb⟩ := exists_dropWhile_reverse isBlank v.bytes
  exact ⟨a, b, ha, hb, hv⟩

/-- The blanks that a value loses on its way were never signed. -/
theorem FieldValue.trimBlanks_trimmed (v : FieldValue) :
    Text.trimBlanks v.trimmed.bytes = Text.trimBlanks v.bytes := by
  have blank {c : UInt8} (hc : isBlank c = true) : Text.isBlankByte c = true := by
    rcases Bool.or_eq_true_iff.mp hc with h | h <;> simp [Text.isBlankByte, h]
  obtain ⟨a, b, ha, hb, hv⟩ := v.exists_bytes_eq
  rw [hv]
  exact (trimBlanks_append (fun c hc => blank (ha c hc)) (fun c hc => blank (hb c hc)) _).symm

/-! ### Values -/

/-- A text whose bytes are printable ASCII or tabs. -/
def Visible (s : String) : Prop := ∀ b ∈ Text.utf8 s, isVisible b = true

theorem visible_intercalate {mark : String} (hm : Visible mark) {l : List String} :
    Visible (mark.intercalate l) ↔ ∀ p ∈ l, Visible p := Text.forall_utf8_intercalate hm

theorem isFieldByte_iff {b : UInt8} :
    isFieldByte b = true ↔ (0x20 ≤ b ∨ b = 0x09) ∧ b ≠ 0x7F := by
  simp only [isFieldByte, Bool.or_eq_true, Bool.and_eq_true, decide_eq_true_eq, bne_iff_ne,
    beq_iff_eq]
  constructor
  · rintro (⟨hle, hne⟩ | rfl)
    · exact ⟨Or.inl hle, hne⟩
    · exact ⟨Or.inr rfl, by decide⟩
  · rintro ⟨hle | htab, hne⟩
    · exact Or.inl ⟨hle, hne⟩
    · exact Or.inr htab

theorem isFieldByte_of_isVisible {b : UInt8} (h : isVisible b = true) : isFieldByte b = true := by
  simp only [isVisible, isFieldByte, Bool.or_eq_true, Bool.and_eq_true, decide_eq_true_eq,
    bne_iff_ne] at h ⊢
  refine h.imp_left fun h => ⟨h.1, ?_⟩
  rintro rfl
  exact absurd h.2 (by decide)

theorem toNat_lt_of_isVisible {b : UInt8} (h : isVisible b = true) : b.toNat < 128 := by
  simp only [isVisible, Bool.or_eq_true, Bool.and_eq_true, decide_eq_true_eq, beq_iff_eq,
    UInt8.le_iff_toNat_le] at h
  rcases h with ⟨-, h⟩ | rfl
  · exact Nat.lt_of_le_of_lt h (by decide)
  · decide

theorem visible_of_forall_mem {s : String} (h : ∀ c ∈ s.toList, 32 ≤ c.toNat ∧ c.toNat < 127) :
    Visible s := by
  intro b hb
  obtain ⟨c, hc, hbc⟩ := List.mem_flatMap.mp hb
  have hlt := h c hc
  rw [Text.utf8EncodeChar_of_lt (by omega), List.mem_singleton] at hbc
  have hn : b.toNat = c.toNat := by rw [hbc, Text.toNat_ofNat_toNat (by omega)]
  simp only [isVisible, Bool.or_eq_true, Bool.and_eq_true, decide_eq_true_eq,
    UInt8.le_iff_toNat_le, hn]
  exact Or.inl ⟨hlt.1, Nat.le_of_lt_succ hlt.2⟩

namespace FieldValue

/-- A value is read as the visible text that has its bytes. -/
theorem text?_eq_some_iff {value : FieldValue} {s : String} :
    value.text? = some s ↔ (∀ b ∈ value.bytes, isVisible b = true) ∧ value.bytes = Text.utf8 s := by
  rw [text?, Option.ite_none_right_eq_some, List.all_eq_true, Option.some.injEq]
  constructor
  · rintro ⟨h, rfl⟩
    exact ⟨h, (Text.utf8_ofList_map fun b hb => toNat_lt_of_isVisible (h b hb)).symm⟩
  · rintro ⟨h, hs⟩
    refine ⟨h, ?_⟩
    rw [hs] at h ⊢
    exact Text.ofList_map_utf8
      (Text.forall_utf8_lt_iff.mp fun b hb => toNat_lt_of_isVisible (h b hb))

theorem bytes_of_ofString? {s : String} {value : FieldValue} (h : ofString? s = some value) :
    value.bytes = Text.utf8 s := by
  rw [ofString?, ofBytes?, Option.dite_none_right_eq_some] at h
  obtain ⟨_, h⟩ := h
  rw [← Option.some.inj h]

/-- A text can be stored in a header exactly when none of its bytes is a control character. -/
theorem exists_ofString?_iff {s : String} :
    (∃ value, ofString? s = some value) ↔ ∀ b ∈ Text.utf8 s, isFieldByte b = true := by
  rw [← List.all_eq_true]
  constructor
  · rintro ⟨value, h⟩
    rw [← bytes_of_ofString? h]
    exact value.all_isFieldByte
  · intro h
    exact ⟨⟨Text.utf8 s, h⟩, dif_pos h⟩

/-- Every visible text can be stored in a header. -/
theorem exists_ofString?_of_visible {s : String} (h : Visible s) :
    ∃ value, ofString? s = some value :=
  exists_ofString?_iff.mpr fun b hb => isFieldByte_of_isVisible (h b hb)

end FieldValue

/-! ### Names -/

theorem nodup_eraseDups {α : Type} [BEq α] [LawfulBEq α] : ∀ l : List α, l.eraseDups.Nodup
  | [] => by simp
  | a :: l => by
    rw [List.eraseDups_cons, List.nodup_cons, List.mem_eraseDups]
    exact ⟨by simp, nodup_eraseDups _⟩
termination_by l => l.length
decreasing_by
  have := List.length_filter_le (fun b => !b == a) l
  simp only [List.length_cons]
  omega

namespace Fields

theorem nodup_names (f : Fields) : f.names.Nodup := nodup_eraseDups _

theorem mem_names_iff {f : Fields} {n : FieldName} : n ∈ f.names ↔ f.has n = true := by
  simp [names, has, List.mem_eraseDups]

/-- Storing a value under another name leaves a name as it was. -/
theorem values_set_of_ne (f : Fields) {n m : FieldName} (h : m ≠ n) (v : FieldValue) :
    (f.set n v).values m = f.values m := by
  rw [values_set, if_neg (Ne.symm h)]

theorem has_set_of_ne (f : Fields) {n m : FieldName} (h : m ≠ n) (v : FieldValue) :
    (f.set n v).has m = f.has m := by
  rw [Bool.eq_iff_iff, has_iff, has_iff, values_set_of_ne f h]

/-- Of two values that are stored under one name, the second is left, where it would stand without
the first. -/
theorem set_set (f : Fields) (n : FieldName) (v w : FieldValue) :
    (f.set n v).set n w = f.set n w := by
  have herase : ((f.erase n).append n v).erase n = f.erase n := by
    simp [erase, append, List.filter_append, List.filter_filter]
  rw [set, set, set, herase]

end Fields

end AssetAccess.Http
