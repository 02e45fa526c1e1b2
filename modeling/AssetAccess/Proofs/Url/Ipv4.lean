import AssetAccess.Proofs.Text.Decimal
import AssetAccess.Proofs.Text.Pieces
import AssetAccess.Proofs.Url.Domain
import AssetAccess.Url.Ipv4
/-!
# Reading a written address of 32 bits

An address is written as four decimal bytes.  That text is a domain name in normal form
(`ascii?_text`) whose last label is a number (`endsInNumber_text`), and it denotes the address
(`parse?_text`).
-/

namespace AssetAccess.Url.Ipv4

variable {a : Ipv4}

/-- The decimal digits of the bytes of an address. -/
def labels (a : Ipv4) : List (List Char) := a.bytes.map fun b => Nat.toDigits 10 b.toNat

theorem toList_text (a : Ipv4) : a.text.toList = ['.'].intercalate a.labels := by
  rw [text, String.toList_intercalate, List.map_map]
  simp [labels, Decimal.ofNat, Function.comp_def]

theorem labels_ne_nil (a : Ipv4) : a.labels ≠ [] := by
  simp [labels, bytes]

theorem isDigit_of_mem_labels {label : List Char} (h : label ∈ a.labels) {c : Char}
    (hc : c ∈ label) : Decimal.isDigit c = true := by
  obtain ⟨b, -, rfl⟩ := List.mem_map.mp h
  exact Decimal.isDigit_of_mem_toDigits hc

/-- Digits are of the kind that labels and names are made of. -/
theorem digit_facts {c : Char} (h : Decimal.isDigit c = true) :
    Punycode.isAscii c = true ∧ Label.isAdmitted c = true ∧ c.toLower = c ∧
      Label.isForbidden c = false ∧ Label.turnsLeft c = false ∧ c ≠ 'x' ∧ c ≠ '.' := by
  have all : ∀ n < 58, 48 ≤ n → Punycode.isAscii (Char.ofNat n) = true ∧
      Label.isAdmitted (Char.ofNat n) = true ∧ (Char.ofNat n).toLower = Char.ofNat n ∧
        Label.isForbidden (Char.ofNat n) = false ∧ Label.turnsLeft (Char.ofNat n) = false ∧
          Char.ofNat n ≠ 'x' ∧ Char.ofNat n ≠ '.' := by decide +kernel
  obtain ⟨hmin, hmax⟩ := Decimal.toNat_of_isDigit h
  have := all c.toNat (by omega) hmin
  rwa [Char.ofNat_toNat] at this

/-! ### As a domain name -/

theorem isName_labels (a : Ipv4) : Domain.isName a.labels = true := by
  have hwell : ∀ label ∈ a.labels, Label.isWellFormed label = true := by
    intro label hl
    have facts {c : Char} (hc : c ∈ label) := digit_facts (isDigit_of_mem_labels hl hc)
    have hlt : ∀ c ∈ label, c.toNat < 128 := fun c hc => by
      simpa [Punycode.isAscii] using (facts hc).1
    have hnormal := (Label.normal?_eq_some_self_iff hlt).mpr fun c hc =>
      ⟨(facts hc).2.1, (facts hc).2.2.1⟩
    have hforbidden : label.any Label.isForbidden = false := by
      rw [List.any_eq_false]
      intro c hc
      rw [(facts hc).2.2.2.1]
      simp
    have hascii : label.all Punycode.isAscii = true := List.all_eq_true.mpr fun c hc => (facts hc).1
    simp [Label.isWellFormed, hnormal, hforbidden, hascii]
  have hturn : a.labels.any (·.any Label.turnsLeft) = false := by
    rw [List.any_eq_false]
    intro label hl
    rw [Bool.not_eq_true, List.any_eq_false]
    intro c hc
    rw [(digit_facts (isDigit_of_mem_labels hl hc)).2.2.2.2.1]
    simp
  rw [Domain.isName, List.all_eq_true.mpr hwell, hturn]
  rfl

/-- The text of an address is a domain name that is read as it is. -/
theorem ascii?_text (a : Ipv4) : Domain.ascii? a.text.toList = some a.text.toList := by
  rw [toList_text]
  refine Domain.ascii?_intercalate (labels_ne_nil a) (isName_labels a) (fun label hl => ?_)
    fun label hl => ?_
  · exact List.all_eq_true.mpr fun c hc => (digit_facts (isDigit_of_mem_labels hl hc)).1
  · rintro ⟨r, rfl⟩
    have := (digit_facts (isDigit_of_mem_labels hl (c := 'x') (by simp))).2.2.2.2.2.1
    exact this rfl

/-! ### As numbers -/

theorem parts_text (a : Ipv4) : parts a.text.toList = a.labels := by
  have hsplit : a.text.toList.splitOn '.' = a.labels := by
    rw [toList_text]
    refine List.splitOn_intercalate '.' (fun label hl hdot => ?_) (labels_ne_nil a)
    exact (digit_facts (isDigit_of_mem_labels hl hdot)).2.2.2.2.2.2 rfl
  unfold parts
  rw [hsplit]
  split
  · rename_i l hrev
    -- the last part is not empty
    have hnil : [] ∈ a.labels := List.mem_reverse.mp (by rw [hrev]; exact List.mem_cons_self)
    obtain ⟨b, -, hb⟩ := List.mem_map.mp hnil
    exact absurd hb Nat.toDigits_ne_nil
  · exact List.reverse_reverse _

theorem endsInNumber_text (a : Ipv4) : endsInNumber a.text.toList = true := by
  have hlast : a.labels.getLast? = some (Nat.toDigits 10 a.value.toUInt8.toNat) := rfl
  have hdigits : (Nat.toDigits 10 a.value.toUInt8.toNat).all Decimal.isDigit = true :=
    List.all_eq_true.mpr fun c hc => Decimal.isDigit_of_mem_toDigits hc
  have hne : (Nat.toDigits 10 a.value.toUInt8.toNat).isEmpty = false :=
    List.isEmpty_eq_false_iff.mpr Nat.toDigits_ne_nil
  unfold endsInNumber
  rw [parts_text, hlast]
  dsimp only
  rw [hne, hdigits]
  rfl

theorem part?_toDigits (b : UInt8) : part? (Nat.toDigits 10 b.toNat) = some b.toNat := by
  have all : ∀ n < 256, part? (Nat.toDigits 10 n) = some n := by decide +kernel
  exact all b.toNat b.toNat_lt

/-- Four bytes are put together to the number that they were taken from. -/
theorem valueOf?_bytes (a : Ipv4) :
    valueOf? (a.bytes.map UInt8.toNat) = some a.value.toNat := by
  have hv := a.value.toNat_lt
  have h0 : a.value.toUInt8.toNat = a.value.toNat % 256 := rfl
  have h1 : (a.value >>> 8).toUInt8.toNat = a.value.toNat / 2 ^ 8 % 256 := by
    simp [Nat.shiftRight_eq_div_pow]
  have h2 : (a.value >>> 16).toUInt8.toNat = a.value.toNat / 2 ^ 16 % 256 := by
    simp [Nat.shiftRight_eq_div_pow]
  have h3 : (a.value >>> 24).toUInt8.toNat = a.value.toNat / 2 ^ 24 % 256 := by
    simp [Nat.shiftRight_eq_div_pow]
  simp [valueOf?, bytes, h0, h1, h2, h3, Nat.shiftLeft_eq]
  omega

/-- **The text of an address denotes it.** -/
theorem parse?_text (a : Ipv4) : parse? a.text.toList = some a := by
  have hparts : a.labels.mapM part? = some (a.bytes.map UInt8.toNat) := by
    rw [mapM_eq_some_iff, labels, List.forall₂_map_left_iff, List.forall₂_map_right_iff,
      List.forall₂_same]
    exact fun b _ => part?_toDigits b
  rw [parse?, parts_text, hparts]
  simp [valueOf?_bytes]

end AssetAccess.Url.Ipv4
