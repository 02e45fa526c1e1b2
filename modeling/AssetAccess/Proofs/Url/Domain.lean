import AssetAccess.Proofs.Sequence
import AssetAccess.Url.Domain
/-!
# Reading a written domain name

A domain name is written with ASCII alone, and without the marks that divide an address
(`isNameChar_of_mem_ascii`).  Labels hold no such mark, and their coded forms add letters, digits
and hyphens only.

A name that was written without coded labels is read as it is (`ascii?_of_written`): on ASCII the
normal form only makes letters small, and the labels of such a name were in normal form before.
-/

namespace AssetAccess.Url

/-- A character that a written domain name may hold. -/
def isNameChar (c : Char) : Bool := Punycode.isAscii c && (c == '.' || !Label.isForbidden c)

/-! ### Characters -/

section Characters

variable {c : Char} {label : List Char}

theorem Punycode.exists_of_mem_digits {bias place n : Nat} (h : c ∈ digits bias place n) :
    ∃ k < 36, c = digit k := by
  induction place, n using digits.induct bias with
  | case1 place n t hn =>
    rw [digits, if_pos hn, List.mem_singleton] at h
    have := threshold_le bias place
    exact ⟨n, by omega, h⟩
  | case2 place n t hn ih =>
    rw [digits, if_neg hn] at h
    rcases List.mem_cons.mp h with rfl | h
    · have ht := threshold_le bias place
      have := Nat.mod_lt (n - threshold bias place) (show 0 < 36 - threshold bias place by omega)
      exact ⟨_, by omega, rfl⟩
    · exact ih h

theorem Punycode.exists_of_mem_writeNumbers {bias count : Nat} {first : Bool} {numbers : List Nat}
    (h : c ∈ writeNumbers bias count first numbers) : ∃ k < 36, c = digit k := by
  induction numbers generalizing bias count first with
  | nil => exact absurd h List.not_mem_nil
  | cons n l ih =>
    rw [writeNumbers, List.mem_append] at h
    exact h.elim exists_of_mem_digits ih

/-- A coded form is made of the ASCII characters of the label, hyphens and digits. -/
theorem Punycode.mem_encode (h : c ∈ encode label) :
    (c ∈ label ∧ isAscii c = true) ∨ c = '-' ∨ ∃ k < 36, c = digit k := by
  rw [encode] at h
  rcases List.mem_append.mp h with h | h
  · rcases List.mem_append.mp h with h | h
    · exact Or.inl (List.mem_filter.mp h)
    · split at h
      · exact absurd h List.not_mem_nil
      · exact Or.inr (Or.inl (List.mem_singleton.mp h))
  · exact Or.inr (Or.inr (exists_of_mem_writeNumbers h))

theorem Label.forall_not_isForbidden (h : isWellFormed label = true) :
    ∀ c ∈ label, isForbidden c = false := by
  simp only [isWellFormed, Bool.and_eq_true, Bool.not_eq_true', List.any_eq_false] at h
  exact fun c hc => Bool.eq_false_iff.mpr (h.1.2 c hc)

namespace Domain

/-- A label is written with ASCII alone, and without the marks that no label holds. -/
theorem of_mem_writeLabel {written : List Char} (h : writeLabel? label = some written)
    (hl : Label.isWellFormed label = true) (hc : c ∈ written) :
    Punycode.isAscii c = true ∧ Label.isForbidden c = false := by
  have digits : ∀ k < 36, Punycode.isAscii (Punycode.digit k) = true ∧
      Label.isForbidden (Punycode.digit k) = false := by decide
  have mark : ∀ c ∈ ['x', 'n', '-', '-'], Punycode.isAscii c = true ∧
      Label.isForbidden c = false := List.forall_iff_forall_mem.mp (by decide)
  unfold writeLabel? at h
  split at h
  · rename_i hall
    obtain rfl := Option.some.inj h
    exact ⟨List.all_eq_true.mp hall c hc, Label.forall_not_isForbidden hl c hc⟩
  · simp only [Option.ite_none_right_eq_some, Option.some.injEq] at h
    obtain ⟨-, rfl⟩ := h
    -- the mark of a coded form, and then the form itself
    have hmark : c ∈ ['x', 'n', '-', '-'] ∨ c ∈ Punycode.encode label := by
      simpa [or_assoc] using hc
    rcases hmark with hm | hm
    · exact mark c hm
    · rcases Punycode.mem_encode hm with ⟨hm, ha⟩ | rfl | ⟨k, hk, rfl⟩
      · exact ⟨ha, Label.forall_not_isForbidden hl c hm⟩
      · decide
      · exact digits k hk

/-- The labels of a name that was read, and their written forms. -/
theorem exists_of_ascii {l name : List Char} (h : ascii? l = some name) :
    ∃ labels written, labels ≠ [] ∧ isName labels = true ∧
      labels.mapM writeLabel? = some written ∧ name = ['.'].intercalate written := by
  simp only [ascii?, Option.bind_eq_bind, Option.bind_eq_some_iff,
    Option.ite_none_right_eq_some] at h
  obtain ⟨normal, -, labels, hlabels, hname, written, hwritten, hjoin⟩ := h
  refine ⟨labels, written, ?_, hname, hwritten, (Option.some.inj hjoin).symm⟩
  rintro rfl
  have hnil := (mapM_eq_some_iff.mp hlabels).length_eq
  exact List.splitOn_ne_nil _ _ (List.length_eq_zero_iff.mp hnil)

theorem isWellFormed_of_isName {labels : List (List Char)} (h : isName labels = true)
    (hl : label ∈ labels) : Label.isWellFormed label = true := by
  simp only [isName, Bool.and_eq_true, List.all_eq_true] at h
  exact h.1 label hl

/-- The characters of a written domain name. -/
theorem isNameChar_of_mem_ascii {l name : List Char} (h : ascii? l = some name) :
    ∀ c ∈ name, isNameChar c = true := by
  obtain ⟨labels, written, -, hname, hwritten, rfl⟩ := exists_of_ascii h
  intro c hc
  rcases mem_intercalate hc with hc | ⟨w, hw, hc⟩
  · rw [List.mem_singleton.mp hc]
    decide
  · obtain ⟨label, hlabel, hwrite⟩ := exists_of_mem_mapM hwritten hw
    obtain ⟨ha, hf⟩ := of_mem_writeLabel hwrite (isWellFormed_of_isName hname hlabel) hc
    simp [isNameChar, ha, hf]

end Domain

end Characters

/-! ### ASCII labels -/

section Ascii

variable {l : List Char}

theorem Label.not_isIgnored_of_lt {c : Char} (h : c.toNat < 128) : Text.isIgnored c = false := by
  have hlt : ¬ 0xAD ≤ c.toNat := by omega
  simp [Text.isIgnored, Text.ignoredRanges, Text.inRanges, hlt]

/-- On ASCII the normal form makes letters small, and nothing else. -/
theorem Label.normal?_of_lt (h : ∀ c ∈ l, c.toNat < 128) :
    normal? l = if l.all isAdmitted then some (l.map Char.toLower) else none := by
  have hcount : l.filter (!Text.isIgnored ·) = l := by
    rw [List.filter_eq_self]
    intro c hc
    rw [not_isIgnored_of_lt (h c hc)]
    rfl
  have hfold : l.flatMap Text.folded = l.map Char.toLower := by
    rw [List.map_eq_flatMap]
    refine List.flatMap_congr fun c hc => ?_
    rw [Text.folded, if_pos (h c hc)]
  have hsmall : ∀ c ∈ l.map Char.toLower, c.toNat < 0xC0 := by
    intro c hc
    obtain ⟨d, hd, rfl⟩ := List.mem_map.mp hc
    have hall : ∀ n < 128, (Char.ofNat n).toLower.toNat < 0xC0 := by decide
    have := hall d.toNat (h d hd)
    rwa [Char.ofNat_toNat] at this
  rw [normal?, hcount, hfold, Text.composed_of_lt hsmall]

theorem Label.normal?_eq_some_self_iff (h : ∀ c ∈ l, c.toNat < 128) :
    normal? l = some l ↔ ∀ c ∈ l, isAdmitted c = true ∧ c.toLower = c := by
  have hmap : l.map Char.toLower = l ↔ ∀ c ∈ l, c.toLower = c := by
    conv_lhs => rw [← List.map_id l]
    rw [List.map_map, List.map_inj_left]
    rfl
  rw [normal?_of_lt h, Option.ite_none_right_eq_some, Option.some.injEq, List.all_eq_true, hmap]
  exact ⟨fun ⟨ha, hl⟩ c hc => ⟨ha c hc, hl c hc⟩,
    fun hall => ⟨fun c hc => (hall c hc).1, fun c hc => (hall c hc).2⟩⟩

end Ascii

/-! ### Names that are read as they are -/

namespace Domain

/-- A label in coded form. -/
def IsCoded (label : List Char) : Prop := ['x', 'n', '-', '-'] <+: label

instance (label : List Char) : Decidable (IsCoded label) :=
  inferInstanceAs (Decidable (_ <+: label))

theorem readLabel?_of_not_isCoded {label : List Char} (h : ¬ IsCoded label) :
    readLabel? label = some label := by
  unfold readLabel?
  split
  · exact absurd ⟨_, rfl⟩ h
  · rfl

theorem isCoded_of_writeLabel {label written : List Char} (h : writeLabel? label = some written)
    (ha : label.all Punycode.isAscii = false) : IsCoded written := by
  simp only [writeLabel?, ha, Bool.false_eq_true, if_false, Option.ite_none_right_eq_some,
    Option.some.injEq] at h
  exact ⟨_, h.2⟩

variable {labels : List (List Char)}

/-- ASCII labels that make up a name are read as they are, unless one looks like a coded form. -/
theorem ascii?_intercalate (hne : labels ≠ []) (hname : isName labels = true)
    (ha : ∀ label ∈ labels, label.all Punycode.isAscii = true)
    (hcoded : ∀ label ∈ labels, ¬ IsCoded label) :
    ascii? (['.'].intercalate labels) = some (['.'].intercalate labels) := by
  have hlt {label : List Char} (hl : label ∈ labels) : ∀ c ∈ label, c.toNat < 128 := by
    intro c hc
    simpa [Punycode.isAscii] using List.all_eq_true.mp (ha label hl) c hc
  have hchar : ∀ c ∈ ['.'].intercalate labels, c.toNat < 128 ∧
      Label.isAdmitted c = true ∧ c.toLower = c := by
    intro c hc
    rcases mem_intercalate hc with hc | ⟨label, hl, hc⟩
    · rw [List.mem_singleton.mp hc]
      decide +kernel
    · have hwell := isWellFormed_of_isName hname hl
      simp only [Label.isWellFormed, Bool.and_eq_true, beq_iff_eq] at hwell
      exact ⟨hlt hl c hc, (Label.normal?_eq_some_self_iff (hlt hl)).mp hwell.1.1 c hc⟩
  -- so the name is in normal form, and each step of reading it gives the labels back
  have hnormal := (Label.normal?_eq_some_self_iff fun c hc => (hchar c hc).1).mpr
    fun c hc => (hchar c hc).2
  have hsplit : (['.'].intercalate labels).splitOn '.' = labels := by
    refine List.splitOn_intercalate '.' (fun label hl hdot => ?_) hne
    have := Label.forall_not_isForbidden (isWellFormed_of_isName hname hl) '.' hdot
    exact absurd this (by decide)
  have hread : labels.mapM readLabel? = some labels :=
    mapM_eq_some_iff.mpr (List.forall₂_same.mpr fun label hl =>
      readLabel?_of_not_isCoded (hcoded label hl))
  have hwrite : labels.mapM writeLabel? = some labels :=
    mapM_eq_some_iff.mpr (List.forall₂_same.mpr fun label hl => by
      rw [writeLabel?, if_pos (ha label hl)])
  simp only [ascii?, hnormal, hsplit, hread, hname, hwrite, Option.bind_eq_bind, Option.bind_some,
    if_true]

/-- **A written name without coded labels is read as it is.** -/
theorem ascii?_of_written {l name : List Char} (h : ascii? l = some name)
    (hcoded : ∀ label ∈ name.splitOn '.', ¬ IsCoded label) : ascii? name = some name := by
  obtain ⟨labels, written, hne, hname, hwritten, rfl⟩ := exists_of_ascii h
  have hforall := mapM_eq_some_iff.mp hwritten
  have hne' : written ≠ [] := by
    rintro rfl
    exact hne (List.length_eq_zero_iff.mp hforall.length_eq)
  have hsplit : (['.'].intercalate written).splitOn '.' = written := by
    refine List.splitOn_intercalate '.' (fun w hw hdot => ?_) hne'
    obtain ⟨label, hl, hwrite⟩ := exists_of_mem_mapM hwritten hw
    exact absurd (of_mem_writeLabel hwrite (isWellFormed_of_isName hname hl) hdot).2 (by decide)
  rw [hsplit] at hcoded
  -- a label that is not ASCII would have been written in coded form
  have hascii {label w : List Char} (hw : w ∈ written) (hwrite : writeLabel? label = some w) :
      label.all Punycode.isAscii = true := by
    by_contra ha
    rw [Bool.not_eq_true] at ha
    exact hcoded w hw (isCoded_of_writeLabel hwrite ha)
  have hsame : ∀ {ls ws : List (List Char)}, (∀ w ∈ ws, w ∈ written) →
      List.Forall₂ (fun a b => writeLabel? a = some b) ls ws → ls = ws := by
    intro ls ws hmem hall
    induction hall with
    | nil => rfl
    | @cons label w ls ws hwrite _ ih =>
      have hw := hmem w List.mem_cons_self
      have heq := hwrite
      rw [writeLabel?, if_pos (hascii hw hwrite)] at heq
      rw [Option.some.inj heq, ih fun v hv => hmem v (List.mem_cons_of_mem w hv)]
  obtain rfl := hsame (fun _ hw => hw) hforall
  refine ascii?_intercalate hne hname (fun label hl => ?_) hcoded
  obtain ⟨label', -, hwrite⟩ := exists_of_mem_mapM hwritten hl
  have ha := hascii hl hwrite
  rw [writeLabel?, if_pos ha] at hwrite
  exact Option.some.inj hwrite ▸ ha

end Domain

end AssetAccess.Url
