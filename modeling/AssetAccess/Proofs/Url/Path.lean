import AssetAccess.Proofs.Text.Pieces
import AssetAccess.Proofs.Url.Encoding
/-!
# Reading a written path

A path is read into segments that are `Written`: encoded, without a slash of either kind, and none
that stands for dots (`written_segments`).  Such segments are read from their text as they are
(`segments_text`), so a path that was brought to normal form stays as it is when it is read again.

Encoding a segment makes no dots.  A dot is kept, so an escape that encoding makes is never that of
a dot, and the escapes that stood in the segment before were dots already (`dots_of_encodeSegment`).
-/

namespace AssetAccess.Url.Path

/-! ### Encoded segments -/

theorem encodeSegment_nil : encodeSegment [] = [] := by decide

theorem encodeSegment_cons (c : Char) (l : List Char) :
    encodeSegment (c :: l) =
      (String.utf8EncodeChar c).flatMap (Percent.encodeByte isKept) ++ encodeSegment l := by
  simp [encodeSegment, Percent.encodeBytes, Text.utf8]

theorem kept_encodeSegment (l : List Char) : Kept isKept (encodeSegment l) :=
  kept_encodeBytes reencodes_path _

theorem encodeSegment_of_kept {l : List Char} (h : Kept isKept l) : encodeSegment l = l := by
  rw [encodeSegment, encodeBytes_of_kept h, String.toList_ofList]

/-- A kept character at the start of a segment stays there; for any other there is an escape, which
is not that of a kept byte. -/
theorem encodeSegment_cons_cases (c : Char) (l : List Char) :
    encodeSegment (c :: l) = c :: encodeSegment l ∨
    ∃ (b : UInt8) (r : List Char), isKept b = false ∧ encodeSegment (c :: l) =
      '%' :: Hex.capitalDigit (b.toNat / 16) :: Hex.capitalDigit (b.toNat % 16) :: r := by
  rw [encodeSegment_cons]
  cases hbytes : String.utf8EncodeChar c with
  | nil => exact absurd hbytes String.utf8EncodeChar_ne_nil
  | cons b bs =>
    by_cases hb : isKept b = true
    · -- a kept byte is below 128, so it is the whole of its character
      left
      have hc : c.toNat < 128 := by
        by_contra hc
        have hmem : b ∈ String.utf8EncodeChar c := by
          rw [hbytes]
          exact List.mem_cons_self
        have := Text.le_of_mem_utf8EncodeChar (Nat.not_lt.mp hc) hmem
        have := reencodes_path.lt_of_keep b hb
        omega
      rw [Text.utf8EncodeChar_of_lt hc] at hbytes
      obtain ⟨rfl, rfl⟩ := List.cons.inj hbytes
      rw [List.flatMap_singleton, Percent.encodeByte, if_pos hb, Text.toNat_ofNat_toNat hc,
        Char.ofNat_toNat, List.singleton_append]
    · right
      rw [Bool.not_eq_true] at hb
      refine ⟨b, bs.flatMap (Percent.encodeByte isKept) ++ encodeSegment l, hb, ?_⟩
      rw [List.flatMap_cons, Percent.encodeByte, hb]
      rfl

/-- What stands at the start of an encoded segment, other than a percent sign, stood there
before. -/
theorem encodeSegment_eq_cons {l m : List Char} {c : Char} (hc : c ≠ '%')
    (h : encodeSegment l = c :: m) : ∃ l', l = c :: l' ∧ encodeSegment l' = m := by
  cases l with
  | nil =>
    rw [encodeSegment_nil] at h
    exact absurd h (by simp)
  | cons d l =>
    rcases encodeSegment_cons_cases d l with hd | ⟨b, r, _, hd⟩ <;> rw [hd] at h
    · obtain ⟨rfl, rfl⟩ := List.cons.inj h
      exact ⟨l, rfl, rfl⟩
    · exact absurd (List.cons.inj h).1.symm hc

/-! ### Dots -/

theorem decodeDots_cons {c : Char} {l : List Char} (he : ∀ r, c = '%' → l ≠ '2' :: 'e' :: r)
    (hE : ∀ r, c = '%' → l ≠ '2' :: 'E' :: r) : decodeDots (c :: l) = c :: decodeDots l := by
  rw [decodeDots]
  · exact he
  · exact hE

/-- The escape of a byte that is not kept is not that of a dot. -/
theorem decodeDots_escape {b : UInt8} (hb : isKept b = false) (r : List Char) :
    ∃ m, decodeDots ('%' :: Hex.capitalDigit (b.toNat / 16) :: Hex.capitalDigit (b.toNat % 16) :: r)
      = '%' :: m := by
  have hlt := b.toNat_lt
  have digits : ∀ n < 16, Hex.capitalDigit n ≠ 'e' ∧ (Hex.capitalDigit n = '2' → n = 2) ∧
      (Hex.capitalDigit n = 'E' → n = 14) := by decide
  refine ⟨_, decodeDots_cons (fun s _ hs => ?_) fun s _ hs => ?_⟩
  · obtain ⟨_, hs⟩ := List.cons.inj hs
    exact (digits _ (by omega)).1 (List.cons.inj hs).1
  · obtain ⟨h2, hs⟩ := List.cons.inj hs
    have high := (digits (b.toNat / 16) (by omega)).2.1 h2
    have low := (digits (b.toNat % 16) (by omega)).2.2 (List.cons.inj hs).1
    have hdot : b = 0x2E := UInt8.toNat_inj.mp (show b.toNat = 46 by omega)
    rw [hdot] at hb
    exact absurd hb (by decide)

/-- A segment that is encoded as dots stood for dots before. -/
theorem dots_of_encodeSegment (l : List Char) (n : Nat)
    (h : decodeDots (encodeSegment l) = List.replicate n '.') :
    decodeDots l = List.replicate n '.' := by
  -- the escape of a dot is kept, and encoding goes on behind it
  have escaped (e : Char) (r : List Char) (he : Kept isKept ['%', '2', e]) :
      encodeSegment ('%' :: '2' :: e :: r) = '%' :: '2' :: e :: encodeSegment r := by
    have h3 := encodeSegment_of_kept he
    simp only [encodeSegment_cons, encodeSegment_nil, List.append_nil] at h3
    rw [encodeSegment_cons, encodeSegment_cons, encodeSegment_cons, ← List.append_assoc,
      ← List.append_assoc, List.append_assoc _ _ (List.flatMap _ _), h3]
    rfl
  induction l using decodeDots.induct generalizing n with
  | case1 r ih =>
    rw [escaped 'e' r (by decide), decodeDots] at h
    obtain _ | n := n
    · exact absurd h (by simp)
    · rw [decodeDots, List.replicate_succ, ih n (List.cons.inj h).2]
  | case2 r ih =>
    rw [escaped 'E' r (by decide), decodeDots] at h
    obtain _ | n := n
    · exact absurd h (by simp)
    · rw [decodeDots, List.replicate_succ, ih n (List.cons.inj h).2]
  | case3 c r he hE ih =>
    rw [decodeDots_cons he hE]
    rcases encodeSegment_cons_cases c r with hc | ⟨b, m, hb, hc⟩ <;> rw [hc] at h
    · -- an escape of a dot would have stood in the segment itself
      rw [decodeDots_cons (fun s hp hs => ?_) fun s hp hs => ?_] at h
      · obtain _ | n := n
        · exact absurd h (by simp)
        · rw [List.replicate_succ, ih n (List.cons.inj h).2, (List.cons.inj h).1]
      · obtain ⟨r', rfl, hr'⟩ := encodeSegment_eq_cons (by decide) hs
        obtain ⟨r'', rfl, _⟩ := encodeSegment_eq_cons (by decide) hr'
        exact he r'' hp rfl
      · obtain ⟨r', rfl, hr'⟩ := encodeSegment_eq_cons (by decide) hs
        obtain ⟨r'', rfl, _⟩ := encodeSegment_eq_cons (by decide) hr'
        exact hE r'' hp rfl
    · obtain ⟨m', hm'⟩ := decodeDots_escape hb m
      rw [hm'] at h
      obtain _ | n := n
      · exact absurd h (by simp)
      · exact absurd (List.cons.inj h).1 (by decide)
  | case4 =>
    rw [encodeSegment_nil] at h
    exact h

/-! ### Written segments -/

/-- A segment as it stands in a path that was read: each character is kept and none is a slash, and
the segment does not stand for dots. -/
structure Written (s : List Char) : Prop where
  kept : Kept isKept s
  not_isSlash : ∀ c ∈ s, isSlash c = false
  not_dot : decodeDots s ≠ ['.']
  not_dots : decodeDots s ≠ ['.', '.']

theorem written_nil : Written [] where
  kept _ h := absurd h List.not_mem_nil
  not_isSlash _ h := absurd h List.not_mem_nil
  not_dot := by decide
  not_dots := by decide

/-- Encoding makes no slash. -/
theorem isSlash_of_mem_encodeSegment {l : List Char} (h : ∀ c ∈ l, isSlash c = false) :
    ∀ c ∈ encodeSegment l, isSlash c = false := by
  have digits : ∀ n < 16, isSlash (Hex.capitalDigit n) = false := by decide
  intro c hc
  rw [encodeSegment, Percent.encodeBytes, String.toList_ofList, Text.utf8, String.toList_ofList,
    List.flatMap_assoc] at hc
  obtain ⟨d, hd, hc⟩ := List.mem_flatMap.mp hc
  obtain ⟨b, hb, hc⟩ := List.mem_flatMap.mp hc
  have hlt := b.toNat_lt
  unfold Percent.encodeByte at hc
  split at hc
  · -- a kept byte is its character
    rename_i hkeep
    have hd128 : d.toNat < 128 := by
      by_contra hd128
      have := Text.le_of_mem_utf8EncodeChar (Nat.not_lt.mp hd128) hb
      have := reencodes_path.lt_of_keep b hkeep
      omega
    rw [Text.utf8EncodeChar_of_lt hd128, List.mem_singleton] at hb
    rw [List.mem_singleton, hb, Text.toNat_ofNat_toNat hd128, Char.ofNat_toNat] at hc
    rw [hc]
    exact h d hd
  · simp only [List.mem_cons, List.not_mem_nil, or_false] at hc
    rcases hc with rfl | rfl | rfl
    · decide
    · exact digits _ (by omega)
    · exact digits _ (by omega)

theorem written_encodeSegment {l : List Char} (hs : ∀ c ∈ l, isSlash c = false)
    (h1 : decodeDots l ≠ ['.']) (h2 : decodeDots l ≠ ['.', '.']) : Written (encodeSegment l) where
  kept := kept_encodeSegment l
  not_isSlash := isSlash_of_mem_encodeSegment hs
  not_dot h := h1 (dots_of_encodeSegment l 1 h)
  not_dots h := h2 (dots_of_encodeSegment l 2 h)

/-! ### Reading -/

theorem mem_up {done : List (List Char)} {s : List Char} (h : s ∈ up done) : s ∈ done := by
  unfold up at h
  split at h
  · exact h
  · exact List.dropLast_subset _ h

/-- Resolving segments without slashes leaves written ones. -/
theorem written_resolve {done l : List (List Char)} (hd : ∀ s ∈ done, Written s)
    (hl : ∀ s ∈ l, ∀ c ∈ s, isSlash c = false) : ∀ s ∈ resolve done l, Written s := by
  -- dots at the end of a path leave an empty segment
  have closed {d : List (List Char)} (h : ∀ s ∈ d, Written s) : ∀ s ∈ d ++ [[]], Written s := by
    intro s hs
    rcases List.mem_append.mp hs with hs | hs
    · exact h s hs
    · rw [List.mem_singleton.mp hs]
      exact written_nil
  induction done, l using resolve.induct with
  | case1 done =>
    rw [resolve]
    exact hd
  | case2 done s l h2 ih =>
    rw [resolve, if_pos h2]
    have hup : ∀ t ∈ up done, Written t := fun t ht => hd t (mem_up ht)
    refine ih ?_ fun t ht => hl t (List.mem_cons_of_mem s ht)
    split
    · exact closed hup
    · exact hup
  | case3 done s l h2 h1 ih =>
    rw [resolve, if_neg h2, if_pos h1]
    refine ih ?_ fun t ht => hl t (List.mem_cons_of_mem s ht)
    split
    · exact closed hd
    · exact hd
  | case4 done s l h2 h1 ih =>
    rw [resolve, if_neg h2, if_neg h1]
    refine ih (fun t ht => ?_) fun t ht => hl t (List.mem_cons_of_mem s ht)
    rcases List.mem_append.mp ht with ht | ht
    · exact hd t ht
    · rw [List.mem_singleton.mp ht]
      exact written_encodeSegment (hl s List.mem_cons_self) h1 h2

/-- Something is left when at least one segment is resolved. -/
theorem resolve_ne_nil {done l : List (List Char)} (h : l ≠ [] ∨ done ≠ []) :
    resolve done l ≠ [] := by
  induction done, l using resolve.induct with
  | case1 done =>
    rw [resolve]
    exact h.resolve_left (by simp)
  | case2 done s l h2 ih =>
    rw [resolve, if_pos h2]
    cases l with
    | nil => exact ih (Or.inr (by simp))
    | cons t l => exact ih (Or.inl (by simp))
  | case3 done s l h2 h1 ih =>
    rw [resolve, if_neg h2, if_pos h1]
    cases l with
    | nil => exact ih (Or.inr (by simp))
    | cons t l => exact ih (Or.inl (by simp))
  | case4 done s l h2 h1 ih =>
    rw [resolve, if_neg h2, if_neg h1]
    exact ih (Or.inr (by simp))

/-- Reading a path gives written segments. -/
theorem written_segments (l : List Char) : ∀ s ∈ segments l, Written s :=
  written_resolve (fun _ h => absurd h List.not_mem_nil) fun _ hs =>
    Text.eq_false_of_mem_splitOnP hs

/-- Reading a path gives a segment at least. -/
theorem segments_ne_nil (l : List Char) : segments l ≠ [] :=
  resolve_ne_nil (Or.inl (List.splitOnP_ne_nil _ _))

/-! ### Reading again -/

variable {segs : List (List Char)}

/-- Written segments are resolved to themselves. -/
theorem resolve_of_written (h : ∀ s ∈ segs, Written s) (done : List (List Char)) :
    resolve done segs = done ++ segs := by
  induction segs generalizing done with
  | nil => rw [resolve, List.append_nil]
  | cons s l ih =>
    have hs := h s List.mem_cons_self
    rw [resolve, if_neg hs.not_dots, if_neg hs.not_dot, encodeSegment_of_kept hs.kept,
      ih (fun t ht => h t (List.mem_cons_of_mem s ht)), List.append_assoc, List.singleton_append]

theorem toList_text (segs : List (List Char)) :
    (text segs).toList = segs.flatMap fun s => '/' :: s := by
  rw [text, String.toList_ofList]

theorem splitOnP_append_flatMap {s : List Char} (hs : ∀ c ∈ s, isSlash c = false)
    (h : ∀ t ∈ segs, Written t) :
    (s ++ segs.flatMap fun t => '/' :: t).splitOnP isSlash = s :: segs := by
  induction segs generalizing s with
  | nil => rw [List.flatMap_nil, List.append_nil, List.splitOnP_eq_singleton hs]
  | cons t l ih =>
    rw [List.flatMap_cons, List.cons_append,
      List.splitOnP_append_cons_of_forall_mem hs '/' (by decide),
      ih (h t List.mem_cons_self).not_isSlash fun u hu => h u (List.mem_cons_of_mem t hu)]

/-- **Written segments are read from their text as they are.** -/
theorem segments_text (hne : segs ≠ []) (h : ∀ s ∈ segs, Written s) :
    segments (text segs).toList = segs := by
  obtain ⟨s, l, rfl⟩ := List.exists_cons_of_ne_nil hne
  have hs := h s List.mem_cons_self
  rw [toList_text, List.flatMap_cons, List.cons_append]
  show resolve [] ((s ++ l.flatMap fun t => '/' :: t).splitOnP isSlash) = s :: l
  rw [splitOnP_append_flatMap hs.not_isSlash fun t ht => h t (List.mem_cons_of_mem s ht),
    resolve_of_written h, List.nil_append]

/-- The text of written segments is kept. -/
theorem kept_text (h : ∀ s ∈ segs, Written s) : Kept isKept (text segs).toList := by
  intro c hc
  rw [toList_text] at hc
  obtain ⟨s, hs, hc⟩ := List.mem_flatMap.mp hc
  rcases List.mem_cons.mp hc with rfl | hc
  · decide
  · exact (h s hs).kept c hc

end AssetAccess.Url.Path
