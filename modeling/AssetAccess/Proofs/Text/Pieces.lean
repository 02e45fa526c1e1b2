import AssetAccess.Proofs.Sequence
import AssetAccess.Text.Ascii
import Mathlib.Tactic.ByContra
/-!
# Texts and their pieces

`pieces sep` cuts a text at every occurrence of one character, and `intercalate` puts the pieces
together again.  The two are inverse to each other (`intercalate_pieces`, `pieces_intercalate`), as
long as the pieces are not empty in number and none of them holds the separator.  So a text joined
from such pieces determines them (`intercalate_inj`).
-/

namespace AssetAccess.Text

variable {sep : Char} {mark : String}

/-- No separator stands in a piece. -/
theorem eq_false_of_mem_splitOnP {isSep : Char → Bool} {l p : List Char}
    (h : p ∈ l.splitOnP isSep) : ∀ c ∈ p, isSep c = false := by
  induction l generalizing p with
  | nil =>
    rw [List.splitOnP_nil, List.mem_singleton] at h
    simp [h]
  | cons c l ih =>
    rw [List.splitOnP_cons_eq_if_modifyHead] at h
    split at h
    · rcases List.mem_cons.mp h with rfl | h
      · simp
      · exact ih h
    · rename_i hc
      obtain ⟨q, r, hqr⟩ := List.exists_cons_of_ne_nil (List.splitOnP_ne_nil isSep l)
      rw [hqr, List.modifyHead_cons] at h
      rcases List.mem_cons.mp h with rfl | h
      · have hq := ih (p := q) (by simp [hqr])
        simpa [hc] using hq
      · exact ih (by simp [hqr, h])

theorem not_mem_of_mem_splitOn {l p : List Char} (h : p ∈ l.splitOn sep) : sep ∉ p := by
  intro hs
  have := eq_false_of_mem_splitOnP h sep hs
  simp at this

/-- A character of a joined text stands in the mark or in a piece. -/
theorem mem_toList_intercalate {c : Char} {l : List String}
    (h : c ∈ (mark.intercalate l).toList) : c ∈ mark.toList ∨ ∃ p ∈ l, c ∈ p.toList := by
  rw [String.toList_intercalate] at h
  rcases mem_intercalate h with h | ⟨q, hq, hc⟩
  · exact Or.inl h
  · obtain ⟨p, hp, rfl⟩ := List.mem_map.mp hq
    exact Or.inr ⟨p, hp, hc⟩

/-! ### Cutting once -/

theorem cutFirst_of_not_mem {l : List Char} (h : sep ∉ l) : cutFirst sep l = (l, none) := by
  induction l with
  | nil => rfl
  | cons c l ih =>
    rw [List.mem_cons, not_or] at h
    rw [cutFirst, if_neg (Ne.symm h.1), ih h.2]

theorem cutFirst_append {l : List Char} (h : sep ∉ l) (r : List Char) :
    cutFirst sep (l ++ sep :: r) = (l, some r) := by
  induction l with
  | nil => rw [List.nil_append, cutFirst, if_pos rfl]
  | cons c l ih =>
    rw [List.mem_cons, not_or] at h
    rw [List.cons_append, cutFirst, if_neg (Ne.symm h.1), ih h.2]

/-! ### Cutting everywhere -/

theorem pieces_ne_nil (sep : Char) (s : String) : pieces sep s ≠ [] := by
  simp [pieces]

theorem not_mem_of_mem_pieces {s p : String} (h : p ∈ pieces sep s) : sep ∉ p.toList := by
  obtain ⟨q, hq, rfl⟩ := List.mem_map.mp h
  rw [String.toList_ofList]
  exact not_mem_of_mem_splitOn hq

/-- Joining the pieces gives the text back. -/
theorem intercalate_pieces (hm : mark.toList = [sep]) (s : String) :
    mark.intercalate (pieces sep s) = s := by
  rw [← String.toList_inj, String.toList_intercalate, hm, pieces, List.map_map,
    show String.toList ∘ String.ofList = id from funext fun l => String.toList_ofList, List.map_id]
  exact List.intercalate_splitOn sep

/-- Cutting a joined text gives the pieces back. -/
theorem pieces_intercalate (hm : mark.toList = [sep]) {l : List String} (hl : l ≠ [])
    (h : ∀ p ∈ l, sep ∉ p.toList) : pieces sep (mark.intercalate l) = l := by
  rw [pieces, String.toList_intercalate, hm, List.splitOn_intercalate sep _ (by simpa using hl),
    List.map_map, show String.ofList ∘ String.toList = id from funext fun s => String.ofList_toList,
    List.map_id]
  intro q hq
  obtain ⟨p, hp, rfl⟩ := List.mem_map.mp hq
  exact h p hp

/-- A first piece can be cut off whatever the rest holds. -/
theorem pieces_append (hm : mark.toList = [sep]) {p : String} (hp : sep ∉ p.toList) (t : String) :
    pieces sep (p ++ mark ++ t) = p :: pieces sep t := by
  rw [pieces, String.toList_append, String.toList_append, hm, List.append_assoc,
    List.singleton_append, List.splitOn_append_cons_self_of_not_mem hp, List.map_cons,
    String.ofList_toList]
  rfl

theorem pieces_injective (hm : mark.toList = [sep]) {s t : String}
    (h : pieces sep s = pieces sep t) : s = t := by
  rw [← intercalate_pieces hm s, h, intercalate_pieces hm t]

theorem pieces_eq_iff (hm : mark.toList = [sep]) {s : String} {l : List String} :
    pieces sep s = l ↔ l ≠ [] ∧ (∀ p ∈ l, sep ∉ p.toList) ∧ mark.intercalate l = s := by
  constructor
  · rintro rfl
    exact ⟨pieces_ne_nil sep s, fun p => not_mem_of_mem_pieces, intercalate_pieces hm s⟩
  · rintro ⟨hl, h, rfl⟩
    exact pieces_intercalate hm hl h

/-- What is joined behind a text falls off it piece by piece, whatever the text holds. -/
theorem pieces_append_intercalate (hm : mark.toList = [sep]) (front : String) {l : List String}
    (hl : l ≠ []) (h : ∀ p ∈ l, sep ∉ p.toList) :
    pieces sep (front ++ mark ++ mark.intercalate l) = pieces sep front ++ l := by
  have hne := pieces_ne_nil sep front
  refine (pieces_eq_iff hm).mpr ⟨by simp [hl], ?_, ?_⟩
  · intro p hp
    rcases List.mem_append.mp hp with hp | hp
    · exact not_mem_of_mem_pieces hp
    · exact h p hp
  · rw [String.intercalate_append_of_ne_nil hne hl, intercalate_pieces hm]

/-- A text falls into one piece more than it has separators. -/
theorem length_pieces (sep : Char) (s : String) :
    (pieces sep s).length = s.toList.count sep + 1 := by
  rw [pieces, List.length_map]
  induction s.toList with
  | nil => rfl
  | cons c l ih =>
    rw [List.splitOn_cons_eq_if_modifyHead, List.count_cons]
    split
    · rw [List.length_cons, ih]
    · rw [List.length_modifyHead, ih]

/-- A joined text determines its pieces. -/
theorem intercalate_inj (hm : mark.toList = [sep]) {l m : List String} (hl : l ≠ []) (hm' : m ≠ [])
    (h : ∀ p ∈ l, sep ∉ p.toList) (h' : ∀ p ∈ m, sep ∉ p.toList)
    (he : mark.intercalate l = mark.intercalate m) : l = m := by
  rw [← pieces_intercalate hm hl h, he, pieces_intercalate hm hm' h']

/-! ### Parts

A joined text of no part at all is empty, and so is one of a single empty part.  Where no part is
empty, the two cannot be confused. -/

/-- The pieces of a text, where the empty text has none. -/
def parts (sep : Char) (s : String) : List String := if s = "" then [] else pieces sep s

theorem parts_intercalate (hm : mark.toList = [sep]) {l : List String}
    (h : ∀ p ∈ l, p ≠ "" ∧ sep ∉ p.toList) : parts sep (mark.intercalate l) = l := by
  by_cases hl : l = []
  · rw [hl, String.intercalate_nil, parts, if_pos rfl]
  · have hp := pieces_intercalate hm hl fun p hp => (h p hp).2
    have hne : mark.intercalate l ≠ "" := by
      intro he
      rw [he, show pieces sep "" = [""] by simp [pieces]] at hp
      exact (h "" (by simp [← hp])).1 rfl
    rw [parts, if_neg hne, hp]

end AssetAccess.Text
