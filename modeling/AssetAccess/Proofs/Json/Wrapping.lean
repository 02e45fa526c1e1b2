import AssetAccess.Json.Value
import AssetAccess.Proofs.Json.Tree
/-!
# Wrapped texts

`Wraps t s` says that an object wraps a text: it has the one key that is kept for this, and the text
as a string.  An object that starts with the key and is otherwise different (`IsWrapper`) wraps
nothing (`wrapped?_eq_some_iff`).

`Holds s t` says that an object somewhere in a tree wraps a text.  The text is shorter than that of
the tree (`Holds.length_lt_of_isText`), so there is an end to wrapping.
-/

namespace AssetAccess.Json.Tree

/-- The tree is an object whose first key is the one that is kept for wrapping. -/
def IsWrapper : Tree → Prop
  | .object _ ((key, _) :: _) => StringText.Denotes key Value.wrapKey.toList
  | _ => False

/-- The tree is an object that wraps a text. -/
inductive Wraps : Tree → String → Prop where
  | object (source : List Char) {key inside : List Char} {s : String}
      (hk : StringText.Denotes key Value.wrapKey.toList)
      (hs : StringText.Denotes inside s.toList) : Wraps (.object source [(key, .string inside)]) s

/-- An object in the tree wraps the text. -/
inductive Holds (s : String) : Tree → Prop where
  | wraps {t : Tree} (h : Wraps t s) : Holds s t
  | item (source : List Char) {items : List Tree} {t : Tree} (ht : t ∈ items) (h : Holds s t) :
      Holds s (.array source items)
  | member (source : List Char) {members : List (List Char × Tree)} {m : List Char × Tree}
      (hm : m ∈ members) (h : Holds s m.2) : Holds s (.object source members)

section Objects

variable {source : List Char} {members : List (List Char × Tree)} {s : String}

theorem isWrapper_iff :
    Value.isWrapper members = true ↔ (Tree.object source members).IsWrapper := by
  cases members with
  | nil => exact iff_of_false (by simp [Value.isWrapper]) id
  | cons m members =>
    rw [Value.isWrapper, decide_eq_true_eq, StringText.decode?_eq_some_iff]
    rfl

theorem Wraps.isWrapper {t : Tree} (h : Wraps t s) : t.IsWrapper := by
  cases h with
  | object _ hk _ => exact hk

/-- An object that starts with the key wraps the text that is found in it. -/
theorem wrapped?_eq_some_iff (h : (Tree.object source members).IsWrapper) :
    Value.wrapped? members = some s ↔ Wraps (.object source members) s := by
  constructor
  · intro hs
    unfold Value.wrapped? at hs
    split at hs
    · obtain ⟨l, hl, rfl⟩ := Option.map_eq_some_iff.mp hs
      exact .object source h (by rwa [String.toList_ofList, ← StringText.decode?_eq_some_iff])
    · exact absurd hs (by simp)
  · rintro ⟨⟩
    rename_i key inside hk hs
    rw [Value.wrapped?, StringText.decode?_eq_some_iff.mpr hs, Option.map_some,
      String.ofList_toList]

end Objects

/-! ### Lengths -/

/-- A text that a value holds is shorter than the value. -/
theorem Holds.length_lt {s : String} {t : Tree} (h : Holds s t) {p : List Char}
    (hp : Spells t p) : s.length < p.length := by
  induction h generalizing p with
  | wraps h =>
    cases h with
    | object _ hk hs =>
      have hlength := hs.length_le
      rw [String.length_toList] at hlength
      cases hp with
      | object _ hmembers =>
        obtain ⟨q, hq, hle⟩ := hmembers.exists_spells List.mem_cons_self
        cases hq with
        | string =>
          simp only [List.length_cons, List.length_append] at hle ⊢
          omega
  | item source ht h ih =>
    cases hp with
    | emptyArray => exact absurd ht List.not_mem_nil
    | array _ hitems =>
      obtain ⟨q, hq, hle⟩ := hitems.exists_spells ht
      have hlt := ih hq
      simp only [List.length_cons, List.length_append]
      omega
  | member source hm h ih =>
    cases hp with
    | emptyObject => exact absurd hm List.not_mem_nil
    | object _ hmembers =>
      obtain ⟨q, hq, hle⟩ := hmembers.exists_spells hm
      have hlt := ih hq
      simp only [List.length_cons, List.length_append]
      omega

/-- A text that is held in a text is shorter. -/
theorem Holds.length_lt_of_isText {s s' : String} {t : Tree} (h : Holds s t) (ht : IsText t s') :
    s.length < s'.length := by
  obtain ⟨w, l, w', -, hspells, -, hs'⟩ := ht
  have hlt := h.length_lt hspells
  rw [← String.length_toList (s := s'), hs', List.length_append, List.length_append]
  omega

end AssetAccess.Json.Tree
