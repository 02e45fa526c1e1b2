import AssetAccess.Text.Ascii
/-!
# Sets of header names

The names of the headers that a signature is to cover, each once and in ascending order.  Two sets
with the same members are equal.
-/

namespace AssetAccess.Auth

/-- Puts a name at its place in an ascending list, unless it is there. -/
def insertName (a : String) : List String → List String
  | [] => [a]
  | b :: l => if a < b then a :: b :: l else if b < a then b :: insertName a l else b :: l

theorem mem_insertName {a x : String} {l : List String} : x ∈ insertName a l ↔ x = a ∨ x ∈ l := by
  induction l with
  | nil => simp [insertName]
  | cons b l ih =>
    unfold insertName
    split
    · simp
    · split
      · simp only [List.mem_cons, ih]
        constructor
        · rintro (h | h | h) <;> simp [h]
        · rintro (h | h | h) <;> simp [h]
      · -- neither name is below the other, so they are one
        have : a = b := String.le_antisymm (String.not_lt.1 ‹¬b < a›) (String.not_lt.1 ‹¬a < b›)
        subst this
        simp

theorem pairwise_insertName {a : String} {l : List String} (h : l.Pairwise (· < ·)) :
    (insertName a l).Pairwise (· < ·) := by
  induction l with
  | nil => simp [insertName]
  | cons b l ih =>
    unfold insertName
    rw [List.pairwise_cons] at h
    split
    · rename_i hab
      refine List.pairwise_cons.2 ⟨?_, List.pairwise_cons.2 h⟩
      intro c hc
      rcases List.mem_cons.1 hc with rfl | hc
      · exact hab
      · exact String.lt_trans hab (h.1 c hc)
    · split
      · rename_i hba
        refine List.pairwise_cons.2 ⟨?_, ih h.2⟩
        intro c hc
        rcases mem_insertName.1 hc with rfl | hc
        · exact hba
        · exact h.1 c hc
      · exact List.pairwise_cons.2 h

/-- A set of header names. -/
structure NameSet where
  toList : List String
  pairwise_lt : toList.Pairwise (· < ·)
deriving DecidableEq

namespace NameSet

/-- The set with these members. -/
def ofList (l : List String) : NameSet where
  toList := l.foldr insertName []
  pairwise_lt := by
    induction l with
    | nil => simp
    | cons a l ih => exact pairwise_insertName ih

/-- Whether a name is in the set. -/
def contains (s : NameSet) (name : String) : Bool := s.toList.contains name

instance : Membership String NameSet := ⟨fun s name => name ∈ s.toList⟩

theorem mem_ofList {name : String} {l : List String} : name ∈ ofList l ↔ name ∈ l := by
  show name ∈ l.foldr insertName [] ↔ _
  induction l with
  | nil => simp
  | cons a l ih => simp only [List.foldr_cons, mem_insertName, ih, List.mem_cons]

theorem contains_iff {s : NameSet} {name : String} : s.contains name = true ↔ name ∈ s := by
  simp [contains, Membership.mem]

/-- The members with the ASCII letters of each made small. -/
def lower (s : NameSet) : NameSet := ofList (s.toList.map Text.lower)

end NameSet

end AssetAccess.Auth
