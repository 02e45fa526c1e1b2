/-! # Texts in ascending order -/

namespace AssetAccess.Text

/-- The texts in ascending order of their characters, which is also that of their UTF-8 bytes. -/
def sorted (l : List String) : List String := l.mergeSort fun a b => decide (a ≤ b)

theorem sorted_perm (l : List String) : (sorted l).Perm l := List.mergeSort_perm l _

theorem pairwise_sorted (l : List String) : (sorted l).Pairwise (· ≤ ·) := by
  have h := @List.pairwise_mergeSort String (fun a b => decide (a ≤ b))
    (fun a b c hab hbc => by simpa using String.le_trans (by simpa using hab) (by simpa using hbc))
    (fun a b => by simpa using String.le_total a b) l
  exact h.imp (by simp)

theorem mem_sorted {s : String} {l : List String} : s ∈ sorted l ↔ s ∈ l := (sorted_perm l).mem_iff

/-- Two collections of texts are the same in order exactly when they are the same with their
multiplicities. -/
theorem sorted_eq_sorted_iff {l m : List String} : sorted l = sorted m ↔ l.Perm m := by
  constructor
  · intro h
    exact (sorted_perm l).symm.trans (h ▸ sorted_perm m)
  · intro h
    exact List.Perm.eq_of_pairwise (fun a b _ _ hab hba => String.le_antisymm hab hba)
      (pairwise_sorted l) (pairwise_sorted m) ((sorted_perm l).trans (h.trans (sorted_perm m).symm))

end AssetAccess.Text
