import Mathlib.Data.List.DropRight
import Mathlib.Data.List.Forall2
/-!
# Step after step

A reader that takes several steps succeeds exactly when each of them does (`bind_eq_ok_iff`), and
one that reads the items of a list does so exactly when it reads each (`mapM_eq_some_iff`).  A list
is what is left between its ends with what was dropped there (`exists_dropWhile_reverse`).
-/

namespace AssetAccess

variable {α β ε : Type}

theorem bind_eq_ok_iff {x : Except ε α} {f : α → Except ε β} {b : β} :
    x >>= f = .ok b ↔ ∃ a, x = .ok a ∧ f a = .ok b := by
  cases x with
  | error e => simp [bind, Except.bind]
  | ok a => simp [bind, Except.bind]

/-- A reader fails as its first step that fails. -/
theorem bind_eq_error_iff {x : Except ε α} {f : α → Except ε β} {e : ε} :
    x >>= f = .error e ↔ x = .error e ∨ ∃ a, x = .ok a ∧ f a = .error e := by
  cases x with
  | error e => simp [bind, Except.bind]
  | ok a => simp [bind, Except.bind]

theorem map_eq_ok_iff {x : Except ε α} {f : α → β} {b : β} :
    x.map f = .ok b ↔ ∃ a, x = .ok a ∧ f a = b := by
  cases x with
  | error e => simp [Except.map]
  | ok a => simp [Except.map]

theorem mapM_eq_some_iff {f : α → Option β} {l : List α} {m : List β} :
    l.mapM f = some m ↔ List.Forall₂ (fun a b => f a = some b) l m := by
  induction l generalizing m with
  | nil => simp [eq_comm]
  | cons a l ih =>
    simp only [List.mapM_cons, Option.bind_eq_bind, Option.bind_eq_some_iff, ih,
      List.forall₂_cons_left_iff, Option.pure_def, Option.some.injEq]
    constructor
    · rintro ⟨b, hb, n, hn, rfl⟩
      exact ⟨b, n, hb, hn, rfl⟩
    · rintro ⟨b, n, hb, hn, rfl⟩
      exact ⟨b, hb, n, hn, rfl⟩

/-- A list is what is left of it when items are dropped at both ends, with such items around it. -/
theorem exists_dropWhile_reverse (p : α → Bool) (l : List α) :
    ∃ before after, l = before ++ ((l.dropWhile p).reverse.dropWhile p).reverse ++ after ∧
      (∀ a ∈ before, p a = true) ∧ ∀ a ∈ after, p a = true := by
  refine ⟨l.takeWhile p, (l.dropWhile p).rtakeWhile p, ?_, fun a => List.mem_takeWhile_imp,
    fun a => List.mem_rtakeWhile_imp⟩
  have hend : ((l.dropWhile p).reverse.dropWhile p).reverse ++ (l.dropWhile p).rtakeWhile p =
      l.dropWhile p := List.rdropWhile_append_rtakeWhile
  rw [List.append_assoc, hend, List.takeWhile_append_dropWhile]

section Forall₂

variable {R : α → β → Prop} {l : List α} {m : List β}

theorem exists_of_mem_forall₂ (h : List.Forall₂ R l m) {b : β} (hb : b ∈ m) : ∃ a ∈ l, R a b := by
  induction h with
  | nil => exact absurd hb List.not_mem_nil
  | cons hab _ ih =>
    rcases List.mem_cons.mp hb with rfl | hb
    · exact ⟨_, List.mem_cons_self, hab⟩
    · obtain ⟨a, ha, hab⟩ := ih hb
      exact ⟨a, List.mem_cons_of_mem _ ha, hab⟩

theorem exists_of_getElem?_forall₂ (h : List.Forall₂ R l m) {i : Nat} {b : β}
    (hb : m[i]? = some b) : ∃ a, l[i]? = some a ∧ R a b := by
  induction h generalizing i with
  | nil => exact absurd hb (by simp)
  | cons hab _ ih =>
    cases i with
    | zero =>
      obtain rfl := Option.some.inj hb
      exact ⟨_, rfl, hab⟩
    | succ i => exact ih hb

end Forall₂

/-- What is read of a list comes from its items. -/
theorem exists_of_mem_mapM {f : α → Option β} {l : List α} {m : List β} (h : l.mapM f = some m)
    {b : β} (hb : b ∈ m) : ∃ a ∈ l, f a = some b := exists_of_mem_forall₂ (mapM_eq_some_iff.mp h) hb

/-- An item of a joined list stands in the mark or in one of the lists. -/
theorem mem_intercalate {mark : List α} {l : List (List α)} {a : α}
    (h : a ∈ mark.intercalate l) : a ∈ mark ∨ ∃ p ∈ l, a ∈ p := by
  induction l with
  | nil => simp at h
  | cons p l ih =>
    cases l with
    | nil =>
      rw [List.intercalate_singleton] at h
      exact Or.inr ⟨p, List.mem_cons_self, h⟩
    | cons q l =>
      rw [List.intercalate_cons_cons, List.mem_append, List.mem_append] at h
      rcases h with (h | h) | h
      · exact Or.inr ⟨p, List.mem_cons_self, h⟩
      · exact Or.inl h
      · rcases ih h with h | ⟨r, hr, ha⟩
        · exact Or.inl h
        · exact Or.inr ⟨r, List.mem_cons_of_mem p hr, ha⟩

end AssetAccess
