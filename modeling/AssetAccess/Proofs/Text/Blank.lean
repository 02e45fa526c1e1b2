import AssetAccess.Proofs.Sequence
import AssetAccess.Proofs.Text.Decimal
import AssetAccess.Text.Blank
/-!
# What white space is cut off

What is cut off at the start of a text is white space and nothing else (`mem_skipBlanks`), so a text
that holds another character does not become empty (`trim_isEmpty_of_mem`).  A text is what is left
of it with white space at its ends (`exists_trim`), and from a text that holds none no more than the
white space around it is cut off (`trim_append`).
-/

namespace AssetAccess.Text

theorem isBlank_of_isDigit {c : Char} (h : Decimal.isDigit c = true) : isBlank c = false := by
  have := Decimal.toNat_of_isDigit h
  have all : ∀ m < 58, 48 ≤ m → isBlank (Char.ofNat m) = false := by decide
  rw [← Char.ofNat_toNat c]
  exact all c.toNat (by omega) (by omega)

theorem skipBlanks_cons {c : Char} (h : isBlank c = false) (l : List Char) :
    skipBlanks (c :: l) = c :: l := by
  rw [skipBlanks, List.dropWhile_cons, h]
  rfl

/-- White space is all that is cut off. -/
theorem mem_skipBlanks {l : List Char} {c : Char} (hmem : c ∈ l) (hc : isBlank c = false) :
    c ∈ skipBlanks l := by
  have hsplit : c ∈ l.takeWhile isBlank ++ skipBlanks l := by
    rwa [skipBlanks, List.takeWhile_append_dropWhile]
  rcases List.mem_append.mp hsplit with hcut | hleft
  · have hblank := List.all_eq_true.mp List.all_takeWhile c hcut
    rw [hc] at hblank
    exact Bool.noConfusion hblank
  · exact hleft

theorem trim_isEmpty_of_mem {l : List Char} {c : Char} (hmem : c ∈ l) (hc : isBlank c = false) :
    (trim l).isEmpty = false := by
  have hfront := List.mem_reverse.mpr (mem_skipBlanks hmem hc)
  have hleft : c ∈ trim l := List.mem_reverse.mpr (mem_skipBlanks hfront hc)
  exact List.isEmpty_eq_false_iff.mpr (List.ne_nil_of_mem hleft)

/-! ### Both ends -/

/-- A text is what is left of it with white space at its ends. -/
theorem exists_trim (l : List Char) :
    ∃ before after, l = before ++ trim l ++ after ∧ (∀ c ∈ before, isBlank c = true) ∧
      ∀ c ∈ after, isBlank c = true :=
  exists_dropWhile_reverse isBlank l

theorem skipBlanks_append {before : List Char} (h : ∀ c ∈ before, isBlank c = true)
    (l : List Char) : skipBlanks (before ++ l) = skipBlanks l :=
  List.dropWhile_append_of_pos h

theorem skipBlanks_of_forall {l : List Char} (h : ∀ c ∈ l, isBlank c = false) :
    skipBlanks l = l := by
  cases l with
  | nil => rfl
  | cons c l => exact skipBlanks_cons (h c List.mem_cons_self) l

/-- The white space around a text without any is all that is cut off. -/
theorem trim_append {before l after : List Char} (hbefore : ∀ c ∈ before, isBlank c = true)
    (hafter : ∀ c ∈ after, isBlank c = true) (hl : ∀ c ∈ l, isBlank c = false) :
    trim (before ++ l ++ after) = l := by
  have hafter' : ∀ c ∈ after.reverse, isBlank c = true := fun c hc =>
    hafter c (List.mem_reverse.mp hc)
  have hl' : ∀ c ∈ l.reverse, isBlank c = false := fun c hc => hl c (List.mem_reverse.mp hc)
  rw [trim, List.append_assoc, skipBlanks_append hbefore]
  cases l with
  | nil =>
    -- there is nothing but white space
    have hnothing : skipBlanks after = [] := List.dropWhile_eq_nil_iff.mpr hafter
    rw [List.nil_append, hnothing]
    rfl
  | cons c l =>
    rw [List.cons_append, skipBlanks_cons (hl c List.mem_cons_self), ← List.cons_append,
      List.reverse_append, skipBlanks_append hafter', skipBlanks_of_forall hl',
      List.reverse_reverse]

/-- No decimal notation holds white space. -/
theorem isBlank_of_mem_denotes {l : List Char} {n : Int} (h : Decimal.Denotes l n) :
    ∀ c ∈ l, isBlank c = false := by
  intro c hc
  cases h with
  | plain hne hd => exact isBlank_of_isDigit (hd c hc)
  | plus hne hd =>
    rcases List.mem_cons.mp hc with rfl | hc
    · decide
    · exact isBlank_of_isDigit (hd c hc)
  | minus hne hd =>
    rcases List.mem_cons.mp hc with rfl | hc
    · decide
    · exact isBlank_of_isDigit (hd c hc)

end AssetAccess.Text
