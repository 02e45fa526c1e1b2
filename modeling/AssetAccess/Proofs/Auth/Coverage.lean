import AssetAccess.Auth.Coverage
import AssetAccess.Proofs.Http.Fields
import AssetAccess.Proofs.Text.Percent
import AssetAccess.Proofs.Text.Pieces
import Mathlib.Data.List.Basic
import Mathlib.Data.List.Nodup
import Mathlib.Data.Set.Basic
/-!
# What a signature covers

`covered fields names` is the set of headers that a signature made with `names` covers, each with
its signed value.  The canonical block tells this set and nothing else (`block_eq_iff`): a line
holds its name and its value in a form that can be taken apart again, and the order in which the
headers arrived is lost to sorting.
-/

namespace AssetAccess.Auth.Coverage

open Http Percent

variable {fields fields' : Fields} {names names' : NameSet}

/-- The covered headers with their signed values: the host and the selected names, without the
header of the token, as far as the message carries them. -/
def covered (fields : Fields) (names : NameSet) : Set (FieldName × List UInt8) :=
  {p | fields.has p.1 = true ∧ p.1 ≠ .authorization ∧ (p.1 = .host ∨ p.1.text ∈ names) ∧
    p.2 = signedValue fields p.1}

theorem fieldName_ext {n m : FieldName} (h : n.text = m.text) : n = m := by
  cases n
  cases m
  simpa using h

theorem covers_iff {n : FieldName} :
    covers names n = true ↔ n ≠ .authorization ∧ (n = .host ∨ n.text ∈ names) := by
  simp [covers, NameSet.contains_iff]

theorem mem_coveredNames {n : FieldName} :
    n ∈ coveredNames fields names ↔
      fields.has n = true ∧ n ≠ .authorization ∧ (n = .host ∨ n.text ∈ names) := by
  rw [coveredNames, List.mem_filter, Fields.mem_names_iff, covers_iff]

theorem nodup_coveredNames (fields : Fields) (names : NameSet) :
    (coveredNames fields names).Nodup := (Fields.nodup_names fields).filter _

theorem mem_covered {p : FieldName × List UInt8} :
    p ∈ covered fields names ↔
      p.1 ∈ coveredNames fields names ∧ p.2 = signedValue fields p.1 := by
  rw [mem_coveredNames]
  simp [covered, and_assoc]

/-- A header is covered alike when it is selected alike and has the same signed value. -/
theorem covered_eq_of_forall
    (hn : ∀ n, n ∈ coveredNames fields names ↔ n ∈ coveredNames fields' names')
    (hv : ∀ n ∈ coveredNames fields names, signedValue fields n = signedValue fields' n) :
    covered fields names = covered fields' names' := by
  ext p
  rw [mem_covered, mem_covered, ← hn]
  exact and_congr_right fun hp => by rw [hv _ hp]

/-! ### The names of the covered headers -/

theorem mem_signedNames {name : String} :
    name ∈ signedNames fields names ↔ ∃ n ∈ coveredNames fields names, n.text = name := by
  rw [signedNames, Text.mem_sorted, List.mem_map]

theorem mem_coveredNames_of_has (hh : fields.has .host = true) :
    .host ∈ coveredNames fields names := mem_coveredNames.mpr ⟨hh, by decide, Or.inl rfl⟩

/-- A signature made with the names of the covered headers covers them again, in any message that
has the same values for them. -/
theorem covered_signedNames (hh : fields.has .host = true)
    (hv : ∀ n ∈ coveredNames fields names, fields'.values n = fields.values n) :
    covered fields' (.ofList (signedNames fields names)) = covered fields names := by
  refine (covered_eq_of_forall (fun n => ⟨fun hn => ?_, fun hn => ?_⟩) fun n hn => ?_).symm
  · have hf := mem_coveredNames.mp hn
    refine mem_coveredNames.mpr ⟨?_, hf.2.1, Or.inr ?_⟩
    · rw [Fields.has_iff, hv n hn]
      exact Fields.has_iff.mp hf.1
    · exact NameSet.mem_ofList.mpr (mem_signedNames.mpr ⟨n, hn, rfl⟩)
  · -- the host is covered either way, and any other name is on the list because it was covered
    obtain ⟨-, -, rfl | h⟩ := mem_coveredNames.mp hn
    · exact mem_coveredNames_of_has hh
    · obtain ⟨m, hm, he⟩ := mem_signedNames.mp (NameSet.mem_ofList.mp h)
      rwa [← fieldName_ext he]
  · rw [signedValue, signedValue, hv n hn]

/-! ### Lines -/

theorem line_inj {name name' : String} {value value' : List UInt8} :
    line name value = line name' value' ↔ name = name' ∧ value = value' := by
  constructor
  · intro h
    obtain ⟨h1, h2⟩ := joined_inj (show ":".toList = [':'] by simp) (by decide) (by decide) h
    exact ⟨Text.utf8_injective h1, h2⟩
  · rintro ⟨rfl, rfl⟩
    rfl

theorem line_ne_empty (name : String) (value : List UInt8) : line name value ≠ "" :=
  joined_ne_empty (show ":".toList = [':'] by simp) _ _

theorem newline_not_mem_line (name : String) (value : List UInt8) :
    '\n' ∉ (line name value).toList :=
  not_mem_joined (show ":".toList = [':'] by simp) (by decide) (by decide) (by decide) _ _

/-! ### Blocks -/

/-- The lines of the block before they are put in order. -/
def lines (fields : Fields) (names : NameSet) : List String :=
  (coveredNames fields names).map fun n => line n.text (signedValue fields n)

theorem mem_lines {t : String} :
    t ∈ lines fields names ↔ ∃ p ∈ covered fields names, line p.1.text p.2 = t := by
  rw [lines, List.mem_map]
  constructor
  · rintro ⟨n, hn, rfl⟩
    exact ⟨(n, signedValue fields n), mem_covered.mpr ⟨hn, rfl⟩, rfl⟩
  · rintro ⟨⟨n, v⟩, hp, rfl⟩
    obtain ⟨hn, hv⟩ := mem_covered.mp hp
    exact ⟨n, hn, by rw [← hv]⟩

theorem nodup_lines (fields : Fields) (names : NameSet) : (lines fields names).Nodup := by
  refine (nodup_coveredNames fields names).map fun n m h => ?_
  exact fieldName_ext (line_inj.mp h).1

theorem lines_perm_iff :
    (lines fields names).Perm (lines fields' names') ↔
      covered fields names = covered fields' names' := by
  rw [List.perm_ext_iff_of_nodup (nodup_lines _ _) (nodup_lines _ _)]
  constructor
  · -- a pair is covered when its line is there, since no other pair has that line
    have covered_iff {f : Fields} {s : NameSet} {p : FieldName × List UInt8} :
        p ∈ covered f s ↔ line p.1.text p.2 ∈ lines f s := by
      constructor
      · intro hp
        exact mem_lines.mpr ⟨p, hp, rfl⟩
      · intro hl
        obtain ⟨q, hq, he⟩ := mem_lines.mp hl
        obtain ⟨h1, h2⟩ := line_inj.mp he
        rwa [show p = q from Prod.ext (fieldName_ext h1.symm) h2.symm]
    intro h
    ext p
    rw [covered_iff, covered_iff, h]
  · intro h t
    rw [mem_lines, mem_lines, h]

/-- No line is empty or holds a line break, so the joined text tells the lines apart. -/
theorem parts_block (fields : Fields) (names : NameSet) :
    Text.parts '\n' (block fields names) = Text.sorted (lines fields names) := by
  refine Text.parts_intercalate (by simp) fun t ht => ?_
  obtain ⟨p, _, rfl⟩ := mem_lines.mp (Text.mem_sorted.mp ht)
  exact ⟨line_ne_empty _ _, newline_not_mem_line _ _⟩

/-- The canonical block tells the covered headers with their signed values, and nothing else. -/
theorem block_eq_iff :
    block fields names = block fields' names' ↔ covered fields names = covered fields' names' := by
  rw [← lines_perm_iff, ← Text.sorted_eq_sorted_iff]
  constructor
  · intro h
    rw [← parts_block, h, parts_block]
  · intro h
    change "\n".intercalate (Text.sorted (lines fields names)) = _
    rw [h]
    rfl

end AssetAccess.Auth.Coverage
