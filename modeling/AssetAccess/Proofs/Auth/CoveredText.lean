import AssetAccess.Auth.SignOptions
import AssetAccess.Proofs.Auth.Coverage
import AssetAccess.Proofs.Text.ByteOrder
import Mathlib.Data.List.DropRight
/-!
# The canonical block and the list of names

A signature is made over a block of lines, and its token lists the names that the block covers.
Both are made from the covered headers alone, so neither the order in which headers arrived nor
anything outside the coverage shows in them (`writtenAlike_of_covered_eq`).  Names and lines are
sorted apart from each other, and their orders may differ; either way there is one line for each
name (`presents`).
-/

namespace AssetAccess.Text

/-! ### Blanks at the ends -/

/-- What is left of `l` without the blanks at either end. -/
def TrimsTo (l left : List UInt8) : Prop :=
  (∃ a b, l = a ++ left ++ b ∧ (∀ c ∈ a, isBlankByte c = true) ∧ ∀ c ∈ b, isBlankByte c = true) ∧
    (∀ c ∈ left.head?, isBlankByte c = false) ∧ ∀ c ∈ left.getLast?, isBlankByte c = false

theorem dropWhile_of_head? {l : List UInt8} (h : ∀ c ∈ l.head?, isBlankByte c = false) :
    l.dropWhile isBlankByte = l := by
  cases l with
  | nil => rfl
  | cons c l => exact List.dropWhile_cons_of_neg (by simp [h c rfl])

theorem of_mem_head?_dropWhile {l : List UInt8} {c : UInt8}
    (h : c ∈ (l.dropWhile isBlankByte).head?) : isBlankByte c = false := by
  have hnot := List.head?_dropWhile_not isBlankByte l
  rwa [Option.mem_def.mp h] at hnot

/-- `trimBlanks` takes all the blanks at the ends and nothing else. -/
theorem trimsTo_iff {l left : List UInt8} : TrimsTo l left ↔ left = trimBlanks l := by
  constructor
  · rintro ⟨⟨a, b, rfl, ha, hb⟩, hhead, hlast⟩
    rw [Http.trimBlanks_append ha hb, trimBlanks, dropWhile_of_head? hhead,
      dropWhile_of_head? (by rwa [List.head?_reverse]), List.reverse_reverse]
  · rintro rfl
    have hend : trimBlanks l ++ (l.dropWhile isBlankByte).rtakeWhile isBlankByte =
        l.dropWhile isBlankByte := List.rdropWhile_append_rtakeWhile
    refine ⟨⟨l.takeWhile isBlankByte, (l.dropWhile isBlankByte).rtakeWhile isBlankByte, ?_,
      fun c => List.mem_takeWhile_imp, fun c => List.mem_rtakeWhile_imp⟩, ?_, ?_⟩
    · rw [List.append_assoc, hend, List.takeWhile_append_dropWhile]
    · -- what is left begins where the blanks at the start end
      intro c hc
      apply of_mem_head?_dropWhile (l := l)
      rw [← hend, List.head?_append, Option.mem_def.mp hc]
      rfl
    · intro c hc
      rw [trimBlanks, List.getLast?_reverse] at hc
      exact of_mem_head?_dropWhile hc

end AssetAccess.Text

namespace AssetAccess.Auth

open Http Percent

namespace Coverage

variable {fields fields' : Fields} {names names' : NameSet}

/-! ### The list of names -/

/-- A covered header has one value, and its name is on the list. -/
theorem mem_signedNames_iff {name : String} :
    name ∈ signedNames fields names ↔ ∃ p ∈ covered fields names, p.1.text = name := by
  rw [mem_signedNames]
  constructor
  · rintro ⟨n, hn, rfl⟩
    exact ⟨(n, signedValue fields n), mem_covered.mpr ⟨hn, rfl⟩, rfl⟩
  · rintro ⟨p, hp, rfl⟩
    exact ⟨p.1, (mem_covered.mp hp).1, rfl⟩

theorem nodup_texts (fields : Fields) (names : NameSet) :
    ((coveredNames fields names).map (·.text)).Nodup := by
  refine (nodup_coveredNames fields names).map ?_
  intro n m h
  exact fieldName_ext h

theorem pairwise_signedNames (fields : Fields) (names : NameSet) :
    (signedNames fields names).Pairwise Text.BytesLT := by
  have hnodup : (signedNames fields names).Nodup :=
    (Text.sorted_perm _).nodup_iff.mpr (nodup_texts fields names)
  refine ((Text.pairwise_sorted _).and hnodup).imp ?_
  rintro a b ⟨hle, hne⟩
  rw [Text.bytesLT_iff]
  by_contra hlt
  exact hne (String.le_antisymm hle (String.not_lt.mp hlt))

/-- The coverage determines the list of names. -/
theorem signedNames_eq_of_covered_eq (h : covered fields names = covered fields' names') :
    signedNames fields names = signedNames fields' names' := by
  have hmem {f : Fields} {s : NameSet} {name : String} :
      name ∈ (coveredNames f s).map (·.text) ↔ ∃ p ∈ covered f s, p.1.text = name :=
    Text.mem_sorted.symm.trans mem_signedNames_iff
  rw [signedNames, signedNames, Text.sorted_eq_sorted_iff,
    List.perm_ext_iff_of_nodup (nodup_texts _ _) (nodup_texts _ _)]
  intro name
  rw [hmem, hmem, h]

/-! ### Lines -/

theorem sides_line (name : String) (value : List UInt8) :
    sides ':' (line name value) = (Text.utf8 name, value) :=
  sides_joined (show ":".toList = [':'] by simp) (by decide) (by decide) _ _

/-- The name and the value that each line holds, in the order in which headers arrived. -/
theorem map_sides_lines (fields : Fields) (names : NameSet) :
    (lines fields names).map (sides ':') =
      (coveredNames fields names).map fun n => (Text.utf8 n.text, signedValue fields n) := by
  rw [lines, List.map_map]
  exact List.map_congr_left fun n _ => sides_line _ _

theorem mem_sides_lines {p : FieldName × List UInt8} :
    (Text.utf8 p.1.text, p.2) ∈ (lines fields names).map (sides ':') ↔
      p ∈ covered fields names := by
  rw [map_sides_lines, List.mem_map, mem_covered]
  constructor
  · rintro ⟨n, hn, h⟩
    obtain ⟨htext, hvalue⟩ := Prod.mk.inj h
    rw [← fieldName_ext (Text.utf8_injective htext)]
    exact ⟨hn, hvalue.symm⟩
  · rintro ⟨hn, hvalue⟩
    exact ⟨p.1, hn, by rw [hvalue]⟩

/-- A byte that a block may hold: an unreserved one, a percent sign, a colon or a line break. -/
def IsBlockByte (b : UInt8) : Prop := isUnreserved b = true ∨ b = 0x25 ∨ b = 0x3A ∨ b = 0x0A

theorem isBlockByte_of_mem_block {b : UInt8} (hb : b ∈ Text.utf8 (block fields names)) :
    IsBlockByte b := by
  obtain ⟨c, hc, hbc⟩ := List.mem_flatMap.mp hb
  -- a character of the block is a line break or stands in a line
  have hchar : c.toNat < 128 ∧ IsBlockByte (UInt8.ofNat c.toNat) := by
    rcases Text.mem_toList_intercalate hc with h | ⟨t, ht, hct⟩
    · obtain rfl : c = '\n' := by simpa using h
      exact ⟨by decide, Or.inr (Or.inr (Or.inr rfl))⟩
    · obtain ⟨p, _, rfl⟩ := mem_lines.mp (Text.mem_sorted.mp ht)
      obtain ⟨hlt, rfl | rfl | hkept⟩ :=
        mem_joined (show ":".toList = [':'] by simp) (by decide) hct
      · exact ⟨hlt, Or.inr (Or.inr (Or.inl rfl))⟩
      · exact ⟨hlt, Or.inr (Or.inl rfl)⟩
      · exact ⟨hlt, Or.inl (by simpa [keptWhenSigned] using hkept)⟩
  rw [Text.utf8EncodeChar_of_lt hchar.1, List.mem_singleton] at hbc
  rw [hbc]
  exact hchar.2

/-! ### What a block and its list of names say -/

/-- A block and a list of names present the covered headers of a message.  The names are strictly
ascending; each line of the block holds a name and a value, and the lines are ascending, one for
each name. -/
structure Presents (fields : Fields) (names : NameSet) (block : String) (list : List String) :
    Prop where
  pairwise_list : list.Pairwise Text.BytesLT
  mem_list : ∀ name, name ∈ list ↔ ∃ p ∈ covered fields names, p.1.text = name
  authorization_not_mem : FieldName.authorization.text ∉ list
  host_mem_iff : FieldName.host.text ∈ list ↔ fields.has .host = true
  pairwise_lines : (Text.parts '\n' block).Pairwise fun s t => ¬ Text.BytesLT t s
  lines_perm : ((Text.parts '\n' block).map fun t => (sides ':' t).1).Perm (list.map Text.utf8)
  mem_lines : ∀ p : FieldName × List UInt8,
    (Text.utf8 p.1.text, p.2) ∈ (Text.parts '\n' block).map (sides ':') ↔ p ∈ covered fields names
  isBlockByte : ∀ b ∈ Text.utf8 block, IsBlockByte b

theorem presents (fields : Fields) (names : NameSet) :
    Presents fields names (block fields names) (signedNames fields names) where
  pairwise_list := pairwise_signedNames fields names
  mem_list _ := mem_signedNames_iff
  authorization_not_mem h := by
    obtain ⟨n, hn, htext⟩ := mem_signedNames.mp h
    exact (mem_coveredNames.mp hn).2.1 (fieldName_ext htext)
  host_mem_iff := by
    constructor
    · intro h
      obtain ⟨n, hn, htext⟩ := mem_signedNames.mp h
      rw [← fieldName_ext htext]
      exact (mem_coveredNames.mp hn).1
    · intro hh
      exact mem_signedNames.mpr ⟨_, mem_coveredNames_of_has hh, rfl⟩
  pairwise_lines := by
    rw [parts_block]
    exact Text.pairwise_not_bytesLT (Text.pairwise_sorted _)
  lines_perm := by
    -- in the order of arrival the names of the lines are those of the headers
    have hlines : (lines fields names).map (fun t => (sides ':' t).1) =
        ((coveredNames fields names).map (·.text)).map Text.utf8 := by
      have h := congrArg (List.map Prod.fst) (map_sides_lines fields names)
      rw [List.map_map, List.map_map] at h
      rw [List.map_map]
      exact h
    rw [parts_block]
    refine ((Text.sorted_perm _).map _).trans ?_
    rw [hlines]
    exact ((Text.sorted_perm _).map _).symm
  mem_lines p := by
    rw [parts_block, ((Text.sorted_perm _).map _).mem_iff, mem_sides_lines]
  isBlockByte _ := isBlockByte_of_mem_block

/-! ### What does not show -/

/-- The same block and the same list of names. -/
def WrittenAlike (fields : Fields) (names : NameSet) (fields' : Fields) (names' : NameSet) : Prop :=
  block fields names = block fields' names' ∧ signedNames fields names = signedNames fields' names'

theorem writtenAlike_of_covered_eq (h : covered fields names = covered fields' names') :
    WrittenAlike fields names fields' names' :=
  ⟨block_eq_iff.mpr h, signedNames_eq_of_covered_eq h⟩

/-- The values of headers that are not covered do not show, and the order in which different headers
arrived shows nowhere among the values of each. -/
theorem writtenAlike_of_values_eq
    (h : ∀ n : FieldName, n ≠ .authorization → n = .host ∨ n.text ∈ names →
      fields'.values n = fields.values n) :
    WrittenAlike fields' names fields names := by
  apply writtenAlike_of_covered_eq
  apply covered_eq_of_forall
  · intro n
    rw [mem_coveredNames, mem_coveredNames]
    refine and_congr_left fun hn => ?_
    rw [Fields.has_iff, Fields.has_iff, h n hn.1 hn.2]
  · intro n hn
    obtain ⟨-, hne, hselected⟩ := mem_coveredNames.mp hn
    rw [signedValue, signedValue, h n hne hselected]

/-- Selected names that the message does not carry do not show. -/
theorem writtenAlike_of_mem_iff
    (h : ∀ n : FieldName, fields.has n = true → (n.text ∈ names' ↔ n.text ∈ names)) :
    WrittenAlike fields names' fields names := by
  apply writtenAlike_of_covered_eq
  apply covered_eq_of_forall
  · intro n
    rw [mem_coveredNames, mem_coveredNames]
    exact and_congr_right fun hn => by rw [h n hn]
  · intro n _
    rfl

end Coverage

/-! ### Signing options -/

namespace SignOptions

/-- A name that the options ask for, its ASCII letters made small; without a set they ask for the
host. -/
def AsksFor (o : SignOptions) (name : String) : Prop :=
  ∃ n ∈ (o.headersToSign.map (·.toList)).getD ["host"], Text.lower n = name

theorem mem_effectiveHeaders {o : SignOptions} {name : String} :
    name ∈ o.effectiveHeaders ↔ o.AsksFor name := by
  unfold effectiveHeaders AsksFor
  cases o.headersToSign with
  | none =>
    have hhost : Text.lower "host" = "host" := by decide
    simp [NameSet.mem_ofList, hhost, eq_comm]
  | some names =>
    simp only [NameSet.lower, NameSet.mem_ofList, List.mem_map, Option.map_some, Option.getD_some]

end SignOptions

namespace Coverage

/-- **The block and the list of names are the covered headers and nothing else.**  A header is
covered if the message carries it, if it is the host or selected, and if it is not that of the
token; its value is all its values joined by semicolons and then trimmed.  Two blocks are equal
exactly when the same headers are covered with the same values, and how block and list present them
is said in `Presents`.  Other headers, names that the message lacks, and the case of the names that
options ask for do not show. -/
theorem block_exact (fields : Fields) (names : NameSet) :
    (∀ p, p ∈ covered fields names ↔ fields.has p.1 = true ∧ p.1 ≠ .authorization ∧
      (p.1 = .host ∨ p.1.text ∈ names) ∧
      Text.TrimsTo ([0x3B].intercalate ((fields.values p.1).map (·.bytes))) p.2) ∧
    (∀ fields' names',
      block fields names = block fields' names' ↔ covered fields names = covered fields' names') ∧
    Presents fields names (block fields names) (signedNames fields names) ∧
    (∀ fields' : Fields,
      (∀ n : FieldName, n ≠ .authorization → n = .host ∨ n.text ∈ names →
        fields'.values n = fields.values n) → WrittenAlike fields' names fields names) ∧
    (∀ names' : NameSet,
      (∀ n : FieldName, fields.has n = true → (n.text ∈ names' ↔ n.text ∈ names)) →
        WrittenAlike fields names' fields names) ∧
    (∀ o o' : SignOptions, (∀ name, o.AsksFor name ↔ o'.AsksFor name) →
      WrittenAlike fields o.effectiveHeaders fields o'.effectiveHeaders) ∧
    ∀ (o : SignOptions) (name : String), name ∈ o.effectiveHeaders ↔ o.AsksFor name := by
  refine ⟨?_, fun _ _ => block_eq_iff, presents fields names, fun _ => writtenAlike_of_values_eq,
    fun _ => writtenAlike_of_mem_iff, ?_, fun _ _ => SignOptions.mem_effectiveHeaders⟩
  · intro p
    rw [Text.trimsTo_iff]
    rfl
  · intro o o' h
    apply writtenAlike_of_mem_iff
    intro n _
    rw [SignOptions.mem_effectiveHeaders, SignOptions.mem_effectiveHeaders, h]

/-- Headers that arrive in another order with a token among them, which is selected but never
covered; a selected name that is missing; and a name in capitals: none of this shows. -/
theorem writtenAlike_examples :
    ∃ (fields fields' : Fields) (names names' : NameSet) (o o' : SignOptions),
      fields ≠ fields' ∧ names ≠ names' ∧ o ≠ o' ∧ WrittenAlike fields' names fields names ∧
        WrittenAlike fields names' fields names ∧
        WrittenAlike fields o.effectiveHeaders fields o'.effectiveHeaders := by
  let kind : FieldName := ⟨"x-kind", by decide⟩
  let one : FieldValue := ⟨[0x20, 0x31], by decide⟩
  let two : FieldValue := ⟨[0x32], by decide⟩
  let fields : Fields := ⟨[(kind, one), (.host, two), (kind, two)]⟩
  let fields' : Fields := ⟨[(.authorization, one), (.host, two), (kind, one), (kind, two)]⟩
  obtain ⟨-, -, -, hvalues, hnames, hoptions, -⟩ :=
    block_exact fields (.ofList ["authorization", "x-kind"])
  refine ⟨fields, fields', .ofList ["authorization", "x-kind"],
    .ofList ["absent", "authorization", "x-kind"],
    { headersToSign := none }, { headersToSign := some (.ofList ["HOST"]) }, by decide, by decide,
    by decide, hvalues fields' ?_, hnames _ ?_, hoptions _ _ ?_⟩
  · rintro n hne (rfl | hn)
    · decide
    · rw [NameSet.mem_ofList, List.mem_cons, List.mem_singleton] at hn
      rcases hn with hn | hn
      · exact absurd (fieldName_ext hn) hne
      · obtain rfl : n = kind := fieldName_ext hn
        decide
  · intro n hn
    rw [NameSet.mem_ofList, NameSet.mem_ofList, List.mem_cons]
    refine or_iff_right fun habsent => ?_
    obtain rfl : n = ⟨"absent", by decide⟩ := fieldName_ext habsent
    exact absurd hn (by decide)
  · intro name
    have hhost : Text.lower "host" = "host" ∧ Text.lower "HOST" = "host" := by decide
    have hlist : (NameSet.ofList ["HOST"]).toList = ["HOST"] := by decide
    simp [SignOptions.AsksFor, hhost.1, hhost.2, hlist]

end Coverage

end AssetAccess.Auth
