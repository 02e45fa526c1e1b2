import AssetAccess.Proofs.Text.Percent
import AssetAccess.Text.Form
/-!
# Form bodies are unambiguous

A key or a value is read back from its written form (`decodeText?_encodeText`): a plus sign in a
written form always stands for a space, so reading replaces it before anything else, and what is
left is a percent-encoded text in which spaces are kept.

Neither separator stands in a written form (`not_mem_encodeText`), so a pair is cut where it was
joined (`decodePair?_encodePair`), and so is the whole body.  Hence a body determines the list of
pairs that it was written for (`encode_unambiguous`).
-/

namespace AssetAccess.Form

open Text

/-! ### Keys and values -/

/-- A character that a key or a value may be written with. -/
def IsTextChar (c : Char) : Prop :=
  ('A' ≤ c ∧ c ≤ 'Z') ∨ ('a' ≤ c ∧ c ≤ 'z') ∨ ('0' ≤ c ∧ c ≤ '9') ∨
    c ∈ ['*', '-', '.', '_', '+', '%']

instance (c : Char) : Decidable (IsTextChar c) := inferInstanceAs (Decidable (_ ∨ _))

/-- The bytes that stand for themselves once plus signs have been replaced. -/
def isKeptOrSpace (b : UInt8) : Bool := isKept b || b == 0x20

theorem keepsAscii_isKeptOrSpace : Percent.KeepsAscii isKeptOrSpace := by
  have all : ∀ b : UInt8, isKeptOrSpace b = true → b.toNat < 128 ∧ b ≠ 0x25 :=
    of_forall_byte (by decide +kernel)
  exact all

/-- With its plus signs replaced, a written byte is percent-encoded. -/
theorem map_encodeByte (b : UInt8) :
    (encodeByte b).map (fun c => if c = '+' then ' ' else c) =
      Percent.encodeByte isKeptOrSpace b := by
  have all : ∀ b : UInt8, (encodeByte b).map (fun c => if c = '+' then ' ' else c) =
      Percent.encodeByte isKeptOrSpace b := of_forall_byte (by decide +kernel)
  exact all b

theorem isTextChar_of_mem_encodeByte {b : UInt8} {c : Char} (h : c ∈ encodeByte b) :
    IsTextChar c := by
  have all : ∀ b : UInt8, (encodeByte b).all (decide <| IsTextChar ·) = true :=
    of_forall_byte (by decide +kernel)
  exact of_decide_eq_true (List.all_eq_true.mp (all b) c h)

theorem isTextChar_of_mem_encodeText {s : String} {c : Char} (h : c ∈ (encodeText s).toList) :
    IsTextChar c := by
  rw [encodeText, String.toList_ofList] at h
  obtain ⟨b, -, hc⟩ := List.mem_flatMap.mp h
  exact isTextChar_of_mem_encodeByte hc

/-- A separator stands in no written key or value. -/
theorem not_mem_encodeText {sep : Char} (h : ¬ IsTextChar sep) (s : String) :
    sep ∉ (encodeText s).toList := fun hmem => h (isTextChar_of_mem_encodeText hmem)

/-- A key or a value is read back. -/
theorem decodeText?_encodeText (s : String) : decodeText? (encodeText s).toList = some s := by
  have hplus : String.ofList ((encodeText s).toList.map fun c => if c = '+' then ' ' else c) =
      Percent.encodeBytes isKeptOrSpace (utf8 s) := by
    rw [encodeText, String.toList_ofList, List.map_flatMap, Percent.encodeBytes]
    exact congrArg String.ofList (List.flatMap_congr fun b _ => map_encodeByte b)
  rw [decodeText?, hplus, Percent.decode_encodeBytes keepsAscii_isKeptOrSpace, ofUtf8?_utf8]

/-! ### Pairs -/

theorem toList_encodePair (p : String × String) :
    (encodePair p).toList = (encodeText p.1).toList ++ '=' :: (encodeText p.2).toList := by
  rw [encodePair, String.toList_append, String.toList_append, List.append_assoc]
  rfl

/-- A pair is read back: it is cut at its first equals sign, and no other stands in its key. -/
theorem decodePair?_encodePair (p : String × String) :
    decodePair? (encodePair p).toList = some p := by
  rw [decodePair?, toList_encodePair, cutFirst_append (not_mem_encodeText (by decide) p.1)]
  simp only [Option.getD_some, decodeText?_encodeText]
  rfl

theorem mem_encodePair {p : String × String} {c : Char} (h : c ∈ (encodePair p).toList) :
    IsTextChar c ∨ c = '=' := by
  rw [toList_encodePair, List.mem_append, List.mem_cons] at h
  rcases h with h | h | h
  · exact Or.inl (isTextChar_of_mem_encodeText h)
  · exact Or.inr h
  · exact Or.inl (isTextChar_of_mem_encodeText h)

theorem ampersand_not_mem_encodePair (p : String × String) : '&' ∉ (encodePair p).toList := by
  intro h
  rcases mem_encodePair h with h | h
  · exact absurd h (by decide)
  · exact absurd h (by decide)

/-! ### Bodies -/

/-- The segments of a body that are not empty are its pairs. -/
theorem segments_encode (pairs : List (String × String)) :
    ((encode pairs).toList.splitOn '&').filter (!·.isEmpty) =
      pairs.map fun p => (encodePair p).toList := by
  have hnonempty (p : String × String) : (!(encodePair p).toList.isEmpty) = true := by
    rw [toList_encodePair]
    simp
  have hbody : (encode pairs).toList =
      ['&'].intercalate (pairs.map fun p => (encodePair p).toList) := by
    rw [encode, String.toList_intercalate, List.map_map]
    rfl
  rw [hbody]
  by_cases hp : pairs = []
  · subst hp
    rfl
  · -- a body for one pair or more splits where it was joined
    rw [List.splitOn_intercalate '&' _ (by simpa using hp), List.filter_eq_self]
    · intro segment hsegment
      obtain ⟨p, -, rfl⟩ := List.mem_map.mp hsegment
      exact hnonempty p
    · intro segment hsegment
      obtain ⟨p, -, rfl⟩ := List.mem_map.mp hsegment
      exact ampersand_not_mem_encodePair p

theorem decode?_encode (pairs : List (String × String)) : decode? (encode pairs) = some pairs := by
  rw [decode?, segments_encode, mapM_eq_some_iff, List.forall₂_map_left_iff, List.forall₂_same]
  exact fun p _ => decodePair?_encodePair p

/-- A character that a body may be written with: the separators come in besides. -/
def IsBodyChar (c : Char) : Prop := IsTextChar c ∨ c = '=' ∨ c = '&'

theorem isBodyChar_of_mem_encode {pairs : List (String × String)} {c : Char}
    (h : c ∈ (encode pairs).toList) : IsBodyChar c := by
  rcases mem_toList_intercalate h with h | ⟨segment, hsegment, h⟩
  · obtain rfl : c = '&' := by simpa using h
    exact Or.inr (Or.inr rfl)
  · obtain ⟨p, -, rfl⟩ := List.mem_map.mp hsegment
    rcases mem_encodePair h with h | h
    · exact Or.inl h
    · exact Or.inr (Or.inl h)

/-- **Form bodies are unambiguous.**  The body for a list of pairs is read back as exactly that
list, and it holds letters, digits and eight marks only.  So two lists have one body, or one
sequence of bytes to be digested, only if they are equal. -/
theorem encode_unambiguous (pairs : List (String × String)) :
    decode? (encode pairs) = some pairs ∧
    (∀ c ∈ (encode pairs).toList, IsBodyChar c) ∧
    ∀ other, (encode other = encode pairs ↔ other = pairs) ∧
      (utf8 (encode other) = utf8 (encode pairs) ↔ other = pairs) := by
  have injective {other : List (String × String)} (h : encode other = encode pairs) :
      other = pairs := by
    have hdecode := decode?_encode other
    rw [h, decode?_encode] at hdecode
    exact (Option.some.inj hdecode).symm
  refine ⟨decode?_encode pairs, fun c => isBodyChar_of_mem_encode, fun other => ⟨?_, ?_⟩⟩
  · exact ⟨injective, congrArg encode⟩
  · exact ⟨fun h => injective (utf8_injective h), congrArg (utf8 ∘ encode)⟩

example : encode [("a b", "1&2=3"), ("", "é+"), ("", "")] = "a+b=1%262%3D3&=%C3%A9%2B&=" := by
  decide +kernel

end AssetAccess.Form
