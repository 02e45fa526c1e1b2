import AssetAccess.Proofs.Json.Record
/-!
# What is written as an object is read as a record

A compact object is written from its members, each with the text of a value.  It spells the object
of the members whose values these texts spell (`isText_object`), and a record is read from it by
finding each field among the members (`exists_gives_object`), if no two members have one key.
-/

namespace AssetAccess.Json

/-! ### Values -/

theorem toList_quoted (s : String) :
    (quoted s).toList = '"' :: (StringText.encode s.toList ++ ['"']) := by
  simp [quoted]

/-- A text that is written between quotes is a string. -/
theorem spells_quoted (s : String) :
    Tree.Spells (.string (StringText.encode s.toList)) (quoted s).toList := by
  rw [toList_quoted]
  exact .string (StringText.isInside_encode s.toList)

/-- The tree of a text that is written between quotes denotes the text. -/
theorem isString_encode (s : String) :
    Tree.IsString (.string (StringText.encode s.toList)) s :=
  ⟨_, rfl, StringText.denotes_encode s.toList⟩

/-- The digits of a number are a number. -/
theorem spells_ofNat (n : Nat) :
    Tree.Spells (.number (Nat.toDigits 10 n)) (Decimal.ofNat n).toList := by
  rw [Decimal.ofNat, String.toList_ofList]
  exact .number (NumberText.isNumber_toDigits n)

/-- So is the written form of an integer. -/
theorem spells_ofInt (n : Int) :
    Tree.Spells (.number (Decimal.ofInt n).toList) (Decimal.ofInt n).toList :=
  .number (NumberText.isNumber_ofInt n)

/-- What is written for an integer of 64 bits is read as it: 0 is written without a sign. -/
theorem isInt64_ofInt (n : Int64) :
    Tree.IsInt64 (.number (Decimal.ofInt n.toInt).toList) n := by
  refine ⟨_, rfl, fun hneg => ?_, Decimal.denotes_ofInt n.toInt⟩
  have hzero : Decimal.Denotes ['-', '0'] 0 :=
    Decimal.Denotes.minus (List.cons_ne_nil '0' []) (List.forall_mem_singleton.mpr (by decide))
  have hn := Decimal.denotes_ofInt n.toInt
  rw [hneg] at hn
  rw [hn.unique hzero] at hneg
  exact absurd hneg (by decide)

/-! ### Objects -/

/-- A key with the text of a value, and the same key with the tree of the value. -/
structure Writes (m : String × String) (t : String × Tree) : Prop where
  key : m.1 = t.1
  value : Tree.Spells t.2 m.2.toList

/-- The members of an object with their keys as they are written. -/
def encodeKeys (members : List (String × Tree)) : List (List Char × Tree) :=
  members.map fun (key, t) => (StringText.encode key.toList, t)

variable {texts : List (String × String)} {members : List (String × Tree)}

theorem toList_member (key value : String) :
    (quoted key ++ ":" ++ value).toList =
      '"' :: (StringText.encode key.toList ++ '"' :: ':' :: value.toList) := by
  rw [String.toList_append, String.toList_append, toList_quoted]
  simp

/-- Members between commas are the members of an object. -/
theorem spellsMembers_intercalate (h : List.Forall₂ Writes texts members) (hne : texts ≠ []) :
    Tree.SpellsMembers (encodeKeys members)
      (",".intercalate (texts.map fun (key, value) => quoted key ++ ":" ++ value)).toList := by
  have noSpace : Tree.Blank [] := List.forall_mem_nil _
  -- the last member ends the text, and behind any other one stand a comma and the rest
  induction h with
  | nil => exact absurd rfl hne
  | @cons m t texts' members' hm hrest ih =>
    obtain ⟨key, value⟩ := m
    obtain ⟨key', tree⟩ := t
    obtain ⟨rfl, hvalue⟩ := hm
    have hkey := StringText.isInside_encode key.toList
    cases hrest with
    | nil =>
      have hlast := Tree.SpellsMembers.last hkey noSpace noSpace hvalue noSpace
      rw [List.append_nil] at hlast
      rw [List.map_singleton, String.intercalate_singleton, toList_member]
      exact hlast
    | @cons m' t' texts'' members'' hm' hrest' =>
      have hcons := Tree.SpellsMembers.cons hkey noSpace noSpace hvalue noSpace noSpace
        (ih (by simp))
      have htext (s : String) : (quoted key ++ ":" ++ value ++ "," ++ s).toList =
          '"' :: (StringText.encode key.toList ++
            '"' :: ':' :: (value.toList ++ ',' :: s.toList)) := by
        rw [String.toList_append, String.toList_append, toList_member]
        simp
      rw [List.map_cons, List.map_cons, String.intercalate_cons_cons, htext]
      exact hcons

/-- **What is written as an object** is an object with these members. -/
theorem isText_object (h : List.Forall₂ Writes texts members) :
    ∃ source, Tree.IsText (.object source (encodeKeys members)) (object texts) := by
  have noSpace : Tree.Blank [] := List.forall_mem_nil _
  have htext : (object texts).toList = '{' ::
      ((",".intercalate (texts.map fun (key, value) => quoted key ++ ":" ++ value)).toList
        ++ ['}']) := by
    simp [object]
  by_cases hne : texts = []
  · subst hne
    obtain rfl := List.forall₂_nil_left_iff.mp h
    exact ⟨_, [], _, [], noSpace, .emptyObject noSpace, noSpace, rfl⟩
  · have hobject := Tree.Spells.object noSpace (spellsMembers_intercalate h hne)
    exact ⟨_, [], _, [], noSpace, hobject, noSpace, by rw [htext]; simp⟩

/-! ### Records -/

theorem denotes_encode_iff {key name : String} :
    StringText.Denotes (StringText.encode key.toList) name.toList ↔ key = name := by
  constructor
  · intro h
    have hkey := StringText.decode?_of_denotes (StringText.denotes_encode key.toList)
    rw [StringText.decode?_of_denotes h, Option.some.injEq] at hkey
    exact String.toList_inj.mp hkey.symm
  · rintro rfl
    exact StringText.denotes_encode _

/-- A name occurs in an object with different keys as it is found among the keys. -/
theorem occurs_lookup (hn : (members.map Prod.fst).Nodup) (name : String) :
    Record.Occurs (encodeKeys members) name (members.lookup name) := by
  have other {l : List (String × Tree)} (hl : ∀ m ∈ l, name ≠ m.1) :
      ∀ m ∈ encodeKeys l, ¬ StringText.Denotes m.1 name.toList := by
    intro m hm hd
    obtain ⟨⟨key, t⟩, hkey, rfl⟩ := List.mem_map.mp hm
    exact hl _ hkey (denotes_encode_iff.mp hd).symm
  -- what is found is the only member with the name, since no key comes twice
  cases hlookup : members.lookup name with
  | none =>
    rw [List.lookup_eq_none_iff] at hlookup
    exact .never (other fun m hm => bne_iff_ne.mp (hlookup m hm))
  | some t =>
    obtain ⟨before, after, rfl, hbefore⟩ := List.lookup_eq_some_iff.mp hlookup
    rw [List.map_append, List.map_cons, List.nodup_append, List.nodup_cons] at hn
    have hsplit : encodeKeys (before ++ (name, t) :: after) =
        encodeKeys before ++ (StringText.encode name.toList, t) :: encodeKeys after := by
      rw [encodeKeys, List.map_append, List.map_cons]
      rfl
    refine .once hsplit (StringText.denotes_encode _)
      (other fun m hm => bne_iff_ne.mp (hbefore m hm)) (other fun m hm h => hn.2.1.1 ?_)
    rw [h]
    exact List.mem_map.mpr ⟨m, hm, rfl⟩

/-- What is written as an object gives each field as it is found among the members, whatever others
there are. -/
theorem exists_gives_object (h : List.Forall₂ Writes texts members)
    (hn : (members.map Prod.fst).Nodup) (names : List String) :
    ∃ t, Tree.IsText t (object texts) ∧
      Record.Gives names t (names.map fun name => members.lookup name) := by
  obtain ⟨source, hsource⟩ := isText_object h
  refine ⟨_, hsource, .object source (fun m hm => ?_) ?_⟩
  · obtain ⟨⟨key, t⟩, _, rfl⟩ := List.mem_map.mp hm
    exact ⟨_, StringText.denotes_encode _⟩
  · rw [List.forall₂_map_right_iff, List.forall₂_same]
    exact fun name _ => occurs_lookup hn name

/-- **A record** is read from what was written as an object. -/
theorem fields?_object (h : List.Forall₂ Writes texts members)
    (hn : (members.map Prod.fst).Nodup) (names : List String) :
    (Tree.parse? (object texts)).bind (Record.fields? names) =
      some (names.map fun name => members.lookup name) := by
  obtain ⟨t, ht, hgives⟩ := exists_gives_object h hn names
  rw [Tree.parse?_eq_some_iff.mpr ht, Option.bind_some, Record.fields?_eq_some_iff]
  exact hgives

end AssetAccess.Json
