import AssetAccess.Json.Tree
import AssetAccess.Proofs.Json.NumberText
import AssetAccess.Proofs.Json.StringText
/-!
# The grammar of JSON

`Spells t l` is the grammar of values: the text `l` is a value, and `t` is its tree.  A text is read
as a tree exactly when it spells that tree with nothing but white space around it
(`parse?_eq_some_iff`).

Reading follows the grammar from left to right.  What it takes from a text is a value
(`spells_of_read`), and a value is taken whole where no character follows that could go on with a
number (`readsWhole`).  Each step down or on leaves fewer characters, so the length of the text is
fuel enough.
-/

namespace AssetAccess.Json.Tree

/-- White space, or nothing. -/
def Blank (l : List Char) : Prop := ∀ c ∈ l, isSpace c = true

mutual

/-- The text is a value with this tree. -/
inductive Spells : Tree → List Char → Prop where
  | nullWord : Spells .null ['n', 'u', 'l', 'l']
  | trueWord : Spells (.bool true) ['t', 'r', 'u', 'e']
  | falseWord : Spells (.bool false) ['f', 'a', 'l', 's', 'e']
  | number {l : List Char} (h : NumberText.IsNumber l) : Spells (.number l) l
  | string {l : List Char} (h : StringText.IsInside l) : Spells (.string l) ('"' :: (l ++ ['"']))
  | emptyArray {w : List Char} (hw : Blank w) :
      Spells (.array ('[' :: (w ++ [']'])) []) ('[' :: (w ++ [']']))
  | array {w l : List Char} {items : List Tree} (hw : Blank w) (h : SpellsItems items l) :
      Spells (.array ('[' :: (w ++ l ++ [']'])) items) ('[' :: (w ++ l ++ [']']))
  | emptyObject {w : List Char} (hw : Blank w) :
      Spells (.object ('{' :: (w ++ ['}'])) []) ('{' :: (w ++ ['}']))
  | object {w l : List Char} {members : List (List Char × Tree)} (hw : Blank w)
      (h : SpellsMembers members l) :
      Spells (.object ('{' :: (w ++ l ++ ['}'])) members) ('{' :: (w ++ l ++ ['}']))

/-- The text is one value or more between commas. -/
inductive SpellsItems : List Tree → List Char → Prop where
  | last {t : Tree} {l w : List Char} (h : Spells t l) (hw : Blank w) : SpellsItems [t] (l ++ w)
  | cons {t : Tree} {items : List Tree} {l w w' r : List Char} (h : Spells t l) (hw : Blank w)
      (hw' : Blank w') (hr : SpellsItems items r) :
      SpellsItems (t :: items) (l ++ (w ++ ',' :: (w' ++ r)))

/-- The text is one member or more between commas: a key, a colon and a value each. -/
inductive SpellsMembers : List (List Char × Tree) → List Char → Prop where
  | last {key l w₁ w₂ w₃ : List Char} {t : Tree} (hk : StringText.IsInside key) (h₁ : Blank w₁)
      (h₂ : Blank w₂) (h : Spells t l) (h₃ : Blank w₃) :
      SpellsMembers [(key, t)] ('"' :: (key ++ '"' :: (w₁ ++ ':' :: (w₂ ++ (l ++ w₃)))))
  | cons {key l w₁ w₂ w₃ w₄ r : List Char} {t : Tree} {members : List (List Char × Tree)}
      (hk : StringText.IsInside key) (h₁ : Blank w₁) (h₂ : Blank w₂) (h : Spells t l)
      (h₃ : Blank w₃) (h₄ : Blank w₄) (hr : SpellsMembers members r) :
      SpellsMembers ((key, t) :: members)
        ('"' :: (key ++ '"' :: (w₁ ++ ':' :: (w₂ ++ (l ++ (w₃ ++ ',' :: (w₄ ++ r)))))))

end

/-- The text holds one value with this tree and white space around it. -/
def IsText (t : Tree) (s : String) : Prop :=
  ∃ w l w', Blank w ∧ Spells t l ∧ Blank w' ∧ s.toList = w ++ (l ++ w')

/-! ### White space -/

theorem exists_skipSpace (l : List Char) : ∃ w, Blank w ∧ l = w ++ skipSpace l :=
  ⟨l.takeWhile isSpace, fun _ => List.mem_takeWhile_imp, List.takeWhile_append_dropWhile.symm⟩

theorem skipSpace_append {w : List Char} (hw : Blank w) {c : Char} (hc : isSpace c = false)
    (r : List Char) : skipSpace (w ++ c :: r) = c :: r := by
  rw [skipSpace, List.dropWhile_append_of_pos hw, List.dropWhile_cons_of_neg (by simp [hc])]

theorem skipSpace_of_blank {w : List Char} (hw : Blank w) : skipSpace w = [] := by
  rw [skipSpace, List.dropWhile_eq_nil_iff]
  exact hw

theorem consumed_append (p rest : List Char) : consumed (p ++ rest) rest = p := by
  simp [consumed]

/-! ### The readers, case by case -/

section Readers

variable (fuel : Nat)

/-- Reads an array behind its bracket. -/
def readArray (r : List Char) : Option (List Tree × List Char) :=
  match skipSpace r with
  | ']' :: rest => some ([], rest)
  | r => readItems fuel r

/-- Reads an object behind its brace. -/
def readObject (r : List Char) : Option (List (List Char × Tree) × List Char) :=
  match skipSpace r with
  | '}' :: rest => some ([], rest)
  | r => readMembers fuel r

theorem read_quote (r : List Char) :
    read (fuel + 1) ('"' :: r) =
      (StringText.scan r).map fun (inside, rest) => (.string inside, rest) := by rfl

theorem read_bracket (r : List Char) :
    read (fuel + 1) ('[' :: r) =
      (readArray fuel r).map fun (items, rest) =>
        (.array (consumed ('[' :: r) rest) items, rest) := by
  unfold readArray
  change (match skipSpace r with | ']' :: rest => _ | r => _) = _
  split
  · rfl
  · cases readItems fuel (skipSpace r) <;> rfl

theorem read_brace (r : List Char) :
    read (fuel + 1) ('{' :: r) =
      (readObject fuel r).map fun (members, rest) =>
        (.object (consumed ('{' :: r) rest) members, rest) := by
  unfold readObject
  change (match skipSpace r with | '}' :: rest => _ | r => _) = _
  split
  · rfl
  · cases readMembers fuel (skipSpace r) <;> rfl

theorem readArray_eq_some_iff {fuel : Nat} {r rest : List Char} {items : List Tree} :
    readArray fuel r = some (items, rest) ↔
      (skipSpace r = ']' :: rest ∧ items = []) ∨
        ((skipSpace r).head? ≠ some ']' ∧ readItems fuel (skipSpace r) = some (items, rest)) := by
  unfold readArray
  split
  · rename_i hr
    simp [hr, and_comm, eq_comm]
  · rename_i hr
    have hne : (skipSpace r).head? ≠ some ']' := fun hhead => by
      obtain ⟨l, hl⟩ := List.head?_eq_some_iff.mp hhead
      exact hr l hl
    exact ⟨fun h => Or.inr ⟨hne, h⟩, fun h => h.elim (fun h => absurd h.1 (hr rest)) And.right⟩

theorem readObject_eq_some_iff {fuel : Nat} {r rest : List Char}
    {members : List (List Char × Tree)} :
    readObject fuel r = some (members, rest) ↔
      (skipSpace r = '}' :: rest ∧ members = []) ∨
        ((skipSpace r).head? ≠ some '}' ∧
          readMembers fuel (skipSpace r) = some (members, rest)) := by
  unfold readObject
  split
  · rename_i hr
    simp [hr, and_comm, eq_comm]
  · rename_i hr
    have hne : (skipSpace r).head? ≠ some '}' := fun hhead => by
      obtain ⟨l, hl⟩ := List.head?_eq_some_iff.mp hhead
      exact hr l hl
    exact ⟨fun h => Or.inr ⟨hne, h⟩, fun h => h.elim (fun h => absurd h.1 (hr rest)) And.right⟩

/-- What stands behind an item: the end, or a comma and more items. -/
theorem readItems_eq_some_iff {fuel : Nat} {l rest : List Char} {items : List Tree} :
    readItems (fuel + 1) l = some (items, rest) ↔ ∃ item r, read fuel l = some (item, r) ∧
      ((skipSpace r = ']' :: rest ∧ items = [item]) ∨
        ∃ r' items', skipSpace r = ',' :: r' ∧
          readItems fuel (skipSpace r') = some (items', rest) ∧ items = item :: items') := by
  simp only [readItems, Option.bind_eq_bind, Option.bind_eq_some_iff, Prod.exists]
  refine exists_congr fun item => exists_congr fun r => and_congr_right fun _ => ?_
  split
  · rename_i hr
    simp [hr, and_comm, eq_comm]
  · rename_i hr
    simp only [hr, Option.bind_eq_some_iff, Prod.exists, Option.some.injEq, Prod.mk.injEq]
    simp [and_comm, eq_comm]
  · rename_i hend hcomma
    refine ⟨fun h => absurd h (by simp), ?_⟩
    rintro (⟨h, -⟩ | ⟨r', -, h, -⟩)
    · exact absurd h (hend rest)
    · exact absurd h (hcomma r')

/-- A member is a key, a colon and a value, and then the end stands behind it, or a comma and more
members. -/
theorem readMembers_eq_some_iff {fuel : Nat} {l rest : List Char}
    {members : List (List Char × Tree)} :
    readMembers (fuel + 1) l = some (members, rest) ↔ ∃ r₀ key r₁ r₂ value r₃,
      l = '"' :: r₀ ∧ StringText.scan r₀ = some (key, r₁) ∧ skipSpace r₁ = ':' :: r₂ ∧
        read fuel (skipSpace r₂) = some (value, r₃) ∧
          ((skipSpace r₃ = '}' :: rest ∧ members = [(key, value)]) ∨
            ∃ r₄ members', skipSpace r₃ = ',' :: r₄ ∧
              readMembers fuel (skipSpace r₄) = some (members', rest) ∧
                members = (key, value) :: members') := by
  constructor
  · intro h
    unfold readMembers at h
    split at h
    · rename_i r₀
      obtain ⟨⟨key, r₁⟩, hk, h⟩ := Option.bind_eq_some_iff.mp h
      dsimp only at h
      split at h
      · rename_i r₂ hcolon
        obtain ⟨⟨value, r₃⟩, hv, h⟩ := Option.bind_eq_some_iff.mp h
        refine ⟨r₀, key, r₁, r₂, value, r₃, rfl, hk, hcolon, hv, ?_⟩
        dsimp only at h
        split at h
        · rename_i rest' hend
          obtain ⟨rfl, rfl⟩ := Prod.mk.inj (Option.some.inj h)
          exact Or.inl ⟨hend, rfl⟩
        · rename_i r₄ hcomma
          obtain ⟨⟨members', rest'⟩, hm, h⟩ := Option.bind_eq_some_iff.mp h
          obtain ⟨rfl, rfl⟩ := Prod.mk.inj (Option.some.inj h)
          exact Or.inr ⟨r₄, members', hcomma, hm, rfl⟩
        · exact absurd h (by simp)
      · exact absurd h (by simp)
    · exact absurd h (by simp)
  · rintro ⟨r₀, key, r₁, r₂, value, r₃, rfl, hk, hcolon, hv, ⟨hend, rfl⟩ | ⟨r₄, members', hcomma,
      hm, rfl⟩⟩
    · simp [readMembers, hk, hcolon, hv, hend]
    · simp [readMembers, hk, hcolon, hv, hcomma, hm]

end Readers

/-! ### What is taken is a value -/

section Sound

variable {fuel : Nat} {l rest : List Char}

/-- What the three readers take from a text is what they are there for. -/
structure ReadsSpelled (fuel : Nat) : Prop where
  value (l : List Char) (t : Tree) (rest : List Char) (h : read fuel l = some (t, rest)) :
    ∃ p, l = p ++ rest ∧ Spells t p
  items (l : List Char) (items : List Tree) (rest : List Char)
    (h : readItems fuel l = some (items, rest)) : ∃ p, l = p ++ ']' :: rest ∧ SpellsItems items p
  members (l : List Char) (members : List (List Char × Tree)) (rest : List Char)
    (h : readMembers fuel l = some (members, rest)) :
    ∃ p, l = p ++ '}' :: rest ∧ SpellsMembers members p

theorem spells_of_readArray (ih : ReadsSpelled fuel) {r : List Char} {items : List Tree}
    (h : readArray fuel r = some (items, rest)) :
    ∃ p, r = p ++ ']' :: rest ∧
      Spells (.array ('[' :: (p ++ [']'])) items) ('[' :: (p ++ [']'])) := by
  obtain ⟨w, hw, hr⟩ := exists_skipSpace r
  rcases readArray_eq_some_iff.mp h with ⟨hend, rfl⟩ | ⟨-, hitems⟩
  · rw [hend] at hr
    exact ⟨w, hr, .emptyArray hw⟩
  · obtain ⟨p, hp, hspells⟩ := ih.items _ _ _ hitems
    rw [hp] at hr
    exact ⟨w ++ p, by rw [hr, List.append_assoc], .array hw hspells⟩

theorem spells_of_readObject (ih : ReadsSpelled fuel) {r : List Char}
    {members : List (List Char × Tree)} (h : readObject fuel r = some (members, rest)) :
    ∃ p, r = p ++ '}' :: rest ∧
      Spells (.object ('{' :: (p ++ ['}'])) members) ('{' :: (p ++ ['}'])) := by
  obtain ⟨w, hw, hr⟩ := exists_skipSpace r
  rcases readObject_eq_some_iff.mp h with ⟨hend, rfl⟩ | ⟨-, hmembers⟩
  · rw [hend] at hr
    exact ⟨w, hr, .emptyObject hw⟩
  · obtain ⟨p, hp, hspells⟩ := ih.members _ _ _ hmembers
    rw [hp] at hr
    exact ⟨w ++ p, by rw [hr, List.append_assoc], .object hw hspells⟩

theorem spells_of_read_succ (ih : ReadsSpelled fuel) {t : Tree}
    (h : read (fuel + 1) l = some (t, rest)) : ∃ p, l = p ++ rest ∧ Spells t p := by
  unfold read at h
  split at h
  · rename_i r
    obtain ⟨⟨inside, rest'⟩, hs, he⟩ := Option.map_eq_some_iff.mp h
    obtain ⟨rfl, rfl⟩ := Prod.mk.inj he
    obtain ⟨rfl, hi⟩ := StringText.isInside_of_scan hs
    exact ⟨'"' :: (inside ++ ['"']), by simp, .string hi⟩
  · rename_i r
    change read (fuel + 1) ('[' :: r) = _ at h
    rw [read_bracket] at h
    obtain ⟨⟨items, rest'⟩, hitems, he⟩ := Option.map_eq_some_iff.mp h
    obtain ⟨rfl, rfl⟩ := Prod.mk.inj he
    obtain ⟨p, rfl, hspells⟩ := spells_of_readArray ih hitems
    have hsplit : '[' :: (p ++ ']' :: rest') = '[' :: (p ++ [']']) ++ rest' := by simp
    rw [hsplit, consumed_append]
    exact ⟨_, rfl, hspells⟩
  · rename_i r
    change read (fuel + 1) ('{' :: r) = _ at h
    rw [read_brace] at h
    obtain ⟨⟨members, rest'⟩, hmembers, he⟩ := Option.map_eq_some_iff.mp h
    obtain ⟨rfl, rfl⟩ := Prod.mk.inj he
    obtain ⟨p, rfl, hspells⟩ := spells_of_readObject ih hmembers
    have hsplit : '{' :: (p ++ '}' :: rest') = '{' :: (p ++ ['}']) ++ rest' := by simp
    rw [hsplit, consumed_append]
    exact ⟨_, rfl, hspells⟩
  · obtain ⟨rfl, rfl⟩ := Prod.mk.inj (Option.some.inj h)
    exact ⟨['n', 'u', 'l', 'l'], rfl, .nullWord⟩
  · obtain ⟨rfl, rfl⟩ := Prod.mk.inj (Option.some.inj h)
    exact ⟨['t', 'r', 'u', 'e'], rfl, .trueWord⟩
  · obtain ⟨rfl, rfl⟩ := Prod.mk.inj (Option.some.inj h)
    exact ⟨['f', 'a', 'l', 's', 'e'], rfl, .falseWord⟩
  · obtain ⟨⟨text, rest'⟩, hs, he⟩ := Option.map_eq_some_iff.mp h
    obtain ⟨rfl, rfl⟩ := Prod.mk.inj he
    obtain ⟨rfl, hn⟩ := NumberText.isNumber_of_scan hs
    exact ⟨text, rfl, .number hn⟩

theorem spells_of_readItems_succ (ih : ReadsSpelled fuel) {items : List Tree}
    (h : readItems (fuel + 1) l = some (items, rest)) :
    ∃ p, l = p ++ ']' :: rest ∧ SpellsItems items p := by
  obtain ⟨item, r, hitem, hr⟩ := readItems_eq_some_iff.mp h
  obtain ⟨p, rfl, hp⟩ := ih.value _ _ _ hitem
  obtain ⟨w, hw, hskip⟩ := exists_skipSpace r
  rcases hr with ⟨hend, rfl⟩ | ⟨r', items', hcomma, hitems, rfl⟩
  · rw [hend] at hskip
    exact ⟨p ++ w, by rw [hskip, List.append_assoc], .last hp hw⟩
  · obtain ⟨w', hw', hskip'⟩ := exists_skipSpace r'
    obtain ⟨q, hq, hspells⟩ := ih.items _ _ _ hitems
    rw [hcomma, hskip', hq] at hskip
    exact ⟨_, by rw [hskip]; simp, .cons hp hw hw' hspells⟩

theorem spells_of_readMembers_succ (ih : ReadsSpelled fuel) {members : List (List Char × Tree)}
    (h : readMembers (fuel + 1) l = some (members, rest)) :
    ∃ p, l = p ++ '}' :: rest ∧ SpellsMembers members p := by
  obtain ⟨r₀, key, r₁, r₂, value, r₃, rfl, hkey, hcolon, hvalue, hr⟩ :=
    readMembers_eq_some_iff.mp h
  obtain ⟨rfl, hk⟩ := StringText.isInside_of_scan hkey
  obtain ⟨w₁, h₁, hskip₁⟩ := exists_skipSpace r₁
  obtain ⟨w₂, h₂, hskip₂⟩ := exists_skipSpace r₂
  obtain ⟨p, hp, hspells⟩ := ih.value _ _ _ hvalue
  obtain ⟨w₃, h₃, hskip₃⟩ := exists_skipSpace r₃
  rw [hcolon, hskip₂, hp] at hskip₁
  rcases hr with ⟨hend, rfl⟩ | ⟨r₄, members', hcomma, hmembers, rfl⟩
  · rw [hskip₃, hend] at hskip₁
    exact ⟨_, by rw [hskip₁]; simp, .last hk h₁ h₂ hspells h₃⟩
  · obtain ⟨w₄, h₄, hskip₄⟩ := exists_skipSpace r₄
    obtain ⟨q, hq, hrest⟩ := ih.members _ _ _ hmembers
    rw [hskip₃, hcomma, hskip₄, hq] at hskip₁
    exact ⟨_, by rw [hskip₁]; simp, .cons hk h₁ h₂ hspells h₃ h₄ hrest⟩

theorem readsSpelled (fuel : Nat) : ReadsSpelled fuel := by
  -- the readers call each other with less fuel, so what they read is known for all three at once
  induction fuel with
  | zero =>
    refine ⟨fun _ _ _ h => ?_, fun _ _ _ h => ?_, fun _ _ _ h => ?_⟩
    · exact absurd h (by simp [read])
    · exact absurd h (by simp [readItems])
    · exact absurd h (by simp [readMembers])
  | succ fuel ih =>
    exact ⟨fun _ _ _ => spells_of_read_succ ih, fun _ _ _ => spells_of_readItems_succ ih,
      fun _ _ _ => spells_of_readMembers_succ ih⟩

/-- What is read at the start of a text is a value. -/
theorem spells_of_read {t : Tree} (h : read fuel l = some (t, rest)) :
    ∃ p, l = p ++ rest ∧ Spells t p := (readsSpelled fuel).value l t rest h

end Sound

/-! ### Values are taken whole -/

section Complete

theorem of_isDigit {c : Char} (hc : c = '-' ∨ Decimal.isDigit c = true) :
    isSpace c = false ∧ c ∉ [']', '"', '[', '{', 'n', 't', 'f'] := by
  rcases hc with rfl | hc
  · decide
  · have all : ∀ n < 58, 48 ≤ n → isSpace (Char.ofNat n) = false ∧
        Char.ofNat n ∉ [']', '"', '[', '{', 'n', 't', 'f'] := by decide
    have hlt := Decimal.toNat_of_isDigit hc
    have := all c.toNat (by omega) hlt.1
    rwa [Char.ofNat_toNat] at this

/-- A value starts with a character that is neither white space nor the end of an array. -/
theorem Spells.exists_cons {t : Tree} {p : List Char} (h : Spells t p) :
    ∃ c r, p = c :: r ∧ isSpace c = false ∧ c ≠ ']' := by
  cases h with
  | number h =>
    obtain ⟨c, r, rfl, hc⟩ := h.exists_cons
    obtain ⟨hspace, hc⟩ := of_isDigit hc
    exact ⟨c, r, rfl, hspace, fun he => hc (by simp [he])⟩
  | _ => exact ⟨_, _, rfl, by decide, by decide⟩

theorem read_of_isNumber {n : List Char} (hn : NumberText.IsNumber n) {rest : List Char}
    (he : NumberText.Ends NumberText.goesOn rest) (fuel : Nat) :
    read (fuel + 1) (n ++ rest) = some (.number n, rest) := by
  have hscan := NumberText.scan_append hn he
  obtain ⟨c, r, rfl, hc⟩ := hn.exists_cons
  have hc := (of_isDigit hc).2
  have ne {d : Char} {l : List Char} (h : c :: r ++ rest = d :: l)
      (hd : d ∈ [']', '"', '[', '{', 'n', 't', 'f']) : False := by
    obtain ⟨rfl, -⟩ := List.cons.inj h
    exact hc hd
  -- no other value starts with a hyphen or a digit
  unfold read
  split
  case h_7 =>
    rw [hscan]
    rfl
  all_goals
    rename_i heq
    exact (ne heq (by decide)).elim

theorem goesOn_of_isSpace {c : Char} (h : isSpace c = true) : NumberText.goesOn c = false := by
  simp only [isSpace, Bool.or_eq_true, beq_iff_eq] at h
  rcases h with ((rfl | rfl) | rfl) | rfl <;> decide

theorem ends_goesOn_of_blank {w : List Char} (hw : Blank w) :
    NumberText.Ends NumberText.goesOn w :=
  fun c hc => goesOn_of_isSpace (hw c (List.mem_of_mem_head? hc))

theorem ends_goesOn_append {w : List Char} (hw : Blank w) {c : Char}
    (hc : NumberText.goesOn c = false) (r : List Char) :
    NumberText.Ends NumberText.goesOn (w ++ c :: r) := by
  intro d hd
  cases w with
  | nil =>
    obtain rfl := Option.some.inj hd
    exact hc
  | cons a w =>
    obtain rfl := Option.some.inj hd
    exact goesOn_of_isSpace (hw _ List.mem_cons_self)

theorem SpellsItems.exists_cons {items : List Tree} {p : List Char} (h : SpellsItems items p) :
    ∃ c r, p = c :: r ∧ isSpace c = false ∧ c ≠ ']' := by
  cases h with
  | last h hw =>
    obtain ⟨c, r, rfl, hc⟩ := h.exists_cons
    exact ⟨c, _, rfl, hc⟩
  | cons h hw hw' hr =>
    obtain ⟨c, r, rfl, hc⟩ := h.exists_cons
    exact ⟨c, _, rfl, hc⟩

theorem SpellsMembers.exists_cons {members : List (List Char × Tree)} {p : List Char}
    (h : SpellsMembers members p) : ∃ r, p = '"' :: r := by
  cases h with
  | last => exact ⟨_, rfl⟩
  | cons => exact ⟨_, rfl⟩

theorem read_bracket_append {fuel : Nat} {body rest : List Char} {items : List Tree}
    (h : readArray fuel (body ++ ']' :: rest) = some (items, rest)) :
    read (fuel + 1) ('[' :: (body ++ [']']) ++ rest) =
      some (.array ('[' :: (body ++ [']'])) items, rest) := by
  have hsplit : '[' :: (body ++ [']']) ++ rest = '[' :: (body ++ ']' :: rest) := by simp
  rw [hsplit, read_bracket, h, Option.map_some, ← hsplit]
  dsimp only
  rw [consumed_append]

theorem read_brace_append {fuel : Nat} {body rest : List Char} {members : List (List Char × Tree)}
    (h : readObject fuel (body ++ '}' :: rest) = some (members, rest)) :
    read (fuel + 1) ('{' :: (body ++ ['}']) ++ rest) =
      some (.object ('{' :: (body ++ ['}'])) members, rest) := by
  have hsplit : '{' :: (body ++ ['}']) ++ rest = '{' :: (body ++ '}' :: rest) := by simp
  rw [hsplit, read_brace, h, Option.map_some, ← hsplit]
  dsimp only
  rw [consumed_append]

variable {fuel : Nat}

/-- The three readers take what they are there for as a whole, if there is fuel for its length. -/
structure ReadsWhole (fuel : Nat) : Prop where
  value (t : Tree) (p rest : List Char) (h : Spells t p)
    (he : NumberText.Ends NumberText.goesOn rest) (hf : p.length ≤ fuel) :
    read fuel (p ++ rest) = some (t, rest)
  items (items : List Tree) (p rest : List Char) (h : SpellsItems items p)
    (hf : p.length + 1 ≤ fuel) : readItems fuel (p ++ ']' :: rest) = some (items, rest)
  members (members : List (List Char × Tree)) (p rest : List Char) (h : SpellsMembers members p)
    (hf : p.length + 1 ≤ fuel) : readMembers fuel (p ++ '}' :: rest) = some (members, rest)

theorem read_append_succ (ih : ReadsWhole fuel) {t : Tree} {p rest : List Char} (h : Spells t p)
    (he : NumberText.Ends NumberText.goesOn rest) (hf : p.length ≤ fuel + 1) :
    read (fuel + 1) (p ++ rest) = some (t, rest) := by
  cases h with
  | nullWord => rfl
  | trueWord => rfl
  | falseWord => rfl
  | number h => exact read_of_isNumber h he fuel
  | @string l h =>
    have hsplit : '"' :: (l ++ ['"']) ++ rest = '"' :: (l ++ '"' :: rest) := by simp
    rw [hsplit, read_quote, StringText.scan_append h]
    rfl
  | emptyArray hw =>
    refine read_bracket_append (readArray_eq_some_iff.mpr (Or.inl ⟨?_, rfl⟩))
    exact skipSpace_append hw (by decide) rest
  | @array w l items hw h =>
    have hitems := ih.items items l rest h (by simp at hf; omega)
    obtain ⟨c, r, rfl, hc, hne⟩ := h.exists_cons
    have hskip : skipSpace (w ++ c :: r ++ ']' :: rest) = c :: r ++ ']' :: rest := by
      rw [List.append_assoc]
      exact skipSpace_append hw hc _
    refine read_bracket_append (readArray_eq_some_iff.mpr (Or.inr ?_))
    rw [hskip]
    exact ⟨by simpa using hne, hitems⟩
  | emptyObject hw =>
    refine read_brace_append (readObject_eq_some_iff.mpr (Or.inl ⟨?_, rfl⟩))
    exact skipSpace_append hw (by decide) rest
  | @object w l members hw h =>
    have hmembers := ih.members members l rest h (by simp at hf; omega)
    obtain ⟨r, rfl⟩ := h.exists_cons
    have hskip : skipSpace (w ++ '"' :: r ++ '}' :: rest) = '"' :: r ++ '}' :: rest := by
      rw [List.append_assoc]
      exact skipSpace_append hw (by decide) _
    refine read_brace_append (readObject_eq_some_iff.mpr (Or.inr ?_))
    rw [hskip]
    exact ⟨by simp, hmembers⟩

theorem readItems_append_succ (ih : ReadsWhole fuel) {items : List Tree} {p : List Char}
    (h : SpellsItems items p) (rest : List Char) (hf : p.length + 1 ≤ fuel + 1) :
    readItems (fuel + 1) (p ++ ']' :: rest) = some (items, rest) := by
  cases h with
  | @last t l w h hw =>
    have hitem := ih.value t l (w ++ ']' :: rest) h (ends_goesOn_append hw (by decide) rest)
      (by simp at hf; omega)
    rw [List.append_assoc]
    exact readItems_eq_some_iff.mpr ⟨t, _, hitem,
      Or.inl ⟨skipSpace_append hw (by decide) rest, rfl⟩⟩
  | @cons t items l w w' r h hw hw' hr =>
    have hitem := ih.value t l (w ++ ',' :: (w' ++ r ++ ']' :: rest)) h
      (ends_goesOn_append hw (by decide) _) (by simp at hf; omega)
    have hitems := ih.items items r rest hr (by simp at hf; omega)
    obtain ⟨c, r, rfl, hc, -⟩ := hr.exists_cons
    have hskip : skipSpace (w' ++ c :: r ++ ']' :: rest) = c :: r ++ ']' :: rest := by
      rw [List.append_assoc]
      exact skipSpace_append hw' hc _
    have hsplit : l ++ (w ++ ',' :: (w' ++ c :: r)) ++ ']' :: rest =
        l ++ (w ++ ',' :: (w' ++ c :: r ++ ']' :: rest)) := by simp
    rw [hsplit]
    exact readItems_eq_some_iff.mpr ⟨t, _, hitem, Or.inr ⟨_, items,
      skipSpace_append hw (by decide) _, by rw [hskip]; exact hitems, rfl⟩⟩

theorem readMembers_append_succ (ih : ReadsWhole fuel) {members : List (List Char × Tree)}
    {p : List Char} (h : SpellsMembers members p) (rest : List Char)
    (hf : p.length + 1 ≤ fuel + 1) :
    readMembers (fuel + 1) (p ++ '}' :: rest) = some (members, rest) := by
  have value {t : Tree} {w l r : List Char} (hw : Blank w) (h : Spells t l)
      (hr : NumberText.Ends NumberText.goesOn r) (hl : l.length ≤ fuel) :
      read fuel (skipSpace (w ++ (l ++ r))) = some (t, r) := by
    have hread := ih.value t l r h hr hl
    obtain ⟨c, q, rfl, hc, -⟩ := h.exists_cons
    rw [show skipSpace (w ++ (c :: q ++ r)) = c :: q ++ r from skipSpace_append hw hc _]
    exact hread
  cases h with
  | @last key l w₁ w₂ w₃ t hk h₁ h₂ h h₃ =>
    have hvalue := value h₂ h (ends_goesOn_append h₃ (c := '}') (by decide) rest)
      (by simp at hf; omega)
    refine readMembers_eq_some_iff.mpr ⟨_, key, _, _, t, _, rfl, ?_, skipSpace_append h₁ (by decide)
      _, hvalue, Or.inl ⟨skipSpace_append h₃ (by decide) rest, rfl⟩⟩
    rw [← StringText.scan_append hk]
    simp
  | @cons key l w₁ w₂ w₃ w₄ r t members hk h₁ h₂ h h₃ h₄ hr =>
    have hmembers := ih.members members r rest hr (by simp at hf; omega)
    obtain ⟨r, rfl⟩ := hr.exists_cons
    have hvalue := value h₂ h (ends_goesOn_append h₃ (c := ',') (by decide)
      (w₄ ++ ('"' :: r ++ '}' :: rest))) (by simp at hf; omega)
    have hskip : skipSpace (w₄ ++ ('"' :: r ++ '}' :: rest)) = '"' :: r ++ '}' :: rest :=
      skipSpace_append h₄ (by decide) _
    refine readMembers_eq_some_iff.mpr ⟨_, key, _, _, t, _, rfl, ?_, skipSpace_append h₁ (by decide)
      _, hvalue, Or.inr ⟨_, members, skipSpace_append h₃ (by decide) _,
        by rw [hskip]; exact hmembers, rfl⟩⟩
    rw [← StringText.scan_append hk]
    simp

theorem readsWhole (fuel : Nat) : ReadsWhole fuel := by
  -- what stands inside a value is shorter than the value, so the fuel that is left is enough
  induction fuel with
  | zero =>
    refine ⟨fun t p rest h _ hf => ?_, fun _ _ _ _ hf => ?_, fun _ _ _ _ hf => ?_⟩
    · obtain ⟨c, r, rfl, -⟩ := h.exists_cons
      exact absurd hf (by simp)
    · exact absurd hf (by simp)
    · exact absurd hf (by simp)
  | succ fuel ih =>
    exact ⟨fun _ _ _ h => read_append_succ ih h, fun _ _ rest h => readItems_append_succ ih h rest,
      fun _ _ rest h => readMembers_append_succ ih h rest⟩

end Complete

/-! ### Parts of a value -/

/-- A tree keeps the text that it was read from. -/
theorem Spells.source_eq {t : Tree} {l : List Char} (h : Spells t l) : t.source = l := by
  cases h <;> rfl

/-- The items of an array are spelled themselves, by a part of its text. -/
theorem SpellsItems.exists_spells {items : List Tree} {l : List Char} (h : SpellsItems items l)
    {t : Tree} (ht : t ∈ items) : ∃ p, Spells t p ∧ p.length ≤ l.length := by
  induction items generalizing l with
  | nil => exact absurd ht List.not_mem_nil
  | cons t' items ih =>
    rcases List.mem_cons.mp ht with rfl | hlater
    · cases h with
      | last h => exact ⟨_, h, by simp⟩
      | cons h => exact ⟨_, h, by simp⟩
    · cases h with
      | last => exact absurd hlater List.not_mem_nil
      | cons _ _ _ hr =>
        obtain ⟨p, hp, hlength⟩ := ih hr hlater
        exact ⟨p, hp, by simp; omega⟩

/-- The values of the members of an object are spelled themselves, by a part of its text. -/
theorem SpellsMembers.exists_spells {members : List (List Char × Tree)} {l : List Char}
    (h : SpellsMembers members l) {m : List Char × Tree} (hm : m ∈ members) :
    ∃ p, Spells m.2 p ∧ p.length ≤ l.length := by
  induction members generalizing l with
  | nil => exact absurd hm List.not_mem_nil
  | cons m' members ih =>
    rcases List.mem_cons.mp hm with rfl | hlater
    · cases h with
      | last _ _ _ h => exact ⟨_, h, by simp; omega⟩
      | cons _ _ _ h => exact ⟨_, h, by simp; omega⟩
    · cases h with
      | last => exact absurd hlater List.not_mem_nil
      | cons _ _ _ _ _ _ hr =>
        obtain ⟨p, hp, hlength⟩ := ih hr hlater
        exact ⟨p, hp, by simp; omega⟩

/-! ### Texts -/

/-- **A text is read as the tree that it spells**, and a text that spells none is not read. -/
theorem parse?_eq_some_iff {s : String} {t : Tree} : parse? s = some t ↔ IsText t s := by
  have parse?_eq : parse? s = (read ((skipSpace s.toList).length + 1) (skipSpace s.toList)).bind
      fun p => if (skipSpace p.2).isEmpty then some p.1 else none := by rfl
  rw [parse?_eq, Option.bind_eq_some_iff]
  constructor
  · rintro ⟨⟨t', rest⟩, hread, h⟩
    obtain ⟨hend, h⟩ := Option.ite_none_right_eq_some.mp h
    obtain rfl := Option.some.inj h
    obtain ⟨w, hw, hs⟩ := exists_skipSpace s.toList
    obtain ⟨p, hp, hspells⟩ := spells_of_read hread
    obtain ⟨w', hw', hrest⟩ := exists_skipSpace rest
    rw [List.isEmpty_iff.mp hend, List.append_nil] at hrest
    subst hrest
    exact ⟨w, p, rest, hw, hspells, hw', by rw [← hp, ← hs]⟩
  · rintro ⟨w, l, w', hw, hspells, hw', hs⟩
    have hread := (readsWhole ((skipSpace s.toList).length + 1)).value t l w' hspells
      (ends_goesOn_of_blank hw')
    obtain ⟨c, r, rfl, hc, -⟩ := hspells.exists_cons
    have hskip : skipSpace s.toList = c :: r ++ w' := by
      rw [hs]
      exact skipSpace_append hw hc _
    rw [hskip] at hread ⊢
    refine ⟨_, hread (by simp; omega), ?_⟩
    simp [skipSpace_of_blank hw']

/-- What is read from the tree of a text is what the tree describes. -/
theorem bind_parse?_eq_some_iff {α : Type} {read : Tree → Option α}
    {Describes : Tree → α → Prop} (h : ∀ t a, read t = some a ↔ Describes t a)
    {s : String} {a : α} :
    (parse? s).bind read = some a ↔ ∃ t, IsText t s ∧ Describes t a := by
  rw [Option.bind_eq_some_iff]
  exact exists_congr fun t => and_congr parse?_eq_some_iff (h t a)

/-- A text spells one tree at most. -/
theorem IsText.unique {s : String} {t t' : Tree} (h : IsText t s) (h' : IsText t' s) : t = t' :=
  Option.some.inj ((parse?_eq_some_iff.mpr h).symm.trans (parse?_eq_some_iff.mpr h'))

end AssetAccess.Json.Tree
