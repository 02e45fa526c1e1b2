import AssetAccess.Proofs.Json.Wrapping
import AssetAccess.Proofs.Sequence
/-!
# What a JSON text stands for

`Denotes unwraps depth t v` says that a tree in which containers are nested at most `depth` deep
stands for a value.  A number stands for an integer where it is written as one that fits 64 bits,
and otherwise for a float, if that is finite; a string stands for its text; of the members of an
object with one key the last one counts (`mem_lastOfEach_iff`).  Where `unwraps` is true, an object
that wraps a text stands for what the text stands for.

A text is read as the value that it stands for, and a text that stands for none is not read
(`parse?_eq_some_iff`).
-/

namespace AssetAccess.Json

/-! ### Numbers -/

/-- A number is written as an integer.  A negative zero is not. -/
def NumberText.IsInteger (text : List Char) (n : Int) : Prop :=
  text ≠ ['-', '0'] ∧ Decimal.Denotes text n

theorem NumberText.int?_eq_some_iff {text : List Char} {n : Int} :
    int? text = some n ↔ IsInteger text n := by
  rw [int?, Option.ite_none_left_eq_some, Decimal.int?_eq_some_iff]
  rfl

theorem NumberText.int64?_eq_some_iff {text : List Char} {n : Int64} :
    int64? text = some n ↔ IsInteger text n.toInt := by
  rw [int64?, Option.ite_none_left_eq_some, Decimal.int64?_eq_some_iff]
  rfl

theorem NumberText.IsInteger.unique {text : List Char} {m n : Int} (hm : IsInteger text m)
    (hn : IsInteger text n) : m = n := hm.2.unique hn.2

namespace Value

/-- An integer of 64 bits, with or without a sign. -/
def Fits (n : Int) : Prop := -9223372036854775808 ≤ n ∧ n ≤ 18446744073709551615

/-- The value that a number stands for. -/
inductive OfNumber (text : List Char) : Value → Prop where
  | integer {n : Int} (h : NumberText.IsInteger text n) (hn : Fits n) : OfNumber text (.integer n)
  | float {f : Float64} (h : ∀ n, NumberText.IsInteger text n → ¬ Fits n)
      (hf : NumberText.float? text = some f) : OfNumber text (.float f)

/-- A number that stands for no integer is read as a float. -/
theorem map_float?_eq_some_iff {text : List Char} {v : Value}
    (hno : ∀ n, NumberText.IsInteger text n → ¬ Fits n) :
    (NumberText.float? text).map .float = some v ↔ OfNumber text v := by
  rw [Option.map_eq_some_iff]
  constructor
  · rintro ⟨f, hf, rfl⟩
    exact .float hno hf
  · rintro (⟨h, hn⟩ | ⟨-, hf⟩)
    · exact absurd hn (hno _ h)
    · exact ⟨_, hf, rfl⟩

theorem ofNumber?_eq_some_iff {text : List Char} {v : Value} :
    ofNumber? text = some v ↔ OfNumber text v := by
  unfold ofNumber?
  split
  · rename_i n hint
    have hint := NumberText.int?_eq_some_iff.mp hint
    split
    · rename_i hn
      have hfits : Fits n := by simpa [Fits] using hn
      constructor
      · intro h
        obtain rfl := Option.some.inj h
        exact .integer hint hfits
      · rintro (⟨h, -⟩ | ⟨hno, -⟩)
        · rw [h.unique hint]
        · exact absurd hfits (hno n hint)
    · rename_i hn
      refine map_float?_eq_some_iff fun m hm => ?_
      rw [hm.unique hint]
      simpa [Fits] using hn
  · rename_i hnone
    refine map_float?_eq_some_iff fun n hn => ?_
    rw [NumberText.int?_eq_some_iff.mpr hn] at hnone
    exact absurd hnone (by simp)

/-- Nearest to this number is the largest float, but the digits and the power of ten that it is made
of have an infinite product. -/
example : (ofNumber? "1.7976931348623158e308".toList).isSome = false := by decide +kernel

/-- The same number in other digits, and a smaller power of ten. -/
example : (ofNumber? "179769313486231581e291".toList).isSome = true := by decide +kernel

/-! ### Members -/

/-- Of several members with one key the last one is kept. -/
theorem mem_lastOfEach_iff {l : List (String × Value)} {e : String × Value} :
    e ∈ lastOfEach l ↔ ∃ a b, l = a ++ e :: b ∧ ∀ m ∈ b, m.1 ≠ e.1 := by
  induction l with
  | nil => simp [lastOfEach]
  | cons m l ih =>
    -- a split of the longer list leaves the first member aside, or starts with it
    have hsplit : (∃ a b, m :: l = a ++ e :: b ∧ ∀ x ∈ b, x.1 ≠ e.1) ↔
        (m = e ∧ ∀ x ∈ l, x.1 ≠ e.1) ∨ ∃ a b, l = a ++ e :: b ∧ ∀ x ∈ b, x.1 ≠ e.1 := by
      constructor
      · rintro ⟨a, b, hl, hb⟩
        cases a with
        | nil =>
          obtain ⟨rfl, rfl⟩ := List.cons.inj hl
          exact Or.inl ⟨rfl, hb⟩
        | cons _ a =>
          obtain ⟨rfl, rfl⟩ := List.cons.inj hl
          exact Or.inr ⟨a, b, rfl, hb⟩
      · rintro (⟨rfl, hb⟩ | ⟨a, b, rfl, hb⟩)
        · exact ⟨[], l, rfl, hb⟩
        · exact ⟨m :: a, b, rfl, hb⟩
    rw [hsplit, ← ih, lastOfEach]
    split
    · rename_i hany
      obtain ⟨x, hx, hkey⟩ := List.any_eq_true.mp hany
      refine (or_iff_right ?_).symm
      rintro ⟨rfl, hno⟩
      exact hno x hx (of_decide_eq_true hkey)
    · rename_i hany
      rw [List.mem_cons, eq_comm]
      refine or_congr_left ?_
      constructor
      · rintro rfl
        exact ⟨rfl, fun x hx hkey => hany (List.any_eq_true.mpr ⟨x, hx, decide_eq_true hkey⟩)⟩
      · exact And.left

/-! ### Trees -/

mutual

/-- The value that a tree stands for, if containers may be nested `depth` deep. -/
inductive Denotes (unwraps : Bool) : Nat → Tree → Value → Prop where
  | null (depth : Nat) : Denotes unwraps depth .null .null
  | bool (depth : Nat) (b : Bool) : Denotes unwraps depth (.bool b) (.bool b)
  | number (depth : Nat) {text : List Char} {v : Value} (h : OfNumber text v) :
      Denotes unwraps depth (.number text) v
  | string (depth : Nat) {inside : List Char} {s : String}
      (h : StringText.Denotes inside s.toList) : Denotes unwraps depth (.string inside) (.string s)
  | array {depth : Nat} (source : List Char) {items : List Tree} {values : List Value}
      (h : DenotesItems unwraps depth items values) :
      Denotes unwraps (depth + 1) (.array source items) (.array values)
  | object {depth : Nat} (source : List Char) {members : List (List Char × Tree)}
      {values : List (String × Value)}
      (hw : unwraps = true → ¬ (Tree.object source members).IsWrapper)
      (h : DenotesMembers unwraps depth members values) :
      Denotes unwraps (depth + 1) (.object source members) (.object (lastOfEach values))
  | wrapper {depth : Nat} {source : List Char} {members : List (List Char × Tree)} {s : String}
      {t : Tree} {v : Value} (hu : unwraps = true) (hw : (Tree.object source members).Wraps s)
      (ht : Tree.IsText t s) (h : Denotes unwraps maxDepth t v) :
      Denotes unwraps (depth + 1) (.object source members) v

/-- The values that the items of an array stand for. -/
inductive DenotesItems (unwraps : Bool) : Nat → List Tree → List Value → Prop where
  | nil (depth : Nat) : DenotesItems unwraps depth [] []
  | cons {depth : Nat} {t : Tree} {v : Value} {items : List Tree} {values : List Value}
      (h : Denotes unwraps depth t v) (hr : DenotesItems unwraps depth items values) :
      DenotesItems unwraps depth (t :: items) (v :: values)

/-- The keys and values that the members of an object stand for. -/
inductive DenotesMembers (unwraps : Bool) :
    Nat → List (List Char × Tree) → List (String × Value) → Prop where
  | nil (depth : Nat) : DenotesMembers unwraps depth [] []
  | cons {depth : Nat} {raw : List Char} {key : String} {t : Tree} {v : Value}
      {members : List (List Char × Tree)} {values : List (String × Value)}
      (hk : StringText.Denotes raw key.toList) (h : Denotes unwraps depth t v)
      (hr : DenotesMembers unwraps depth members values) :
      DenotesMembers unwraps depth ((raw, t) :: members) ((key, v) :: values)

end

/-- A reader of wrapped texts, or none, reads what the texts in a tree stand for. -/
inductive Unwraps (t : Tree) : Bool → Option (String → Option Value) → Prop where
  | never : Unwraps t false none
  | always {value? : String → Option Value}
      (h : ∀ s v, t.Holds s →
        (value? s = some v ↔ ∃ t', Tree.IsText t' s ∧ Denotes true maxDepth t' v)) :
      Unwraps t true (some value?)

section OneDepth

variable {unwraps : Bool} {unwrap? : Option (String → Option Value)} {depth : Nat}

theorem DenotesItems.forall₂ {items : List Tree} {values : List Value}
    (h : DenotesItems unwraps depth items values) :
    List.Forall₂ (Denotes unwraps depth) items values := by
  induction items generalizing values with
  | nil =>
    cases h
    exact .nil
  | cons t items ih =>
    cases h with
    | cons h hr => exact .cons h (ih hr)

theorem DenotesMembers.forall₂ {members : List (List Char × Tree)}
    {values : List (String × Value)} (h : DenotesMembers unwraps depth members values) :
    List.Forall₂ (fun m v => StringText.Denotes m.1 v.1.toList ∧ Denotes unwraps depth m.2 v.2)
      members values := by
  induction members generalizing values with
  | nil =>
    cases h
    exact .nil
  | cons m members ih =>
    cases h with
    | cons hk h hr => exact .cons ⟨hk, h⟩ (ih hr)

/-- What reads all texts in a tree reads those in a part of it. -/
theorem Unwraps.of_holds {t t' : Tree} (h : Unwraps t unwraps unwrap?)
    (ht : ∀ s, t'.Holds s → t.Holds s) : Unwraps t' unwraps unwrap? := by
  cases h with
  | never => exact .never
  | always h => exact .always fun s v hs => h s v (ht s hs)

theorem ofItems?_eq_some_iff {items : List Tree} {values : List Value}
    (ih : ∀ t ∈ items, ∀ v, ofTree? unwrap? depth t = some v ↔ Denotes unwraps depth t v) :
    ofItems? unwrap? depth items = some values ↔ DenotesItems unwraps depth items values := by
  induction items generalizing values with
  | nil =>
    rw [ofItems?, Option.some.injEq]
    constructor
    · rintro rfl
      exact .nil depth
    · rintro ⟨⟩
      rfl
  | cons t items ihitems =>
    obtain ⟨iht, ih⟩ := List.forall_mem_cons.mp ih
    simp only [ofItems?, Option.bind_eq_bind, Option.bind_eq_some_iff, iht, ihitems ih]
    constructor
    · rintro ⟨v, hv, vs, hvs, h⟩
      obtain rfl := Option.some.inj h
      exact .cons hv hvs
    · rintro ⟨⟩
      rename_i v values hv hvs
      exact ⟨v, hv, values, hvs, rfl⟩

theorem ofMembers?_eq_some_iff {members : List (List Char × Tree)}
    {values : List (String × Value)}
    (ih : ∀ m ∈ members, ∀ v, ofTree? unwrap? depth m.2 = some v ↔ Denotes unwraps depth m.2 v) :
    ofMembers? unwrap? depth members = some values ↔
      DenotesMembers unwraps depth members values := by
  induction members generalizing values with
  | nil =>
    rw [ofMembers?, Option.some.injEq]
    constructor
    · rintro rfl
      exact .nil depth
    · rintro ⟨⟩
      rfl
  | cons m members ihmembers =>
    obtain ⟨raw, t⟩ := m
    obtain ⟨iht, ih⟩ := List.forall_mem_cons.mp ih
    simp only [ofMembers?, Option.bind_eq_bind, Option.bind_eq_some_iff, iht, ihmembers ih,
      StringText.decode?_eq_some_iff]
    constructor
    · rintro ⟨key, hk, v, hv, vs, hvs, h⟩
      obtain rfl := Option.some.inj h
      exact .cons (by rwa [String.toList_ofList]) hv hvs
    · rintro ⟨⟩
      rename_i key v values hk hv hvs
      exact ⟨key.toList, hk, v, hv, values, hvs, by simp⟩

end OneDepth

section Trees

variable {unwraps : Bool} {unwrap? : Option (String → Option Value)} {depth : Nat} {v : Value}

/-- Depth does not matter for what holds nothing else. -/
theorem ofTree?_leaf {t : Tree} (ha : ∀ source items, t ≠ .array source items)
    (ho : ∀ source members, t ≠ .object source members) :
    ofTree? unwrap? depth t = some v ↔ Denotes unwraps depth t v := by
  cases t with
  | null =>
    rw [ofTree?, Option.some.injEq]
    constructor
    · rintro rfl
      exact .null depth
    · rintro ⟨⟩
      rfl
  | bool b =>
    rw [ofTree?, Option.some.injEq]
    constructor
    · rintro rfl
      exact .bool depth b
    · rintro ⟨⟩
      rfl
  | number text =>
    rw [ofTree?, ofNumber?_eq_some_iff]
    constructor
    · exact .number depth
    · rintro ⟨⟩
      assumption
  | string inside =>
    rw [ofTree?, Option.map_eq_some_iff]
    simp only [StringText.decode?_eq_some_iff]
    constructor
    · rintro ⟨l, hl, rfl⟩
      exact .string depth (by rwa [String.toList_ofList])
    · rintro ⟨⟩
      rename_i s hs
      exact ⟨_, hs, by rw [String.ofList_toList]⟩
  | array source items => exact absurd rfl (ha source items)
  | object source members => exact absurd rfl (ho source members)

section Objects

variable {source : List Char} {members : List (List Char × Tree)}

/-- An object that is not read as one that wraps a text stands for its members. -/
theorem ofTree?_object_of_plain (hno : (unwrap?.filter fun _ => isWrapper members) = none)
    (hw : unwraps = true → ¬ (Tree.object source members).IsWrapper)
    (ih : ∀ m ∈ members, ∀ v, ofTree? unwrap? depth m.2 = some v ↔ Denotes unwraps depth m.2 v) :
    ofTree? unwrap? (depth + 1) (.object source members) = some v ↔
      Denotes unwraps (depth + 1) (.object source members) v := by
  simp only [ofTree?, hno, Option.map_eq_some_iff, ofMembers?_eq_some_iff ih]
  constructor
  · rintro ⟨values, h, rfl⟩
    exact .object source hw h
  · intro h
    cases h with
    | object _ _ h => exact ⟨_, h, rfl⟩
    | wrapper hu hwraps => exact absurd hwraps.isWrapper (hw hu)

/-- An object that wraps a text stands for what the text stands for. -/
theorem ofTree?_object_of_isWrapper {value? : String → Option Value}
    (h : Unwraps (.object source members) true (some value?))
    (hw : (Tree.object source members).IsWrapper) :
    ofTree? (some value?) (depth + 1) (.object source members) = some v ↔
      Denotes true (depth + 1) (.object source members) v := by
  cases h with
  | always hread =>
    have hfilter : ((some value?).filter fun _ => isWrapper members) = some value? := by
      simp [Tree.isWrapper_iff.mpr hw]
    simp only [ofTree?, hfilter, Option.bind_eq_some_iff, Tree.wrapped?_eq_some_iff hw]
    constructor
    · rintro ⟨s, hs, hv⟩
      obtain ⟨t', ht', hv⟩ := (hread s v (.wraps hs)).mp hv
      exact .wrapper rfl hs ht' hv
    · intro h
      cases h with
      | object _ hplain _ => exact absurd hw (hplain rfl)
      | wrapper _ hs ht' hv => exact ⟨_, hs, (hread _ v (.wraps hs)).mpr ⟨_, ht', hv⟩⟩

end Objects

/-- A tree is read as the value that it stands for. -/
theorem ofTree?_eq_some_iff {t : Tree} (h : Unwraps t unwraps unwrap?) :
    ofTree? unwrap? depth t = some v ↔ Denotes unwraps depth t v := by
  induction depth generalizing t v with
  | zero =>
    cases t with
    | array source items =>
      rw [ofTree?]
      exact iff_of_false (by simp) (by rintro ⟨⟩)
    | object source members =>
      rw [ofTree?]
      exact iff_of_false (by simp) (by rintro ⟨⟩)
    | _ => exact ofTree?_leaf (by simp) (by simp)
  | succ depth ih =>
    cases t with
    | array source items =>
      have hitems := fun t ht v => ih (v := v) (h.of_holds fun s => .item source (t := t) ht)
      simp only [ofTree?, Option.map_eq_some_iff, ofItems?_eq_some_iff hitems]
      constructor
      · rintro ⟨values, h, rfl⟩
        exact .array source h
      · rintro ⟨⟩
        rename_i values h
        exact ⟨values, h, rfl⟩
    | object source members =>
      have hmembers := fun m hm v => ih (v := v) (h.of_holds fun s => .member source (m := m) hm)
      cases h with
      | never => exact ofTree?_object_of_plain rfl (by simp) hmembers
      | @always value? hread =>
        by_cases hw : (Tree.object source members).IsWrapper
        · exact ofTree?_object_of_isWrapper (.always hread) hw
        · have hplain : isWrapper members = false :=
            Bool.eq_false_iff.mpr fun h => hw (Tree.isWrapper_iff.mp h)
          exact ofTree?_object_of_plain (by simp [hplain]) (fun _ => hw) hmembers
    | _ => exact ofTree?_leaf (by simp) (by simp)

end Trees

/-! ### Texts -/

/-- A text is read as the value that it stands for, if there is fuel for its length. -/
theorem ofText?_eq_some_iff {fuel : Nat} {s : String} (hf : s.length < fuel) {v : Value} :
    ofText? fuel s = some v ↔ ∃ t, Tree.IsText t s ∧ Denotes true maxDepth t v := by
  -- the texts that a text holds are shorter, so there is fuel for them too
  induction fuel generalizing s v with
  | zero => exact absurd hf (Nat.not_lt_zero _)
  | succ fuel ih =>
    rw [ofText?, Option.bind_eq_bind, Option.bind_eq_some_iff]
    refine exists_congr fun t => ?_
    rw [Tree.parse?_eq_some_iff]
    refine and_congr_right fun ht => ofTree?_eq_some_iff (.always fun s' v' hs' => ?_)
    exact ih (by have := hs'.length_lt_of_isText ht; omega)

/-- **A text is read as the value that it stands for**, and a text that stands for none is not
read. -/
theorem parse?_eq_some_iff {s : String} {v : Value} :
    parse? s = some v ↔ ∃ t, Tree.IsText t s ∧ Denotes true maxDepth t v :=
  ofText?_eq_some_iff (Nat.lt_succ_self s.length)

end Value

end AssetAccess.Json
