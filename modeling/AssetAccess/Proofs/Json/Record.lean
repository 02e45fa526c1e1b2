import AssetAccess.Json.Record
import AssetAccess.Proofs.Json.Value
/-!
# What a record holds

`Gives names t found` says which values a tree gives for the fields of a record.  In an object each
field occurs once or never, and all keys can be read, those of other members too; in an array the
fields come in order and the last ones may be missing.  Reading a record finds these values
(`fields?_eq_some_iff`).

The same tree may also be read as a value, in which the last of several members with one name
counts.  What that value shows under the name of a field, or at its place in an array, was carried
by the tree (`exists_carries_of_shows`), and whatever the tree carries for a field is what it gives
for the field (`Gives.getElem?_of_carries`).
-/

namespace AssetAccess.Json

namespace Tree

/-- The tree is a string that stands for the text. -/
def IsString (t : Tree) (s : String) : Prop :=
  ∃ inside, t = .string inside ∧ StringText.Denotes inside s.toList

/-- The tree is a number that is written as the integer. -/
def IsInt64 (t : Tree) (n : Int64) : Prop :=
  ∃ text, t = .number text ∧ NumberText.IsInteger text n.toInt

theorem text?_eq_some_iff {t : Tree} {s : String} : t.text? = some s ↔ t.IsString s := by
  unfold text? IsString
  split
  · rename_i inside
    rw [Option.map_eq_some_iff]
    simp only [StringText.decode?_eq_some_iff, string.injEq, exists_eq_left']
    constructor
    · rintro ⟨l, hl, rfl⟩
      rwa [String.toList_ofList]
    · intro h
      exact ⟨_, h, String.ofList_toList⟩
  · rename_i hno
    exact iff_of_false (by simp) fun ⟨inside, h, _⟩ => hno inside h

theorem int64?_eq_some_iff {t : Tree} {n : Int64} : t.int64? = some n ↔ t.IsInt64 n := by
  unfold int64? IsInt64
  split
  · rw [NumberText.int64?_eq_some_iff]
    simp
  · rename_i hno
    exact iff_of_false (by simp) fun ⟨text, h, _⟩ => hno text h

/-- A tree that is written as an integer of 64 bits stands for it. -/
theorem IsInt64.eq_of_denotes {t : Tree} {n : Int64} {v : Value} {unwraps : Bool} {depth : Nat}
    (h : t.IsInt64 n) (hv : Value.Denotes unwraps depth t v) : v = .integer n.toInt := by
  obtain ⟨text, rfl, hn⟩ := h
  cases hv with
  | number _ hv =>
    cases hv with
    | integer hm _ => rw [hm.unique hn]
    | float hno _ =>
      refine absurd ⟨?_, ?_⟩ (hno _ hn)
      · have := n.le_toInt
        omega
      · have := n.toInt_lt
        omega

theorem IsString.eq_of_denotes {t : Tree} {s : String} {v : Value} {unwraps : Bool} {depth : Nat}
    (h : t.IsString s) (hv : Value.Denotes unwraps depth t v) : v = .string s := by
  obtain ⟨inside, rfl, hs⟩ := h
  cases hv with
  | string _ hs' =>
    rw [← StringText.decode?_eq_some_iff] at hs hs'
    rw [String.toList_inj.mp (Option.some.inj (hs.symm.trans hs'))]

end Tree

namespace Record

variable {members : List (List Char × Tree)} {names : List String} {name : String}

/-- What the members of an object hold under a name that none or one of them has. -/
inductive Occurs (members : List (List Char × Tree)) (name : String) : Option Tree → Prop where
  | never (h : ∀ m ∈ members, ¬ StringText.Denotes m.1 name.toList) : Occurs members name none
  | once {before after : List (List Char × Tree)} {key : List Char} {t : Tree}
      (hm : members = before ++ (key, t) :: after) (hk : StringText.Denotes key name.toList)
      (hbefore : ∀ m ∈ before, ¬ StringText.Denotes m.1 name.toList)
      (hafter : ∀ m ∈ after, ¬ StringText.Denotes m.1 name.toList) :
      Occurs members name (some t)

/-- What a tree gives for the fields of a record with these names. -/
inductive Gives (names : List String) : Tree → List (Option Tree) → Prop where
  | object (source : List Char) {members : List (List Char × Tree)} {found : List (Option Tree)}
      (hk : ∀ m ∈ members, ∃ text, StringText.Denotes m.1 text)
      (h : List.Forall₂ (Occurs members) names found) :
      Gives names (.object source members) found
  | array (source : List Char) {items : List Tree} (h : items.length ≤ names.length) :
      Gives names (.array source items)
        (items.map some ++ List.replicate (names.length - items.length) none)

/-- The value of a field, where `found` was given for it: the default where nothing was. -/
inductive Holds {α : Type} (reads : Tree → α → Prop) (default : α) : Option Tree → α → Prop where
  | missing : Holds reads default none default
  | given {t : Tree} {a : α} (h : reads t a) : Holds reads default (some t) a

theorem elim_eq_some_iff {α : Type} {read : Tree → Option α} {reads : Tree → α → Prop}
    (h : ∀ t a, read t = some a ↔ reads t a) {default a : α} {found : Option Tree} :
    found.elim (some default) read = some a ↔ Holds reads default found a := by
  cases found with
  | none =>
    rw [Option.elim_none, Option.some.injEq]
    constructor
    · rintro rfl
      exact .missing
    · rintro ⟨⟩
      rfl
  | some t =>
    rw [Option.elim_some, h]
    constructor
    · exact .given
    · rintro ⟨⟩
      assumption

/-! ### Objects -/

/-- A member with its key decoded. -/
def keyed (m : List Char × Tree) : String × Tree :=
  (String.ofList ((StringText.decode? m.1).getD []), m.2)

theorem keyed_eq_iff {m : List Char × Tree} (h : ∃ text, StringText.Denotes m.1 text) :
    (keyed m).1 = name ↔ StringText.Denotes m.1 name.toList := by
  obtain ⟨text, h⟩ := h
  rw [← StringText.decode?_eq_some_iff] at h ⊢
  rw [keyed, h, Option.getD_some, Option.some.injEq]
  constructor
  · rintro rfl
    rw [String.toList_ofList]
  · intro ht
    rw [ht, String.ofList_toList]

/-- The keys of an object are decoded all together or not at all. -/
theorem decodeKeys?_eq_some_iff {l : List (String × Tree)} :
    decodeKeys? members = some l ↔
      (∀ m ∈ members, ∃ text, StringText.Denotes m.1 text) ∧ members.map keyed = l := by
  have one {m : List Char × Tree} {d : String × Tree} :
      (do return (String.ofList (← StringText.decode? m.1), m.2)) = some d ↔
        (∃ text, StringText.Denotes m.1 text) ∧ keyed m = d := by
    simp only [← StringText.decode?_eq_some_iff, keyed]
    cases StringText.decode? m.1 <;> simp
  unfold decodeKeys?
  rw [mapM_eq_some_iff]
  simp only [one]
  induction members generalizing l with
  | nil => simp [eq_comm]
  | cons m members ih =>
    rw [List.forall₂_cons_left_iff, List.forall_mem_cons, List.map_cons]
    constructor
    · rintro ⟨d, l', ⟨hm, rfl⟩, h, rfl⟩
      obtain ⟨hall, rfl⟩ := ih.mp h
      exact ⟨⟨hm, hall⟩, rfl⟩
    · rintro ⟨⟨hm, hall⟩, rfl⟩
      exact ⟨_, _, ⟨hm, rfl⟩, ih.mpr ⟨hall, rfl⟩, rfl⟩

theorem only?_eq_some_iff (hk : ∀ m ∈ members, ∃ text, StringText.Denotes m.1 text)
    {found : Option Tree} :
    only? (members.map keyed) name = some found ↔ Occurs members name found := by
  have named {m : List Char × Tree} (hm : m ∈ members) : decide ((keyed m).1 = name) = true ↔
      StringText.Denotes m.1 name.toList := decide_eq_true_iff.trans (keyed_eq_iff (hk m hm))
  have hfilter : (members.map keyed).filter (·.1 = name) =
      (members.filter fun m => (keyed m).1 = name).map keyed := List.filter_map
  unfold only?
  rw [hfilter]
  constructor
  · intro h
    cases hf : members.filter fun m => (keyed m).1 = name with
    | nil =>
      rw [hf] at h
      obtain rfl := Option.some.inj h
      exact .never fun m hm hd => List.filter_eq_nil_iff.mp hf m hm ((named hm).mpr hd)
    | cons m rest =>
      rw [hf] at h
      cases rest with
      | cons m' rest => exact absurd h (by simp)
      | nil =>
        obtain rfl := Option.some.inj h
        obtain ⟨before, after, rfl, hbefore, hm, hafter⟩ := List.filter_eq_cons_iff.mp hf
        refine .once rfl ((named (by simp)).mp hm) (fun x hx hd => ?_) fun x hx hd => ?_
        · exact hbefore x hx ((named (by simp [hx])).mpr hd)
        · exact List.filter_eq_nil_iff.mp hafter x hx ((named (by simp [hx])).mpr hd)
  · intro h
    cases h with
    | never h =>
      rw [List.filter_eq_nil_iff.mpr fun m hm hd => h m hm ((named hm).mp hd)]
      rfl
    | @once before after key t hm hkey hbefore hafter =>
      subst hm
      have hf : (before ++ (key, t) :: after).filter (fun m => (keyed m).1 = name) =
          [(key, t)] := by
        refine List.filter_eq_cons_iff.mpr ⟨before, after, rfl, fun x hx hd => ?_,
          (named (by simp)).mpr hkey, List.filter_eq_nil_iff.mpr fun x hx hd => ?_⟩
        · exact hbefore x hx ((named (by simp [hx])).mp hd)
        · exact hafter x hx ((named (by simp [hx])).mp hd)
      rw [hf]
      rfl

/-! ### Records -/

theorem ofObject?_eq_some_iff {found : List (Option Tree)} :
    ofObject? names members = some found ↔
      (∀ m ∈ members, ∃ text, StringText.Denotes m.1 text) ∧
        List.Forall₂ (Occurs members) names found := by
  simp only [ofObject?, Option.bind_eq_bind, Option.bind_eq_some_iff, decodeKeys?_eq_some_iff]
  constructor
  · rintro ⟨l, ⟨hk, rfl⟩, h⟩
    exact ⟨hk, (mapM_eq_some_iff.mp h).imp fun _ _ => (only?_eq_some_iff hk).mp⟩
  · rintro ⟨hk, h⟩
    exact ⟨_, ⟨hk, rfl⟩, mapM_eq_some_iff.mpr (h.imp fun _ _ => (only?_eq_some_iff hk).mpr)⟩

/-- **The fields of a record** are read as what the tree gives for them. -/
theorem fields?_eq_some_iff {t : Tree} {found : List (Option Tree)} :
    fields? names t = some found ↔ Gives names t found := by
  cases t with
  | object source members =>
    rw [fields?, ofObject?_eq_some_iff]
    constructor
    · rintro ⟨hk, h⟩
      exact .object source hk h
    · rintro ⟨⟩
      exact ⟨by assumption, by assumption⟩
  | array source items =>
    rw [fields?, Option.ite_none_right_eq_some, Option.some.injEq]
    constructor
    · rintro ⟨h, rfl⟩
      exact .array source h
    · rintro ⟨⟩
      exact ⟨by assumption, rfl⟩
  | _ => exact iff_of_false (by simp [fields?]) (by rintro ⟨⟩)

/-- A tree gives one thing for each field. -/
theorem Gives.unique {t : Tree} {found found' : List (Option Tree)} (h : Gives names t found)
    (h' : Gives names t found') : found = found' :=
  Option.some.inj ((fields?_eq_some_iff.mpr h).symm.trans (fields?_eq_some_iff.mpr h'))

/-- What a value gives for its fields is spelled in the text of the value. -/
theorem Gives.exists_spells {t t' : Tree} {found : List (Option Tree)} {l : List Char}
    (h : Gives names t found) (ht : Tree.Spells t l) (ht' : some t' ∈ found) :
    ∃ p, Tree.Spells t' p := by
  cases h with
  | object source hk h =>
    obtain ⟨name, -, hoccurs⟩ := exists_of_mem_forall₂ h ht'
    cases hoccurs with
    | @once before after key t hm =>
      have hmem : (key, t') ∈ before ++ (key, t') :: after := by simp
      rw [← hm] at hmem
      cases ht with
      | emptyObject => exact absurd hmem List.not_mem_nil
      | object _ hspells => exact (hspells.exists_spells hmem).imp fun _ => And.left
  | @array source items h =>
    have hmem : t' ∈ items := by simpa using ht'
    cases ht with
    | emptyArray => exact absurd hmem List.not_mem_nil
    | array _ hspells => exact (hspells.exists_spells hmem).imp fun _ => And.left

/-! ### Values of fields -/

/-- What a tree carries under a name, or at a place if it is an array. -/
def Carries (name : String) (i : Nat) : Tree → Tree → Prop
  | .object _ members, t => ∃ key, (key, t) ∈ members ∧ StringText.Denotes key name.toList
  | .array _ items, t => items[i]? = some t
  | _, _ => False

/-- What a value shows under a name, or at a place if it is an array. -/
def Shows (name : String) (i : Nat) : Value → Value → Prop
  | .object members, w => (name, w) ∈ members
  | .array items, w => items[i]? = some w
  | _, _ => False

/-- All that a tree carries for a field is what it gives for the field. -/
theorem Gives.getElem?_of_carries {t t' : Tree} {found : List (Option Tree)} {i : Nat}
    (h : Gives names t found) (hi : names[i]? = some name) (hc : Carries name i t t') :
    found[i]? = some (some t') := by
  cases h with
  | object source hk h =>
    obtain ⟨key, hm, hkey⟩ := hc
    obtain ⟨o, ho, hoccurs⟩ := exists_of_getElem?_forall₂ h.flip hi
    rw [ho]
    -- the member is the only one with its name
    cases hoccurs with
    | never hno => exact absurd hkey (hno _ hm)
    | once hmembers _ hbefore hafter =>
      rw [hmembers, List.mem_append, List.mem_cons] at hm
      rcases hm with hm | hm | hm
      · exact absurd hkey (hbefore _ hm)
      · rw [(Prod.mk.inj hm).2]
      · exact absurd hkey (hafter _ hm)
  | @array source items h =>
    have hc : items[i]? = some t' := hc
    have hlt : i < items.length := (List.getElem?_eq_some_iff.mp hc).1
    rw [List.getElem?_append_left (by simpa using hlt), List.getElem?_map, hc]
    rfl

/-- The value of a field is read from all that a tree carries for the field. -/
theorem Holds.of_carries {α : Type} {reads : Tree → α → Prop} {default a : α} {o : Option Tree}
    {t t' : Tree} {found : List (Option Tree)} {i : Nat} (h : Holds reads default o a)
    (hg : Gives names t found) (hi : names[i]? = some name) (hf : found[i]? = some o)
    (hc : Carries name i t t') : reads t' a := by
  rw [hg.getElem?_of_carries hi hc] at hf
  obtain rfl := Option.some.inj hf
  cases h with
  | given h => exact h

/-- What a value shows for a field is the value of something that its tree carries for the field,
unless it is the value of a wrapped text. -/
theorem exists_carries_of_shows {unwraps : Bool} {t : Tree} {depth : Nat} {v w : Value}
    (hv : Value.Denotes unwraps depth t v) (hplain : unwraps = true → ¬ t.IsWrapper) {i : Nat}
    (hw : Shows name i v w) :
    ∃ t' depth', Carries name i t t' ∧ Value.Denotes unwraps depth' t' w := by
  cases hv with
  | object _ _ hvalues =>
    obtain ⟨a, b, hl, -⟩ := Value.mem_lastOfEach_iff.mp hw
    obtain ⟨m, hm, hkey, hd⟩ := exists_of_mem_forall₂ hvalues.forall₂
      (show (name, w) ∈ _ by rw [hl]; simp)
    exact ⟨m.2, _, ⟨m.1, hm, hkey⟩, hd⟩
  | wrapper hu hwraps => exact absurd hwraps.isWrapper (hplain hu)
  | array _ hvalues =>
    obtain ⟨t', ht', hd⟩ := exists_of_getElem?_forall₂ hvalues.forall₂ hw
    exact ⟨t', _, ht', hd⟩
  | number _ hn =>
    cases hn <;> exact False.elim hw
  | _ => exact False.elim hw

end Record

end AssetAccess.Json
