import AssetAccess.Http.Token
import AssetAccess.Text.Utf8
/-!
# Header fields

`Fields` maps header names to one or more values.  The values of one name keep the order in which
they arrived; the order of different names carries no meaning.
-/

namespace AssetAccess.Http

/-- A byte that a header value may hold: a tab, or anything but a control character. -/
def isFieldByte (b : UInt8) : Bool := (0x20 ≤ b && b != 0x7F) || b == 0x09

/-- A byte that is ASCII text: printable, or a tab. -/
def isVisible (b : UInt8) : Bool := (0x20 ≤ b && b ≤ 0x7E) || b == 0x09

/-- The value of a header. -/
structure FieldValue where
  bytes : List UInt8
  all_isFieldByte : bytes.all isFieldByte = true
deriving DecidableEq

namespace FieldValue

/-- The value made of these bytes, if they hold no control character. -/
def ofBytes? (l : List UInt8) : Option FieldValue :=
  if h : l.all isFieldByte = true then some ⟨l, h⟩ else none

/-- The value with the UTF-8 bytes of a text. -/
def ofString? (s : String) : Option FieldValue := ofBytes? (Text.utf8 s)

/-- The value as ASCII text, if it is that. -/
def text? (v : FieldValue) : Option String :=
  if v.bytes.all isVisible then some (String.ofList (v.bytes.map fun b => Char.ofNat b.toNat))
  else none

/-- A space or a tab. -/
def isBlank (b : UInt8) : Bool := b == 0x20 || b == 0x09

/-- The value without the spaces and tabs at either end. -/
def trimmed (v : FieldValue) : FieldValue where
  bytes := ((v.bytes.dropWhile isBlank).reverse.dropWhile isBlank).reverse
  all_isFieldByte := by
    have h := v.all_isFieldByte
    rw [List.all_eq_true] at h ⊢
    intro b hb
    have hr := (List.dropWhile_sublist _).subset (List.mem_reverse.1 hb)
    exact h b ((List.dropWhile_sublist _).subset (List.mem_reverse.1 hr))

end FieldValue

/-- The header fields of a message, in order of arrival. -/
structure Fields where
  entries : List (FieldName × FieldValue)
deriving DecidableEq

namespace Fields

/-- No header at all. -/
def empty : Fields := ⟨[]⟩

instance : EmptyCollection Fields := ⟨empty⟩

/-- The values of a name, oldest first. -/
def values (f : Fields) (n : FieldName) : List FieldValue :=
  (f.entries.filter (·.1 = n)).map (·.2)

/-- The oldest value of a name. -/
def first? (f : Fields) (n : FieldName) : Option FieldValue := (f.values n).head?

/-- Whether a name has a value. -/
def has (f : Fields) (n : FieldName) : Bool := f.entries.any (·.1 = n)

/-- The names that have a value, each once. -/
def names (f : Fields) : List FieldName := (f.entries.map (·.1)).eraseDups

/-- Adds a value after those that the name has. -/
def append (f : Fields) (n : FieldName) (v : FieldValue) : Fields := ⟨f.entries ++ [(n, v)]⟩

/-- Drops every value of a name. -/
def erase (f : Fields) (n : FieldName) : Fields := ⟨f.entries.filter (·.1 ≠ n)⟩

/-- Makes `v` the only value of a name. -/
def set (f : Fields) (n : FieldName) (v : FieldValue) : Fields := (f.erase n).append n v

@[simp] theorem values_append (f : Fields) (n m : FieldName) (v : FieldValue) :
    (f.append n v).values m = if n = m then f.values m ++ [v] else f.values m := by
  by_cases h : n = m <;> simp [append, values, h]

@[simp] theorem values_erase (f : Fields) (n m : FieldName) :
    (f.erase n).values m = if n = m then [] else f.values m := by
  by_cases h : n = m
  · subst h
    simp [erase, values, List.filter_filter]
  · -- an entry of `m` is none of `n`, so the first filter lets it through
    have : ∀ e : FieldName × FieldValue, e.1 = m → e.1 ≠ n := fun e he hn => h (hn ▸ he)
    simp only [erase, values, List.filter_filter, h, if_false]
    congr 1
    apply List.filter_congr
    intro e _
    by_cases he : e.1 = m
    · simp [he, Ne.symm h]
    · simp [he]

@[simp] theorem values_set (f : Fields) (n m : FieldName) (v : FieldValue) :
    (f.set n v).values m = if n = m then [v] else f.values m := by
  by_cases h : n = m <;> simp [set, h]

theorem has_iff {f : Fields} {n : FieldName} : f.has n = true ↔ f.values n ≠ [] := by
  simp [has, values]

/-- The fields sorted by name; the values of one name keep their order. -/
def sorted (f : Fields) : List (FieldName × FieldValue) :=
  f.entries.mergeSort fun a b => decide (a.1.text ≤ b.1.text)

end Fields

end AssetAccess.Http
