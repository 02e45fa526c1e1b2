import AssetAccess.Auth.Token
import AssetAccess.Proofs.Text.Decimal
import AssetAccess.Proofs.Text.Pieces
/-!
# Tokens as they are received

`RawToken` holds the six fields of a token as texts.  A text without slashes in its fields falls
into them in one way (`RawToken.pieces_text`), and `Token.parse` reads them one after the other.

The lifetime may be written with a sign, with leading zeros and with any number of digits; it is
read as the integer that it denotes (`lifetime?_eq_some_iff`).
-/

namespace AssetAccess.Auth

/-- The six fields of a token as texts. -/
structure RawToken where
  tag : String
  accessKeyId : String
  date : String
  lifetime : String
  names : String
  signature : String

namespace RawToken

/-- The fields in the order in which a token has them. -/
def fields (r : RawToken) : List String :=
  [r.tag, r.accessKeyId, r.date, r.lifetime, r.names, r.signature]

/-- The token with these fields. -/
def text (r : RawToken) : String := "/".intercalate r.fields

/-- The first four fields between slashes, as they were received. -/
def scope (r : RawToken) : String := "/".intercalate [r.tag, r.accessKeyId, r.date, r.lifetime]

/-- The header names that the token lists. -/
def listed (r : RawToken) : List String := Text.pieces ';' r.names

/-- The lifetime field is a decimal notation of an allowed number of seconds. -/
def LastsFor (r : RawToken) (n : Int) : Prop :=
  Decimal.Denotes r.lifetime.toList n ∧ 0 ≤ n ∧ n ≤ 3600

theorem toList_slash : "/".toList = ['/'] := by simp

theorem fields_injective {r r' : RawToken} (h : r.fields = r'.fields) : r = r' := by
  cases r
  cases r'
  simpa [fields] using h

/-- Six pieces between slashes are the fields of one token. -/
theorem exists_fields {l : List String} (h : l.length = 6) : ∃ r : RawToken, l = r.fields := by
  match l, h with
  | [a, b, c, d, e, f], _ => exact ⟨⟨a, b, c, d, e, f⟩, rfl⟩

theorem pieces_text {r : RawToken} (h : ∀ f ∈ r.fields, '/' ∉ f.toList) :
    Text.pieces '/' r.text = r.fields :=
  Text.pieces_intercalate toList_slash (by simp [fields]) h

/-- A token that falls into six pieces has no slash in its fields. -/
theorem not_mem_of_length_pieces {r : RawToken} (h : (Text.pieces '/' r.text).length = 6) :
    ∀ f ∈ r.fields, '/' ∉ f.toList := by
  rw [Text.length_pieces] at h
  simp only [text, fields, String.intercalate_cons_cons, String.intercalate_singleton,
    String.toList_append, List.count_append, toList_slash, List.count_singleton_self] at h
  -- the five slashes between the fields leave none for the fields themselves
  intro f hf
  rw [← List.count_eq_zero]
  simp only [fields, List.mem_cons, List.not_mem_nil, or_false] at hf
  rcases hf with rfl | rfl | rfl | rfl | rfl | rfl <;> omega

theorem pieces_eq_fields_iff {r : RawToken} {s : String} :
    Text.pieces '/' s = r.fields ↔ s = r.text ∧ ∀ f ∈ r.fields, '/' ∉ f.toList := by
  rw [Text.pieces_eq_iff toList_slash]
  constructor
  · rintro ⟨-, h, rfl⟩
    exact ⟨rfl, h⟩
  · rintro ⟨rfl, h⟩
    exact ⟨by simp [fields], h, rfl⟩

/-- A scope determines its four fields. -/
theorem scope_inj {r r' : RawToken} (h : ∀ f ∈ r.fields, '/' ∉ f.toList)
    (h' : ∀ f ∈ r'.fields, '/' ∉ f.toList) :
    r.scope = r'.scope ↔ r.fields.take 4 = r'.fields.take 4 := by
  constructor
  · exact Text.intercalate_inj toList_slash (by simp) (by simp)
      (fun p hp => h p (List.mem_of_mem_take (i := 4) hp))
      (fun p hp => h' p (List.mem_of_mem_take (i := 4) hp))
  · intro he
    exact congrArg "/".intercalate he

/-- A token is its scope, its names and its signature between slashes. -/
theorem text_eq (r : RawToken) : r.text = "/".intercalate [r.scope, r.names, r.signature] := by
  simp [text, scope, fields, String.append_assoc]

end RawToken

namespace Token

theorem lifetime?_eq_some_iff {s : String} {n : Int} :
    lifetime? s = some n ↔ Decimal.Denotes s.toList n ∧ 0 ≤ n ∧ n ≤ 3600 := by
  rw [← show maxExpireSeconds = 3600 from rfl]
  simp only [lifetime?, Option.bind_eq_bind, Option.bind_eq_some_iff, Decimal.int?_eq_some_iff,
    Option.ite_none_right_eq_some, Bool.and_eq_true, decide_eq_true_eq, Option.some.injEq]
  constructor
  · rintro ⟨m, hd, hm, rfl⟩
    exact ⟨hd, hm⟩
  · rintro ⟨hd, hn⟩
    exact ⟨n, hd, hn, rfl⟩

theorem lifetime?_eq_none_iff {r : RawToken} :
    lifetime? r.lifetime = none ↔ ∀ n, ¬ r.LastsFor n := by
  rw [Option.eq_none_iff_forall_ne_some]
  exact forall_congr' fun n => not_congr lifetime?_eq_some_iff

/-- A text that does not have six fields is no token. -/
theorem parse_of_length_ne {s : String} (h : (Text.pieces '/' s).length ≠ 6) :
    parse s = .error .malformedToken := by
  unfold parse
  split
  · rename_i hs
    rw [hs] at h
    exact absurd rfl h
  · rfl

section SixFields

variable {s : String} {r : RawToken}

theorem parse_of_tag_ne (h : Text.pieces '/' s = r.fields) (ht : r.tag ≠ version) :
    parse s = .error .unsupportedVersion := by
  rw [parse, h]
  exact if_pos ht

theorem parse_of_not_lastsFor (h : Text.pieces '/' s = r.fields) (ht : r.tag = version)
    (hl : ∀ n, ¬ r.LastsFor n) : parse s = .error .expirationOutOfRange := by
  rw [parse, h]
  simp only [RawToken.fields, ht, ne_eq, not_true_eq_false, if_false,
    lifetime?_eq_none_iff.mpr hl]

theorem parse_of_date_eq_none {n : Int} (h : Text.pieces '/' s = r.fields) (ht : r.tag = version)
    (hl : r.LastsFor n) (hd : SignDate.parse? r.date = none) : parse s = .error .badDateField := by
  rw [parse, h]
  simp only [RawToken.fields, ht, ne_eq, not_true_eq_false, if_false,
    lifetime?_eq_some_iff.mpr hl, hd]

/-- What is read from a token without fault. -/
theorem parse_of_date_eq_some {n : Int} {t : Instant} (h : Text.pieces '/' s = r.fields)
    (ht : r.tag = version) (hl : r.LastsFor n) (hd : SignDate.parse? r.date = some t) :
    parse s = .ok {
      accessKeyId := r.accessKeyId, signDate := t, expireSeconds := n, signature := r.signature
      signedHeaders := r.listed, scope := r.scope } := by
  rw [parse, h]
  simp only [RawToken.fields, ht, ne_eq, not_true_eq_false, if_false,
    lifetime?_eq_some_iff.mpr hl, hd, RawToken.listed, RawToken.scope]

end SixFields

end Token

end AssetAccess.Auth
