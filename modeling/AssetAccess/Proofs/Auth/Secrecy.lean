import AssetAccess.Auth.Verifier
import AssetAccess.Proofs.Auth.Credentials
import AssetAccess.Proofs.Digest.Hmac
import AssetAccess.Proofs.Http.Fields
import AssetAccess.Proofs.RunAlike
import AssetAccess.Proofs.Text.Pieces
import Mathlib.Data.List.Forall2
/-!
# Two secrets

What two signers do that differ in their secret alone.  They run alike (`runAlike_signWith`), and
their tokens end in two signatures behind the same front (`EndAlike`).  A signature holds no slash
and no blank, so the tokens differ in their last field only (`EndAlike.tokensEqualButLast`), and one
of them can be stored in a header exactly when the other can (`EndAlike.ofString?`).

Two verifiers run alike on every token that is right for both secrets or for neither
(`runAlike_verify`).
-/

namespace AssetAccess.Auth

open AssetAccess.Action

/-- The same account with another secret. -/
def Credentials.withSecret (c : Credentials) (secret : String) : Credentials :=
  { c with secretAccessKey := secret }

/-- Two tokens that differ in their last field at most. -/
structure TokensEqualButLast (t t' : String) : Prop where
  firstFive : (Text.pieces '/' t).take 5 = (Text.pieces '/' t').take 5
  butLast : (Text.pieces '/' t).dropLast = (Text.pieces '/' t').dropLast

/-- A text of the form that signatures have. -/
def IsSignature (σ : String) : Prop :=
  σ.toList ≠ [] ∧ ∀ c ∈ σ.toList, Hmac.isSmallHexDigit c = true

/-- Two header values end in signatures behind the same bytes and a slash. -/
def ValuesEndAlike (v v' : Http.FieldValue) : Prop :=
  ∃ front σ σ', IsSignature σ ∧ IsSignature σ' ∧
    v.bytes = front ++ 0x2F :: Text.utf8 σ ∧ v'.bytes = front ++ 0x2F :: Text.utf8 σ'

/-- Two headers of one name with the same value, or with tokens that differ in the signature. -/
def EntriesAlike (e e' : Http.FieldName × Http.FieldValue) : Prop :=
  e.1 = e'.1 ∧ (e.2 = e'.2 ∨ (e.1 = .authorization ∧ ValuesEndAlike e.2 e'.2))

/-- Two requests that differ in the signatures of their tokens at most. -/
structure RequestsAlike (a b : Http.Request) : Prop where
  method : a.method = b.method
  target : a.target = b.target
  body : a.body = b.body
  fields : List.Forall₂ EntriesAlike a.fields.entries b.fields.entries

/-! ### Texts that end in a signature -/

theorem isSignature_hex (key message : String) : IsSignature (Hmac.hex key message) := by
  refine ⟨?_, fun c => Hmac.isSmallHexDigit_of_mem_hex⟩
  intro h
  have hlen := Hmac.length_hex key message
  rw [← String.length_toList, h] at hlen
  exact absurd hlen (by decide)

theorem IsSignature.slash_not_mem {σ : String} (h : IsSignature σ) : '/' ∉ σ.toList := fun hc =>
  absurd (h.2 _ hc) (by decide)

/-- The bytes of a signature are visible, and none of them is a blank. -/
theorem IsSignature.forall_utf8 {σ : String} (h : IsSignature σ) :
    ∀ b ∈ Text.utf8 σ, Http.isFieldByte b = true ∧ Http.FieldValue.isBlank b = false := by
  have all : ∀ n < 16, (String.utf8EncodeChar (Hex.digit n)).Forall fun b =>
      Http.isFieldByte b = true ∧ Http.FieldValue.isBlank b = false := by decide
  intro b hb
  obtain ⟨c, hc, hbc⟩ := List.mem_flatMap.mp hb
  obtain ⟨n, hn, -, rfl⟩ := Hmac.exists_value?_of_isSmallHexDigit (h.2 c hc)
  exact List.forall_iff_forall_mem.mp (all n hn) b hbc

theorem IsSignature.utf8_ne_nil {σ : String} (h : IsSignature σ) : Text.utf8 σ ≠ [] := by
  obtain ⟨c, l, hl⟩ := List.exists_cons_of_ne_nil h.1
  rw [Text.utf8, hl, List.flatMap_cons]
  exact List.append_ne_nil_of_left_ne_nil String.utf8EncodeChar_ne_nil _

/-- Two texts end in signatures behind the same front, which holds four slashes or more. -/
def EndAlike (t t' : String) : Prop :=
  ∃ front σ σ', IsSignature σ ∧ IsSignature σ' ∧ 5 ≤ (Text.pieces '/' front).length ∧
    t = front ++ "/" ++ σ ∧ t' = front ++ "/" ++ σ'

/-- A signature is one more piece behind those of the front. -/
theorem pieces_append_signature (front : String) {σ : String} (h : IsSignature σ) :
    Text.pieces '/' (front ++ "/" ++ σ) = Text.pieces '/' front ++ [σ] := by
  have hpieces := Text.pieces_append_intercalate (show "/".toList = ['/'] by simp) front
    (List.cons_ne_nil σ []) (List.forall_mem_singleton.mpr h.slash_not_mem)
  rwa [String.intercalate_singleton] at hpieces

theorem EndAlike.tokensEqualButLast {t t' : String} (h : EndAlike t t') :
    TokensEqualButLast t t' := by
  obtain ⟨front, σ, σ', hσ, hσ', hlen, rfl, rfl⟩ := h
  constructor
  · rw [pieces_append_signature front hσ, pieces_append_signature front hσ',
      List.take_append_of_le_length hlen, List.take_append_of_le_length hlen]
  · rw [pieces_append_signature front hσ, pieces_append_signature front hσ',
      List.dropLast_concat, List.dropLast_concat]

/-! ### Values that end in a signature -/

theorem utf8_append_signature (front σ : String) :
    Text.utf8 (front ++ "/" ++ σ) = Text.utf8 front ++ 0x2F :: Text.utf8 σ := by
  rw [Text.utf8_append, Text.utf8_append, show Text.utf8 "/" = [0x2F] by decide,
    List.append_assoc, List.singleton_append]

/-- Whether a text that ends in a signature can stand in a header is up to its front. -/
theorem all_isFieldByte_append (front : List UInt8) {σ : String} (h : IsSignature σ) :
    (front ++ 0x2F :: Text.utf8 σ).all Http.isFieldByte = front.all Http.isFieldByte := by
  have hσ : (Text.utf8 σ).all Http.isFieldByte = true :=
    List.all_eq_true.mpr fun b hb => (h.forall_utf8 b hb).1
  rw [List.all_append, List.all_cons, hσ]
  exact Bool.and_true _

/-- Of two texts that end alike, both can stand in a header, as values that end alike, or neither
can. -/
theorem EndAlike.ofString? {t t' : String} (h : EndAlike t t') :
    (Http.FieldValue.ofString? t = none ∧ Http.FieldValue.ofString? t' = none) ∨
      ∃ v v', Http.FieldValue.ofString? t = some v ∧ Http.FieldValue.ofString? t' = some v' ∧
        ValuesEndAlike v v' := by
  obtain ⟨front, σ, σ', hσ, hσ', -, rfl, rfl⟩ := h
  have hall := all_isFieldByte_append (Text.utf8 front) hσ
  have hall' := all_isFieldByte_append (Text.utf8 front) hσ'
  simp only [Http.FieldValue.ofString?, Http.FieldValue.ofBytes?, utf8_append_signature]
  by_cases hf : (Text.utf8 front).all Http.isFieldByte = true
  · right
    rw [hf] at hall hall'
    exact ⟨_, _, dif_pos hall, dif_pos hall', _, _, _, hσ, hσ', rfl, rfl⟩
  · left
    rw [Bool.not_eq_true] at hf
    rw [dif_neg (by simp [hall, hf]), dif_neg (by simp [hall', hf])]
    exact ⟨rfl, rfl⟩

/-- Trimming takes blanks from the front of a value only, since a signature has none. -/
theorem trimmed_bytes {v : Http.FieldValue} {front : List UInt8} {σ : String} (h : IsSignature σ)
    (hv : v.bytes = front ++ 0x2F :: Text.utf8 σ) :
    v.trimmed.bytes = front.dropWhile Http.FieldValue.isBlank ++ 0x2F :: Text.utf8 σ := by
  have hstart : (front ++ 0x2F :: Text.utf8 σ).dropWhile Http.FieldValue.isBlank =
      front.dropWhile Http.FieldValue.isBlank ++ 0x2F :: Text.utf8 σ := by
    rw [List.dropWhile_append, List.dropWhile_cons_of_neg (by decide)]
    split
    · rename_i hf
      rw [List.isEmpty_iff.mp hf, List.nil_append]
    · rfl
  -- the last byte is one of the signature's
  obtain ⟨l, b, hl⟩ : ∃ l b, Text.utf8 σ = l ++ [b] :=
    ⟨_, _, (List.dropLast_append_getLast h.utf8_ne_nil).symm⟩
  have hb : Http.FieldValue.isBlank b = false := (h.forall_utf8 b (by simp [hl])).2
  have hend (m : List UInt8) : ((m ++ 0x2F :: Text.utf8 σ).reverse.dropWhile
      Http.FieldValue.isBlank).reverse = m ++ 0x2F :: Text.utf8 σ := by
    rw [hl, ← List.cons_append, ← List.append_assoc, List.reverse_concat,
      List.dropWhile_cons_of_neg (by simp [hb]), List.reverse_cons, List.reverse_reverse]
  change ((v.bytes.dropWhile Http.FieldValue.isBlank).reverse.dropWhile _).reverse = _
  rw [hv, hstart, hend]

theorem ValuesEndAlike.trimmed {v v' : Http.FieldValue} (h : ValuesEndAlike v v') :
    ValuesEndAlike v.trimmed v'.trimmed := by
  obtain ⟨front, σ, σ', hσ, hσ', hv, hv'⟩ := h
  exact ⟨_, σ, σ', hσ, hσ', trimmed_bytes hσ hv, trimmed_bytes hσ' hv'⟩

/-! ### Signing -/

variable {account : Credentials} {secret secret' : String}

@[simp] theorem secretAccessKey_withSecret (account : Credentials) (secret : String) :
    (account.withSecret secret).secretAccessKey = secret := rfl

/-- No empty secret is told from another, so credentials pass and fail alike. -/
theorem validate_withSecret (account : Credentials) (hs : secret ≠ "") (hs' : secret' ≠ "") :
    (account.withSecret secret).validate = (account.withSecret secret').validate := by
  simp only [Credentials.validate, Credentials.withSecret, String.isEmpty_iff, hs, hs', if_false]

theorem endAlike_token (account : Credentials) (secret secret' date : String) (lifetime : Int)
    (canonical : CanonicalRequest) :
    let scope := scopeText account.accessKeyId date lifetime
    EndAlike
      ("/".intercalate [scope, canonical.signedNamesText, signature secret scope canonical])
      ("/".intercalate [scope, canonical.signedNamesText, signature secret' scope canonical]) := by
  intro scope
  have htext (σ : String) : "/".intercalate [scope, canonical.signedNamesText, σ] =
      scope ++ "/" ++ canonical.signedNamesText ++ "/" ++ σ := by
    rw [String.intercalate_cons_cons, String.intercalate_cons_cons, String.intercalate_singleton]
    simp only [String.append_assoc]
  refine ⟨scope ++ "/" ++ canonical.signedNamesText, _, _, isSignature_hex _ _,
    isSignature_hex _ _, ?_, htext _, htext _⟩
  -- three slashes in the scope and one behind it
  rw [Text.length_pieces]
  simp only [scope, scopeText, String.intercalate_cons_cons, String.intercalate_singleton,
    String.toList_append, List.count_append, show "/".toList.count '/' = 1 by decide]
  omega

/-- Signers that differ in the secret run alike, and their tokens differ in the signature. -/
theorem runAlike_signWith (account : Credentials) (hs : secret ≠ "") (hs' : secret' ≠ "")
    (o options : SignOptions) (request : Http.Request) :
    RunAlike EndAlike ((Signer.mk (account.withSecret secret) o).signWith options request)
      ((Signer.mk (account.withSecret secret') o).signWith options request) := by
  unfold Signer.signWith
  dsimp only
  rw [validate_withSecret account hs hs']
  refine RunAlike.bind_left _ fun _ => ?_
  split
  · exact .throw_bind _
  refine RunAlike.bind_left _ fun second => ?_
  cases Instant.of? second 0 with
  | none => exact .throw _
  | some t =>
    refine RunAlike.bind_left _ fun _ => ?_
    exact .pure (endAlike_token ..)

/-- Authorizing under two secrets gives requests that differ in the signature. -/
theorem runAlike_authorize (account : Credentials) (hs : secret ≠ "") (hs' : secret' ≠ "")
    (options : SignOptions) (request : Http.Request) :
    RunAlike RequestsAlike ((Signer.mk (account.withSecret secret) options).authorize request)
      ((Signer.mk (account.withSecret secret') options).authorize request) := by
  unfold Signer.authorize Signer.sign
  refine (runAlike_signWith account hs hs' options options request).bind fun t t' h => ?_
  rcases h.ofString? with ⟨hv, hv'⟩ | ⟨v, v', hv, hv', h⟩
  · rw [hv, hv']
    exact .throw _
  · rw [hv, hv']
    refine .pure ⟨rfl, rfl, rfl, ?_⟩
    -- the other headers are the same ones
    refine List.rel_append ?_ (.cons ⟨rfl, Or.inr ⟨rfl, h⟩⟩ .nil)
    exact List.forall₂_same.mpr fun e _ => ⟨rfl, Or.inl rfl⟩

/-! ### Verifying -/

/-- The two secrets agree on whether the token of a request bears the right signature. -/
def SignedAlikeUnder (secret secret' : String) (request : Http.Request) : Prop :=
  ∀ text token, Verifier.tokenText request = .ok text → Token.parse text = .ok token →
    Verifier.isSignedBy token request secret = Verifier.isSignedBy token request secret'

/-- What a verifier answers and reports depends on the secret through the signature alone. -/
theorem runAlike_verify (account : Credentials) (hs : secret ≠ "") (hs' : secret' ≠ "")
    (request : Http.Request) (h : SignedAlikeUnder secret secret' request) :
    RunAlike Eq ((Verifier.mk (account.withSecret secret)).verify request)
      ((Verifier.mk (account.withSecret secret')).verify request) := by
  unfold Verifier.verify
  refine RunAlike.tryCatch ?_ fun e => .refl _
  unfold Verifier.check
  dsimp only
  rw [validate_withSecret account hs hs']
  refine RunAlike.bind_left _ fun _ => ?_
  refine RunAlike.ofExcept_bind fun text htext => ?_
  refine RunAlike.ofExcept_bind fun token htoken => ?_
  -- what is left depends on the secret in the comparison of the signatures only
  rw [secretAccessKey_withSecret, secretAccessKey_withSecret, h text token htext htoken]
  exact .refl _

end AssetAccess.Auth
