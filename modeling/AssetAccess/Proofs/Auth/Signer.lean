import AssetAccess.Auth.Signer
import AssetAccess.Proofs.Action
import AssetAccess.Proofs.Auth.CanonicalRequest
import AssetAccess.Proofs.Auth.Credentials
import AssetAccess.Proofs.Auth.Token
import AssetAccess.Proofs.Digest.Hmac
import AssetAccess.Proofs.Http.Fields
import AssetAccess.Proofs.Time.SignDate
/-!
# What a signer stores

A request is authorized exactly when both keys are there, it carries a host, the date has an instant
and the token, `Signer.issued`, can stand in a header (`result_authorize_eq_ok_iff`).

A signer does not ask whether a verifier could read what it writes.  All fields but the key id are
made of visible characters other than the slash, so the key id alone decides whether the token falls
into its six fields again (`visible_and_not_mem_iff`).
-/

namespace AssetAccess.Auth

open AssetAccess.Action

namespace Signer

variable {s : Signer} {request : Http.Request} {clock : Clock} {t : Instant}

/-- The Unix second of the sign date: the one that the options fix, or the next reading. -/
def dateSecond (s : Signer) (clock : Clock) : Int :=
  if s.options.timestamp ≠ 0 then s.options.timestamp else clock.unixSecond

/-- The token that a signer makes for a request at an instant. -/
def issued (s : Signer) (request : Http.Request) (t : Instant) : RawToken where
  tag := version
  accessKeyId := s.credentials.accessKeyId
  date := SignDate.format t
  lifetime := Decimal.ofInt s.options.effectiveExpireSeconds
  names := (CanonicalRequest.of request s.options.effectiveHeaders).signedNamesText
  signature := signature s.credentials.secretAccessKey
    (scopeText s.credentials.accessKeyId (SignDate.format t) s.options.effectiveExpireSeconds)
    (CanonicalRequest.of request s.options.effectiveHeaders)

/-! ### Signing and storing -/

theorem runFrom_signSecond (s : Signer) (clock : Clock) (events : List LogEvent) :
    ∃ clock', runFrom (signSecond s.options) { clock, events } =
      (.ok (s.dateSecond clock), { clock := clock', events }) := by
  unfold signSecond dateSecond
  split
  · exact ⟨clock, runFrom_pure _ _⟩
  · exact ⟨clock.next, runFrom_unixSecond _⟩

theorem text_issued (s : Signer) (request : Http.Request) (t : Instant) :
    (s.issued request t).text =
      let canonical := CanonicalRequest.of request s.options.effectiveHeaders
      let scope := scopeText s.credentials.accessKeyId (SignDate.format t)
        s.options.effectiveExpireSeconds
      "/".intercalate [scope, canonical.signedNamesText,
        signature s.credentials.secretAccessKey scope canonical] :=
  RawToken.text_eq _

theorem result_sign_eq_ok_iff {token : String} :
    (s.sign request).result clock = .ok token ↔
      s.credentials.Complete ∧ request.fields.has .host = true ∧
        ∃ t, Instant.of? (s.dateSecond clock) 0 = some t ∧ token = (s.issued request t).text := by
  rw [← Credentials.validate_eq_ok_iff (u := ()), result_eq]
  simp only [sign, signWith, runFrom_bind, runFrom_ofExcept]
  rcases s.credentials.validate with e | u
  · simp
  · cases request.fields.has .host
    · simp [runFrom_throw]
    · -- the clock is read at most once, and nothing after that depends on it
      obtain ⟨clock', hs⟩ := runFrom_signSecond s clock []
      simp only [runFrom_bind, hs, Bool.not_true, Bool.false_eq_true, if_false, true_and]
      cases Instant.of? (s.dateSecond clock) 0 with
      | none => simp [runFrom_throw]
      | some t =>
        simp only [runFrom_bind, runFrom_report, runFrom_pure, Except.ok.injEq, Option.some.injEq,
          exists_eq_left', text_issued, eq_comm]

/-- A request is authorized by storing the issued token, and fails only where the credentials, the
host or the date are missing or the token cannot stand in a header. -/
theorem result_authorize_eq_ok_iff {signed : Http.Request} :
    (s.authorize request).result clock = .ok signed ↔
      s.credentials.Complete ∧ request.fields.has .host = true ∧
        ∃ t, Instant.of? (s.dateSecond clock) 0 = some t ∧
          ∃ value, Http.FieldValue.ofString? (s.issued request t).text = some value ∧
            signed = { request with fields := request.fields.set .authorization value } := by
  have hsign := @result_sign_eq_ok_iff s request clock
  rw [result_eq] at hsign ⊢
  rw [authorize, runFrom_bind]
  rcases hr : runFrom (s.sign request) { clock } with ⟨e | token, surroundings⟩
  · -- without a token there is no instant that one could have been issued at
    simp only [hr, reduceCtorEq, false_iff] at hsign ⊢
    rintro ⟨hc, hh, t, ht, -⟩
    exact hsign ⟨hc, hh, t, ht, rfl⟩
  · simp only [hr, Except.ok.injEq] at hsign ⊢
    obtain ⟨hc, hh, t, ht, rfl⟩ := hsign.mp rfl
    simp only [hc, hh, ht, true_and, Option.some.injEq, exists_eq_left']
    cases Http.FieldValue.ofString? (s.issued request t).text with
    | none => simp [runFrom_throw]
    | some value => simp [runFrom_pure, eq_comm]

/-! ### The fields of an issued token -/

/-- A visible character other than the slash. -/
def isPlainChar (c : Char) : Bool := 32 ≤ c.toNat && c.toNat < 127 && c != '/'

/-- A text of visible characters other than the slash. -/
def IsPlain (s : String) : Prop := ∀ c ∈ s.toList, isPlainChar c = true

theorem isPlainChar_iff {c : Char} :
    isPlainChar c = true ↔ (32 ≤ c.toNat ∧ c.toNat < 127) ∧ c ≠ '/' := by
  simp [isPlainChar]

theorem IsPlain.visible {s : String} (h : IsPlain s) : Http.Visible s :=
  Http.visible_of_forall_mem fun c hc => (isPlainChar_iff.mp (h c hc)).1

theorem IsPlain.not_mem {s : String} (h : IsPlain s) : '/' ∉ s.toList := fun hc =>
  (isPlainChar_iff.mp (h _ hc)).2 rfl

theorem isPlainChar_of_isDigit {c : Char} (h : Decimal.isDigit c = true) :
    isPlainChar c = true := by
  have hc := Decimal.toNat_of_isDigit h
  refine isPlainChar_iff.mpr ⟨by omega, ?_⟩
  rintro rfl
  exact absurd h (by decide)

theorem isPlain_version : IsPlain version := by
  have all : version.toList.all isPlainChar = true := by decide +kernel
  exact List.all_eq_true.mp all

theorem isPlain_format (t : Instant) : IsPlain (SignDate.format t) := by
  intro c hc
  rcases SignDate.mem_format hc with h | h
  · exact isPlainChar_of_isDigit h
  · have all : List.all ['-', '+', 'T', ':', 'Z'] isPlainChar = true := by decide
    exact List.all_eq_true.mp all c h

theorem isPlain_ofInt (n : Int) : IsPlain (Decimal.ofInt n) := by
  intro c hc
  rcases Decimal.mem_ofInt hc with rfl | h
  · decide
  · exact isPlainChar_of_isDigit h

theorem isPlain_fieldName (n : Http.FieldName) : IsPlain n.text := by
  intro c hc
  have ht := n.mem_text hc
  refine isPlainChar_iff.mpr ⟨Http.toNat_of_isTokenChar ht, ?_⟩
  rintro rfl
  exact absurd ht (by decide)

theorem isPlain_signedNamesText (request : Http.Request) (names : NameSet) :
    IsPlain (CanonicalRequest.of request names).signedNamesText := by
  intro c hc
  rcases Text.mem_toList_intercalate hc with h | ⟨p, hp, h⟩
  · obtain rfl : c = ';' := by simpa using h
    decide
  · obtain ⟨n, _, rfl⟩ := Coverage.mem_signedNames.mp hp
    exact isPlain_fieldName n c h

theorem isPlain_hex (key message : String) : IsPlain (Hmac.hex key message) := by
  intro c hc
  have hs := Hmac.isSmallHexDigit_of_mem_hex hc
  obtain ⟨n, hn, -, rfl⟩ := Hmac.exists_value?_of_isSmallHexDigit hs
  have all : ∀ m < 16, isPlainChar (Hex.digit m) = true := by decide
  exact all n hn

/-- Only the key id of an issued token can hold a slash or an invisible byte. -/
theorem eq_or_isPlain_of_mem_fields {f : String} (h : f ∈ (s.issued request t).fields) :
    f = s.credentials.accessKeyId ∨ IsPlain f := by
  simp only [RawToken.fields, issued, List.mem_cons, List.not_mem_nil, or_false] at h
  rcases h with rfl | rfl | rfl | rfl | rfl | rfl
  · exact Or.inr isPlain_version
  · exact Or.inl rfl
  · exact Or.inr (isPlain_format t)
  · exact Or.inr (isPlain_ofInt _)
  · exact Or.inr (isPlain_signedNamesText _ _)
  · exact Or.inr (isPlain_hex _ _)

/-- Whether an issued token falls into its fields again is up to the key id alone. -/
theorem visible_and_not_mem_iff :
    (Http.Visible (s.issued request t).text ∧ ∀ f ∈ (s.issued request t).fields, '/' ∉ f.toList) ↔
      s.credentials.Readable := by
  have hid : s.credentials.accessKeyId ∈ (s.issued request t).fields := by
    simp [RawToken.fields, issued]
  have hslash : Http.Visible "/" := by
    refine Http.visible_of_forall_mem fun c hc => ?_
    obtain rfl : c = '/' := by simpa using hc
    decide
  rw [RawToken.text, Http.visible_intercalate hslash]
  constructor
  · rintro ⟨hvis, hsep⟩
    exact ⟨hvis _ hid, hsep _ hid⟩
  · rintro ⟨hvis, hsep⟩
    refine ⟨fun f hf => ?_, fun f hf => ?_⟩
    · rcases eq_or_isPlain_of_mem_fields hf with rfl | h
      · exact hvis
      · exact h.visible
    · rcases eq_or_isPlain_of_mem_fields hf with rfl | h
      · exact hsep
      · exact h.not_mem

/-- Whether an issued token can be stored in a header is up to the key id alone. -/
theorem exists_ofString?_issued_iff :
    (∃ value, Http.FieldValue.ofString? (s.issued request t).text = some value) ↔
      ∀ b ∈ Text.utf8 s.credentials.accessKeyId, Http.isFieldByte b = true := by
  have hslash : ∀ b ∈ Text.utf8 "/", Http.isFieldByte b = true :=
    List.all_eq_true.mp (by decide)
  rw [Http.FieldValue.exists_ofString?_iff, RawToken.text, Text.forall_utf8_intercalate hslash]
  constructor
  · intro h
    exact h _ (by simp [RawToken.fields, issued])
  · intro h f hf
    rcases eq_or_isPlain_of_mem_fields hf with rfl | hplain
    · exact h
    · intro b hb
      exact Http.isFieldByte_of_isVisible (hplain.visible b hb)

/-- With a readable key id and a date that has an instant, every request with a host can be
authorized. -/
theorem exists_result_authorize (s : Signer) (request : Http.Request) (clock : Clock)
    (hc : s.credentials.Complete) (hr : s.credentials.Readable)
    (hh : request.fields.has .host = true) (ht : Instant.of? (s.dateSecond clock) 0 = some t) :
    ∃ signed, (s.authorize request).result clock = .ok signed := by
  have hvis : Http.Visible (s.issued request t).text := (visible_and_not_mem_iff.mpr hr).1
  obtain ⟨value, hv⟩ := Http.FieldValue.exists_ofString?_of_visible hvis
  exact ⟨_, result_authorize_eq_ok_iff.mpr ⟨hc, hh, t, ht, value, hv, rfl⟩⟩

/-- A token lists the names of the headers that it covers. -/
theorem listed_issued (hh : request.fields.has .host = true) :
    (s.issued request t).listed =
      Coverage.signedNames request.fields s.options.effectiveHeaders := by
  refine Text.pieces_intercalate (by simp) ?_ fun p hp => ?_
  · exact List.ne_nil_of_mem
      (Coverage.mem_signedNames.mpr ⟨_, Coverage.mem_coveredNames_of_has hh, rfl⟩)
  · obtain ⟨n, _, rfl⟩ := Coverage.mem_signedNames.mp hp
    exact Http.not_mem_of_isToken n.isToken_text (by decide)

/-- The date of an issued token is read as the instant that it was issued at. -/
theorem parse?_date_issued (s : Signer) (request : Http.Request) {second : Int}
    (ht : Instant.of? second 0 = some t) :
    SignDate.parse? (s.issued request t).date = some t := by
  have hnano := (Instant.of?_eq_some_iff.mp ht).2
  have hread : SignDate.parse? (s.issued request t).date = some t.truncated :=
    SignDate.parse?_format t
  rwa [Instant.truncated_eq_self_iff.mpr (Or.inl hnano)] at hread

theorem lastsFor_issued_iff {n : Int} :
    (s.issued request t).LastsFor n ↔
      n = s.options.effectiveExpireSeconds ∧ s.options.effectiveExpireSeconds ≤ 3600 := by
  have hpos : 0 ≤ s.options.effectiveExpireSeconds := by
    unfold SignOptions.effectiveExpireSeconds defaultExpireSeconds
    split <;> omega
  have hden := Decimal.denotes_ofInt s.options.effectiveExpireSeconds
  constructor
  · rintro ⟨h, -, hle⟩
    obtain rfl := h.unique hden
    exact ⟨rfl, hle⟩
  · rintro ⟨rfl, hle⟩
    exact ⟨hden, hpos, hle⟩

end Signer

end AssetAccess.Auth
