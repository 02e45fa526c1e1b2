import AssetAccess.Auth.Verifier
import AssetAccess.Proofs.Action
import AssetAccess.Proofs.Auth.Credentials
import AssetAccess.Proofs.Auth.Token
import AssetAccess.Proofs.Digest.Hmac
import AssetAccess.Proofs.Http.Fields
/-!
# What a verifier decides

`Verdict` states the protocol: under which conditions on the credentials, the request and the Unix
second a request is accepted, and which error is the answer where one of them fails.  A verifier
answers what the protocol says, and nothing else (`result_verify_eq_iff`).

The conditions are mathematical ones.  The lifetime is an integer of any number of digits, the
signature is compared as a text, and the names are compared as texts; the checks of the verifier on
decimal notations, hexadecimal digits and bytes agree with them (`Token.lifetime?_eq_some_iff`,
`Hmac.matchesHex_iff`).
-/

namespace AssetAccess.Auth

open AssetAccess.Action

/-! ### The token of a request -/

/-- The request's oldest authorization value is ASCII text and falls into these six fields. -/
def Carries (request : Http.Request) (r : RawToken) : Prop :=
  ∃ value, (request.fields.values .authorization).head? = some value ∧
    (∀ b ∈ value.bytes, Http.isVisible b = true) ∧ value.bytes = Text.utf8 r.text ∧
    ∀ f ∈ r.fields, '/' ∉ f.toList

theorem tokenText_eq_ok_iff {request : Http.Request} {value : Http.FieldValue} {s : String}
    (hv : (request.fields.values .authorization).head? = some value) :
    Verifier.tokenText request = .ok s ↔ value.text? = some s := by
  simp only [Verifier.tokenText, Http.Fields.first?, hv]
  cases value.text? with
  | none => simp
  | some t => simp

/-- A request carries a token exactly when the text of its authorization header falls into it. -/
theorem carries_iff {request : Http.Request} {r : RawToken} :
    Carries request r ↔
      ∃ s, Verifier.tokenText request = .ok s ∧ Text.pieces '/' s = r.fields := by
  constructor
  · rintro ⟨value, hv, hvis, hb, hsep⟩
    exact ⟨r.text, (tokenText_eq_ok_iff hv).mpr (Http.FieldValue.text?_eq_some_iff.mpr ⟨hvis, hb⟩),
      RawToken.pieces_text hsep⟩
  · rintro ⟨s, hs, hp⟩
    obtain ⟨rfl, hsep⟩ := RawToken.pieces_eq_fields_iff.mp hp
    cases hv : (request.fields.values .authorization).head? with
    | none =>
      -- without a value the text is empty, which is one piece
      rw [Verifier.tokenText, Http.Fields.first?, hv] at hs
      rw [← Except.ok.inj hs] at hp
      simp [Text.pieces, RawToken.fields] at hp
    | some value =>
      obtain ⟨hvis, hb⟩ := Http.FieldValue.text?_eq_some_iff.mp ((tokenText_eq_ok_iff hv).mp hs)
      exact ⟨value, hv, hvis, hb, hsep⟩

/-- Where the oldest authorization value is the text of six fields, the request carries a token
exactly when these fields are visible and hold no slash. -/
theorem exists_carries_iff {request : Http.Request} {r : RawToken} {value : Http.FieldValue}
    (hv : (request.fields.values .authorization).head? = some value)
    (hb : value.bytes = Text.utf8 r.text) :
    (∃ r', Carries request r') ↔ Http.Visible r.text ∧ ∀ f ∈ r.fields, '/' ∉ f.toList := by
  constructor
  · rintro ⟨r', value', hv', hvis, hb', hsep⟩
    obtain rfl := Option.some.inj (hv.symm.trans hv')
    have htext : r.text = r'.text := Text.utf8_injective (hb.symm.trans hb')
    rw [hb] at hvis
    refine ⟨hvis, RawToken.not_mem_of_length_pieces ?_⟩
    rw [htext, RawToken.pieces_text hsep]
    rfl
  · rintro ⟨hvis, hsep⟩
    exact ⟨r, value, hv, by rwa [hb], hb, hsep⟩

theorem Carries.not_mem {request : Http.Request} {r : RawToken} (h : Carries request r) :
    ∀ f ∈ r.fields, '/' ∉ f.toList := by
  obtain ⟨_, _, _, _, hsep⟩ := h
  exact hsep

/-- A request carries one token at most. -/
theorem Carries.unique {request : Http.Request} {r r' : RawToken} (h : Carries request r)
    (h' : Carries request r') : r = r' := by
  obtain ⟨s, hs, hp⟩ := carries_iff.mp h
  obtain ⟨s', hs', hp'⟩ := carries_iff.mp h'
  obtain rfl := Except.ok.inj (hs.symm.trans hs')
  exact RawToken.fields_injective (hp.symm.trans hp')

/-! ### The protocol -/

/-- The signature that belongs to a request under a secret and the scope and names of a token. -/
def RawToken.expected (r : RawToken) (request : Http.Request) (secret : String) : String :=
  Hmac.hex (Hmac.hex secret r.scope) (CanonicalRequest.of request (.ofList r.listed)).text

/-- The protocol's answer to a request at a Unix second.  A condition is asked only where all
conditions before it hold. -/
inductive Verdict (c : Credentials) (request : Http.Request) (now : Int) :
    Except Error Unit → Prop where
  | emptyAccessKeyId (hid : c.accessKeyId = "") :
      Verdict c request now (.error (.invalidParam .emptyAccessKeyId))
  | emptySecretAccessKey (hid : c.accessKeyId ≠ "") (hs : c.secretAccessKey = "") :
      Verdict c request now (.error (.invalidParam .emptySecretAccessKey))
  | malformedToken (hc : c.Complete) (hr : ∀ r, ¬ Carries request r) :
      Verdict c request now (.error .malformedToken)
  | unsupportedVersion {r : RawToken} (hc : c.Complete) (hr : Carries request r)
      (ht : r.tag ≠ version) : Verdict c request now (.error .unsupportedVersion)
  | expirationOutOfRange {r : RawToken} (hc : c.Complete) (hr : Carries request r)
      (ht : r.tag = version) (hl : ∀ n, ¬ r.LastsFor n) :
      Verdict c request now (.error .expirationOutOfRange)
  | badDateField {r : RawToken} {n : Int} (hc : c.Complete) (hr : Carries request r)
      (ht : r.tag = version) (hl : r.LastsFor n) (hd : SignDate.parse? r.date = none) :
      Verdict c request now (.error .badDateField)
  | expired {r : RawToken} {n : Int} {t : Instant} (hc : c.Complete) (hr : Carries request r)
      (ht : r.tag = version) (hl : r.LastsFor n) (hd : SignDate.parse? r.date = some t)
      (hn : ¬ now ≤ t.second + n) : Verdict c request now (.error .expired)
  | missingHost {r : RawToken} {n : Int} {t : Instant} (hc : c.Complete) (hr : Carries request r)
      (ht : r.tag = version) (hl : r.LastsFor n) (hd : SignDate.parse? r.date = some t)
      (hn : now ≤ t.second + n) (hh : "host" ∉ r.listed) :
      Verdict c request now (.error .missingHost)
  | signatureMismatch {r : RawToken} {n : Int} {t : Instant} (hc : c.Complete)
      (hr : Carries request r) (ht : r.tag = version) (hl : r.LastsFor n)
      (hd : SignDate.parse? r.date = some t) (hn : now ≤ t.second + n) (hh : "host" ∈ r.listed)
      (hs : r.signature ≠ r.expected request c.secretAccessKey) :
      Verdict c request now (.error .signatureMismatch)
  | accepted {r : RawToken} {n : Int} {t : Instant} (hc : c.Complete) (hr : Carries request r)
      (ht : r.tag = version) (hl : r.LastsFor n) (hd : SignDate.parse? r.date = some t)
      (hn : now ≤ t.second + n) (hh : "host" ∈ r.listed)
      (hs : r.signature = r.expected request c.secretAccessKey) :
      Verdict c request now (.ok ())

/-- The protocol has an answer to every request. -/
theorem exists_verdict (c : Credentials) (request : Http.Request) (now : Int) :
    ∃ x, Verdict c request now x := by
  by_cases hid : c.accessKeyId = ""
  · exact ⟨_, .emptyAccessKeyId hid⟩
  by_cases hsec : c.secretAccessKey = ""
  · exact ⟨_, .emptySecretAccessKey hid hsec⟩
  have hc : c.Complete := ⟨hid, hsec⟩
  by_cases hr : ∃ r, Carries request r
  swap
  · exact ⟨_, .malformedToken hc (not_exists.mp hr)⟩
  obtain ⟨r, hr⟩ := hr
  by_cases ht : r.tag = version
  swap
  · exact ⟨_, .unsupportedVersion hc hr ht⟩
  by_cases hl : ∃ n, r.LastsFor n
  swap
  · exact ⟨_, .expirationOutOfRange hc hr ht (not_exists.mp hl)⟩
  obtain ⟨n, hl⟩ := hl
  cases hd : SignDate.parse? r.date with
  | none => exact ⟨_, .badDateField hc hr ht hl hd⟩
  | some t =>
    by_cases hn : now ≤ t.second + n
    swap
    · exact ⟨_, .expired hc hr ht hl hd hn⟩
    by_cases hh : "host" ∈ r.listed
    swap
    · exact ⟨_, .missingHost hc hr ht hl hd hn hh⟩
    by_cases hs : r.signature = r.expected request c.secretAccessKey
    · exact ⟨_, .accepted hc hr ht hl hd hn hh hs⟩
    · exact ⟨_, .signatureMismatch hc hr ht hl hd hn hh hs⟩

/-! ### The verifier -/

/-- What a token that has been read leads to at a Unix second. -/
def Token.verdict (token : Token) (request : Http.Request) (secret : String) (now : Int) :
    Except Error Unit :=
  if token.isExpiredAt now then .error .expired
  else if !token.signedHeaders.contains "host" then .error .missingHost
  else if !Verifier.isSignedBy token request secret then .error .signatureMismatch
  else .ok ()

namespace Verifier

/-- A check reads the clock once, after the token, and otherwise depends on nothing around it. -/
theorem result_check (v : Verifier) (request : Http.Request) (s : Surroundings) :
    (runFrom (v.check request) s).1 = (do
      v.credentials.validate
      let text ← tokenText request
      let token ← Token.parse text
      token.verdict request v.credentials.secretAccessKey s.clock.unixSecond) := by
  simp only [check, runFrom_bind, runFrom_ofExcept]
  rcases v.credentials.validate with e | u
  · rfl
  · rcases tokenText request with e | text
    · rfl
    · change _ = (Token.parse text).bind fun token =>
        token.verdict request v.credentials.secretAccessKey s.clock.unixSecond
      dsimp only
      rcases Token.parse text with e | token
      · rfl
      · -- nothing has read the clock before, so the reading is its first one
        simp only [runFrom_unixSecond, Except.bind, Token.verdict]
        cases token.isExpiredAt s.clock.unixSecond
        · cases token.signedHeaders.contains "host"
          · rfl
          · cases isSignedBy token request v.credentials.secretAccessKey
            · rfl
            · rfl
        · rfl

theorem result_verify (v : Verifier) (request : Http.Request) (clock : Clock) :
    (v.verify request).result clock = (do
      v.credentials.validate
      let text ← tokenText request
      let token ← Token.parse text
      token.verdict request v.credentials.secretAccessKey clock.unixSecond) := by
  rw [← result_check v request { clock }, result_eq, verify, runFrom_tryCatch]
  rcases runFrom (v.check request) { clock } with ⟨e | u, s⟩
  · rfl
  · rfl

theorem isSignedBy_iff {r : RawToken} {request : Http.Request} {secret : String} {token : Token}
    (hs : token.signature = r.signature) (hn : token.signedHeaders = r.listed)
    (hsc : token.scope = r.scope) :
    isSignedBy token request secret = true ↔ r.signature = r.expected request secret := by
  rw [isSignedBy, hs, hn, hsc, Hmac.matchesHex_iff, RawToken.expected]

/-- Past the credentials, a request is answered as its token is read. -/
theorem result_verify_of_complete {v : Verifier} (hc : v.credentials.Complete)
    (request : Http.Request) (clock : Clock) :
    (v.verify request).result clock = (do
      let text ← tokenText request
      let token ← Token.parse text
      token.verdict request v.credentials.secretAccessKey clock.unixSecond) := by
  rw [result_verify, Credentials.validate_of_complete hc]
  rfl

/-- A request without a token is malformed, whether its text is no ASCII or has other fields. -/
theorem result_verify_of_not_carries {v : Verifier} {request : Http.Request}
    (hc : v.credentials.Complete) (hr : ∀ r, ¬ Carries request r) (clock : Clock) :
    (v.verify request).result clock = .error .malformedToken := by
  rw [result_verify_of_complete hc]
  cases ht : tokenText request with
  | error e =>
    -- reading the header has one way to fail
    have he : e = .malformedToken := by
      unfold tokenText at ht
      split at ht
      · simp at ht
      · split at ht
        · exact (Except.error.inj ht).symm
        · simp at ht
    rw [he]
    rfl
  | ok s =>
    have hlen : (Text.pieces '/' s).length ≠ 6 := by
      intro h6
      obtain ⟨r, hf⟩ := RawToken.exists_fields h6
      exact hr r (carries_iff.mpr ⟨s, ht, hf⟩)
    change (Token.parse s).bind _ = _
    rw [Token.parse_of_length_ne hlen]
    rfl

theorem result_verify_of_carries {v : Verifier} {request : Http.Request} {r : RawToken}
    (hc : v.credentials.Complete) (hr : Carries request r) (clock : Clock) :
    ∃ s, Text.pieces '/' s = r.fields ∧ (v.verify request).result clock = (do
      let token ← Token.parse s
      token.verdict request v.credentials.secretAccessKey clock.unixSecond) := by
  obtain ⟨s, hs, hp⟩ := carries_iff.mp hr
  refine ⟨s, hp, ?_⟩
  rw [result_verify_of_complete hc, hs]
  rfl

/-- Past the date, what is left is the expiry, the host and the signature. -/
theorem result_verify_of_parse {v : Verifier} {request : Http.Request} {r : RawToken} {n : Int}
    {t : Instant} (hc : v.credentials.Complete) (hr : Carries request r) (ht : r.tag = version)
    (hl : r.LastsFor n) (hd : SignDate.parse? r.date = some t) (clock : Clock) :
    (v.verify request).result clock =
      if ¬ clock.unixSecond ≤ t.second + n then .error .expired
      else if "host" ∉ r.listed then .error .missingHost
      else if r.signature ≠ r.expected request v.credentials.secretAccessKey then
        .error .signatureMismatch
      else .ok () := by
  obtain ⟨s, hp, h⟩ := result_verify_of_carries hc hr clock
  rw [h, Token.parse_of_date_eq_some hp ht hl hd]
  -- the checks of the verifier, one by one, in the words of the protocol
  have hexp : (t.second + n < clock.unixSecond) ↔ ¬ clock.unixSecond ≤ t.second + n :=
    Int.not_le.symm
  have hhost : (!r.listed.contains "host") = true ↔ "host" ∉ r.listed := by simp
  have hsig := @isSignedBy_iff r request v.credentials.secretAccessKey
    ⟨r.accessKeyId, t, n, r.listed, r.signature, r.scope⟩ rfl rfl rfl
  change (if decide (t.second + n < clock.unixSecond) = true then _ else
    if (!r.listed.contains "host") = true then _ else _) = _
  simp only [decide_eq_true_iff, hexp, hhost, Bool.not_eq_true', ← Bool.not_eq_true, hsig, ne_eq]

/-- What the protocol answers, the verifier answers. -/
theorem result_verify_of_verdict {v : Verifier} {request : Http.Request} {clock : Clock}
    {x : Except Error Unit} (h : Verdict v.credentials request clock.unixSecond x) :
    (v.verify request).result clock = x := by
  cases h with
  | emptyAccessKeyId hid =>
    rw [result_verify, Credentials.validate, hid]
    rfl
  | emptySecretAccessKey hid hs =>
    rw [result_verify, Credentials.validate, if_neg (by simpa using hid), hs]
    rfl
  | malformedToken hc hr => exact result_verify_of_not_carries hc hr clock
  | unsupportedVersion hc hr ht =>
    obtain ⟨s, hp, h⟩ := result_verify_of_carries hc hr clock
    rw [h, Token.parse_of_tag_ne hp ht]
    rfl
  | expirationOutOfRange hc hr ht hl =>
    obtain ⟨s, hp, h⟩ := result_verify_of_carries hc hr clock
    rw [h, Token.parse_of_not_lastsFor hp ht hl]
    rfl
  | badDateField hc hr ht hl hd =>
    obtain ⟨s, hp, h⟩ := result_verify_of_carries hc hr clock
    rw [h, Token.parse_of_date_eq_none hp ht hl hd]
    rfl
  | expired hc hr ht hl hd hn => rw [result_verify_of_parse hc hr ht hl hd, if_pos hn]
  | missingHost hc hr ht hl hd hn hh =>
    rw [result_verify_of_parse hc hr ht hl hd, if_neg (not_not.mpr hn), if_pos hh]
  | signatureMismatch hc hr ht hl hd hn hh hs =>
    rw [result_verify_of_parse hc hr ht hl hd, if_neg (not_not.mpr hn), if_neg (not_not.mpr hh),
      if_pos hs]
  | accepted hc hr ht hl hd hn hh hs =>
    rw [result_verify_of_parse hc hr ht hl hd, if_neg (not_not.mpr hn), if_neg (not_not.mpr hh),
      if_neg (not_not.mpr hs)]

theorem verdict_result_verify (v : Verifier) (request : Http.Request) (clock : Clock) :
    Verdict v.credentials request clock.unixSecond ((v.verify request).result clock) := by
  obtain ⟨x, hx⟩ := exists_verdict v.credentials request clock.unixSecond
  rwa [result_verify_of_verdict hx]

/-- An accepted request bears the signature that belongs to it. -/
theorem signature_eq_of_accepted {v : Verifier} {request : Http.Request} {clock : Clock}
    {r : RawToken} (h : (v.verify request).result clock = .ok ()) (hr : Carries request r) :
    r.signature = r.expected request v.credentials.secretAccessKey := by
  have hv := verdict_result_verify v request clock
  rw [h] at hv
  cases hv with
  | accepted _ hr' _ _ _ _ _ hs =>
    obtain rfl := hr.unique hr'
    exact hs

/-- **A verifier decides exactly the protocol.** -/
theorem result_verify_eq_iff (v : Verifier) (request : Http.Request) (clock : Clock)
    (x : Except Error Unit) :
    (v.verify request).result clock = x ↔ Verdict v.credentials request clock.unixSecond x := by
  constructor
  · rintro rfl
    exact verdict_result_verify v request clock
  · exact result_verify_of_verdict

end Verifier

end AssetAccess.Auth
