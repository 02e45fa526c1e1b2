import AssetAccess.Proofs.Auth.CoveredText
import AssetAccess.Proofs.Auth.Signer
/-!
# Authorizing a request in place

A caller who has a request authorized is left with one of two things: the request with its token, or
the request as it was (`runFrom_authorizeHeld`).  Which of the two is known beforehand from the
keys, the host header, the date and the bytes of the key id (`CanAuthorize`).

A token is never part of what a signer signs, so no signer can tell whether there was one before
(`authorize_set_authorization`).  Authorizing a second time therefore does what authorizing for the
first time would have done, and the earlier token is gone.
-/

namespace AssetAccess

/-- The error blames a value that the caller supplied. -/
def Error.IsInvalidParam (e : Error) : Prop := ∃ fault, e = .invalidParam fault

namespace Auth.Signer

open AssetAccess.Action

variable {s : Signer} {request held : Http.Request} {clock : Clock} {left : Surroundings}

/-! ### What it takes -/

/-- What it takes to authorize a request: both keys, a host header, a date that the calendar has,
and a key id without control characters other than the tab. -/
structure CanAuthorize (s : Signer) (request : Http.Request) (clock : Clock) : Prop where
  accessKeyId_ne_empty : s.credentials.accessKeyId ≠ ""
  secretAccessKey_ne_empty : s.credentials.secretAccessKey ≠ ""
  has_host : request.fields.has .host = true
  first_le : -8334601228800 ≤ s.dateSecond clock
  le_last : s.dateSecond clock ≤ 8210266876799
  storable : ∀ b ∈ Text.utf8 s.credentials.accessKeyId, (0x20 ≤ b ∨ b = 0x09) ∧ b ≠ 0x7F

theorem canAuthorize_iff :
    s.CanAuthorize request clock ↔ ∃ signed, (s.authorize request).result clock = .ok signed := by
  constructor
  · intro h
    obtain ⟨t, ht⟩ := Instant.exists_of?_iff.mpr ⟨h.first_le, h.le_last⟩
    obtain ⟨value, hv⟩ := (@exists_ofString?_issued_iff s request t).mpr
      fun b hb => Http.isFieldByte_iff.mpr (h.storable b hb)
    exact ⟨_, result_authorize_eq_ok_iff.mpr
      ⟨⟨h.accessKeyId_ne_empty, h.secretAccessKey_ne_empty⟩, h.has_host, t, ht, value, hv, rfl⟩⟩
  · rintro ⟨signed, h⟩
    obtain ⟨hc, hh, t, ht, value, hv, -⟩ := result_authorize_eq_ok_iff.mp h
    obtain ⟨hfirst, hlast⟩ := Instant.exists_of?_iff.mp ⟨t, ht⟩
    have hbytes := exists_ofString?_issued_iff.mp ⟨value, hv⟩
    exact {
      accessKeyId_ne_empty := hc.1
      secretAccessKey_ne_empty := hc.2
      has_host := hh
      first_le := hfirst
      le_last := hlast
      storable := fun b hb => Http.isFieldByte_iff.mp (hbytes b hb) }

/-! ### Failures -/

theorem isInvalidParam_of_validate {c : Credentials} {e : Error} (h : c.validate = .error e) :
    e.IsInvalidParam := by
  unfold Credentials.validate at h
  split at h
  · cases h
    exact ⟨_, rfl⟩
  · split at h
    · cases h
      exact ⟨_, rfl⟩
    · cases h

section Failures

variable {P : Error → Prop}

theorem failsOnlyWith_signSecond (options : SignOptions) :
    FailsOnlyWith P (signSecond options) := by
  unfold signSecond
  split
  · exact .pure _
  · exact .unixSecond

/-- Signing fails as the check of the credentials does, for want of a host, and with a date that the
calendar does not have. -/
theorem failsOnlyWith_signWith (hc : ∀ e, s.credentials.validate = .error e → P e)
    (hhost : P (.invalidParam .noHost))
    (hdate : ∀ second, P (.invalidParam (.timestampOutOfRange second))) (options : SignOptions)
    (request : Http.Request) : FailsOnlyWith P (s.signWith options request) := by
  unfold signWith
  refine .bind (.ofExcept hc) fun _ => ?_
  split
  · exact .throw_bind hhost
  refine .bind (failsOnlyWith_signSecond _) fun second => ?_
  cases Instant.of? second 0 with
  | none => exact .throw (hdate second)
  | some t => exact .bind (.report _) fun _ => .pure _

/-- Authorizing fails as signing does, and with a token that cannot stand in a header. -/
theorem failsOnlyWith_authorize_of_sign (hs : FailsOnlyWith P (s.sign request))
    (hstore : P (.invalidParam .tokenNotFieldValue)) : FailsOnlyWith P (s.authorize request) := by
  unfold authorize
  refine .bind hs fun token => ?_
  cases Http.FieldValue.ofString? token with
  | none => exact .throw hstore
  | some value => exact .pure _

end Failures

theorem failsOnlyWith_authorize (s : Signer) (request : Http.Request) :
    FailsOnlyWith Error.IsInvalidParam (s.authorize request) := by
  refine failsOnlyWith_authorize_of_sign (failsOnlyWith_signWith (fun e => ?_) ⟨_, rfl⟩
    (fun second => ⟨_, rfl⟩) s.options request) ⟨_, rfl⟩
  exact isInvalidParam_of_validate

/-! ### Signing again -/

/-- A token is not part of what is signed. -/
theorem canonicalRequest_set_authorization (request : Http.Request) (names : NameSet)
    (value : Http.FieldValue) :
    CanonicalRequest.of { request with fields := request.fields.set .authorization value } names =
      CanonicalRequest.of request names := by
  obtain ⟨hblock, hnames⟩ : Coverage.WrittenAlike (request.fields.set .authorization value) names
      request.fields names :=
    Coverage.writtenAlike_of_values_eq fun n hne _ => Http.Fields.values_set_of_ne _ hne _
  simp only [CanonicalRequest.of, hblock, hnames]

theorem sign_set_authorization (s : Signer) (request : Http.Request) (value : Http.FieldValue) :
    s.sign { request with fields := request.fields.set .authorization value } = s.sign request := by
  have hhost : (request.fields.set .authorization value).has .host = request.fields.has .host :=
    Http.Fields.has_set_of_ne _ (by decide) _
  unfold sign signWith
  simp only [canonicalRequest_set_authorization, hhost]

/-- No signer can tell whether the request bore a token before. -/
theorem authorize_set_authorization (s : Signer) (request : Http.Request)
    (value : Http.FieldValue) :
    s.authorize { request with fields := request.fields.set .authorization value } =
      s.authorize request := by
  unfold authorize
  simp only [sign_set_authorization, Http.Fields.set_set]

theorem authorize_eq_of_result {s' : Signer} (h : (s'.authorize request).result clock = .ok held) :
    s.authorize held = s.authorize request := by
  obtain ⟨-, -, t, -, value, -, rfl⟩ := result_authorize_eq_ok_iff.mp h
  exact authorize_set_authorization s request value

theorem result_authorize_again {clock' : Clock} (h : (s.authorize request).result clock = .ok held)
    (hdate : s.dateSecond clock' = s.dateSecond clock) :
    (s.authorize held).result clock' = .ok held := by
  rw [authorize_eq_of_result h, result_authorize_eq_ok_iff, hdate, ← result_authorize_eq_ok_iff]
  exact h

/-! ### The request that the caller is left with -/

/-- Nothing is stored before everything has succeeded. -/
theorem runFrom_authorizeHeld (s : Signer) (request : Http.Request) (surroundings : Surroundings) :
    s.authorizeHeld.runFrom request surroundings =
      match (s.authorize request).runFrom surroundings with
      | (.ok signed, left) => (.ok (), signed, left)
      | (.error e, left) => (.error e, request, left) := by
  simp only [authorizeHeld, authorize, RequestAction.runFrom_bind, RequestAction.runFrom_get,
    RequestAction.runFrom_ofAction, runFrom_bind]
  rcases (s.sign request).runFrom surroundings with ⟨e | token, left⟩
  · rfl
  · dsimp only
    cases Http.FieldValue.ofString? token with
    | none => rw [RequestAction.runFrom_throw, runFrom_throw]
    | some value => rw [RequestAction.runFrom_modify, runFrom_pure]

/-- The caller is left with the authorized request, if there is one. -/
theorem exists_perform_authorizeHeld_iff :
    (∃ left, s.authorizeHeld.perform request clock = (.ok (), held, left)) ↔
      (s.authorize request).result clock = .ok held := by
  rw [result_eq, RequestAction.perform_eq, runFrom_authorizeHeld]
  rcases (s.authorize request).runFrom { clock } with ⟨e | signed, left⟩
  · simp
  · simp

theorem result_perform_authorizeHeld_iff :
    (s.authorizeHeld.perform request clock).1 = .ok () ↔ s.CanAuthorize request clock := by
  rw [canAuthorize_iff]
  constructor
  · intro h
    exact ⟨_, exists_perform_authorizeHeld_iff.mp ⟨_, Prod.ext h rfl⟩⟩
  · rintro ⟨signed, h⟩
    obtain ⟨left, hperform⟩ := exists_perform_authorizeHeld_iff.mpr h
    rw [hperform]

/-- A failure blames the caller and leaves the request alone. -/
theorem of_perform_authorizeHeld_error {e : Error}
    (h : s.authorizeHeld.perform request clock = (.error e, held, left)) :
    e.IsInvalidParam ∧ held = request := by
  have hfails := failsOnlyWith_authorize s request { clock }
  rw [RequestAction.perform_eq, runFrom_authorizeHeld] at h
  rcases hr : (s.authorize request).runFrom { clock } with ⟨e' | signed, left'⟩
  · rw [hr] at h hfails
    cases h
    exact ⟨hfails _ rfl, rfl⟩
  · rw [hr] at h
    cases h

/-- `held` bears a token as the only value of its authorization header, and agrees with `request` in
everything else. -/
structure BearsToken (token : String) (request held : Http.Request) : Prop where
  method_eq : held.method = request.method
  target_eq : held.target = request.target
  body_eq : held.body = request.body
  values_eq : ∀ n, n ≠ .authorization → held.fields.values n = request.fields.values n
  exists_value : ∃ value, value.bytes = Text.utf8 token ∧
    held.fields.values .authorization = [value]

theorem exists_bearsToken (h : (s.authorize request).result clock = .ok held) :
    ∃ token, (s.sign request).result clock = .ok token ∧ BearsToken token request held := by
  obtain ⟨hc, hh, t, ht, value, hv, rfl⟩ := result_authorize_eq_ok_iff.mp h
  refine ⟨_, result_sign_eq_ok_iff.mpr ⟨hc, hh, t, ht, rfl⟩, ?_⟩
  exact {
    method_eq := rfl
    target_eq := rfl
    body_eq := rfl
    values_eq := fun n hn => Http.Fields.values_set_of_ne _ hn _
    exists_value := by
      refine ⟨value, Http.FieldValue.bytes_of_ofString? hv, ?_⟩
      rw [Http.Fields.values_set, if_pos rfl] }

/-- Two runs end with the same result, clock and events, and with the same request if they
succeed. -/
structure SameEnding (run run' : Except Error Unit × Http.Request × Surroundings) : Prop where
  result_eq : run.1 = run'.1
  left_eq : run.2.2 = run'.2.2
  request_eq : run.1 = .ok () → run.2.1 = run'.2.1

/-- A token that was there before changes nothing. -/
theorem sameEnding_authorizeHeld {s' : Signer}
    (h : (s'.authorize request).result clock = .ok held) (clock' : Clock) :
    SameEnding (s.authorizeHeld.perform held clock') (s.authorizeHeld.perform request clock') := by
  rw [RequestAction.perform_eq, RequestAction.perform_eq, runFrom_authorizeHeld,
    runFrom_authorizeHeld, authorize_eq_of_result h]
  rcases (s.authorize request).runFrom { clock := clock' } with ⟨e | signed, left⟩
  · refine ⟨rfl, rfl, ?_⟩
    intro hok
    cases hok
  · exact ⟨rfl, rfl, fun _ => rfl⟩

/-- **Authorizing is all or nothing, and forgets earlier tokens.**  A signer authorizes the requests
that it can; any other request stays as it was.  An authorized request bears the token that was
signed and differs in nothing else.  Whoever authorizes it next cannot tell that it bore one, and
the same signer finds it as it should be if the date is the same. -/
theorem authorizeHeld_atomic (s : Signer) (request : Http.Request) (clock : Clock) :
    ((s.authorizeHeld.perform request clock).1 = .ok () ↔ s.CanAuthorize request clock) ∧
    (∀ e held left, s.authorizeHeld.perform request clock = (.error e, held, left) →
      e.IsInvalidParam ∧ held = request) ∧
    ∀ held left, s.authorizeHeld.perform request clock = (.ok (), held, left) →
      (∃ token, (s.sign request).result clock = .ok token ∧ BearsToken token request held) ∧
      (∀ (s' : Signer) (clock' : Clock), SameEnding (s'.authorizeHeld.perform held clock')
        (s'.authorizeHeld.perform request clock')) ∧
      ∀ clock', s.dateSecond clock' = s.dateSecond clock →
        ∃ left', s.authorizeHeld.perform held clock' = (.ok (), held, left') := by
  refine ⟨?_, ?_, ?_⟩
  · exact result_perform_authorizeHeld_iff
  · intro e held left h
    exact of_perform_authorizeHeld_error h
  · intro held left h
    have hresult := exists_perform_authorizeHeld_iff.mp ⟨left, h⟩
    refine ⟨exists_bearsToken hresult, ?_, ?_⟩
    · intro s' clock'
      exact sameEnding_authorizeHeld hresult clock'
    · intro clock' hdate
      exact exists_perform_authorizeHeld_iff.mpr (result_authorize_again hresult hdate)

/-- A request with two old tokens, authorized by a signer that asks to sign them, and then by
another one; and a request without a host, which stays as it was. -/
theorem authorizeHeld_twice :
    let token : Http.FieldValue := ⟨[0x6F], by decide⟩
    let host : Http.FieldValue := ⟨[0x68], by decide⟩
    let request : Http.Request := ⟨.post, ⟨none, none, "/", none⟩,
      ⟨[(.authorization, token), (.host, host), (.authorization, host)]⟩, "body"⟩
    let bare : Http.Request := ⟨.post, ⟨none, none, "/", none⟩, ⟨[(.authorization, token)]⟩, ""⟩
    let first : Signer := ⟨⟨0, "id", "secret"⟩,
      { timestamp := 1700000000, headersToSign := some (.ofList ["authorization"]) }⟩
    let second : Signer := ⟨⟨1, "other", "key"⟩, { timestamp := 1 }⟩
    (∃ held left, first.authorizeHeld.perform request (.fixed .epoch) = (.ok (), held, left) ∧
      (∃ value, held.fields.values .authorization = [value]) ∧
      SameEnding (second.authorizeHeld.perform held (.fixed .epoch))
        (second.authorizeHeld.perform request (.fixed .epoch)) ∧
      ∃ left', first.authorizeHeld.perform held (.fixed .epoch) = (.ok (), held, left')) ∧
    ∃ e left, first.authorizeHeld.perform bare (.fixed .epoch) = (.error e, bare, left) ∧
      e.IsInvalidParam := by
  intro token host request bare first second
  constructor
  · obtain ⟨hiff, -, hok⟩ := authorizeHeld_atomic first request (.fixed .epoch)
    have hcan : first.CanAuthorize request (.fixed .epoch) :=
      ⟨by decide, by decide, by decide, by decide, by decide,
        List.forall_iff_forall_mem.mp (by decide)⟩
    rcases hr : first.authorizeHeld.perform request (.fixed .epoch) with ⟨x, held, left⟩
    have hx : x = .ok () := by
      rw [← hiff.mpr hcan, hr]
    subst hx
    obtain ⟨⟨_, -, hbears⟩, hagain, hsame⟩ := hok held left hr
    obtain ⟨value, -, hvalue⟩ := hbears.exists_value
    exact ⟨held, left, rfl, ⟨value, hvalue⟩, hagain second _, hsame _ rfl⟩
  · obtain ⟨hiff, herror, -⟩ := authorizeHeld_atomic first bare (.fixed .epoch)
    rcases hr : first.authorizeHeld.perform bare (.fixed .epoch) with ⟨e | ⟨⟩, held, left⟩
    · obtain ⟨he, rfl⟩ := herror e held left hr
      exact ⟨e, left, rfl, he⟩
    · have hhost := (hiff.mp (by rw [hr])).has_host
      exact absurd hhost (by decide)

end Auth.Signer

end AssetAccess
