import AssetAccess.Proofs.Auth.Signer
import AssetAccess.Proofs.Auth.Verdict
/-!
# Signing and then verifying

A request that a signer has authorized is accepted by a verifier with the same credentials as long
as the token lasts.  What can go wrong in between does not depend on the request at all: the key id
may be one that a verifier cannot read, the lifetime may be longer than a verifier allows, and the
token may have expired (`result_verify_of_authorize`).

The two sides select the covered headers by different names, the signer by those of its options and
the verifier by those in the token, and both cover the same headers (`signature_issued`).
-/

namespace AssetAccess.Auth

section Authorized

variable {s : Signer} {request : Http.Request} {t : Instant} {value : Http.FieldValue}

/-- The stored value is the one that a verifier reads. -/
theorem head?_values_set (fields : Http.Fields) (value : Http.FieldValue) :
    ((fields.set .authorization value).values .authorization).head? = some value := by
  rw [Http.Fields.values_set, if_pos rfl, List.head?_cons]

theorem exists_carries_authorized_iff
    (hv : Http.FieldValue.ofString? (s.issued request t).text = some value) :
    (∃ r, Carries { request with fields := request.fields.set .authorization value } r) ↔
      s.credentials.Readable :=
  (exists_carries_iff (head?_values_set _ _) (Http.FieldValue.bytes_of_ofString? hv)).trans
    Signer.visible_and_not_mem_iff

theorem carries_authorized
    (hv : Http.FieldValue.ofString? (s.issued request t).text = some value)
    (hr : s.credentials.Readable) :
    Carries { request with fields := request.fields.set .authorization value }
      (s.issued request t) := by
  obtain ⟨hvis, hsep⟩ := Signer.visible_and_not_mem_iff.mpr hr
  have hb := Http.FieldValue.bytes_of_ofString? hv
  exact ⟨value, head?_values_set _ _, by rwa [hb], hb, hsep⟩

/-- The signature of an issued token is the one that belongs to the request it is stored in. -/
theorem signature_issued (hh : request.fields.has .host = true) :
    (s.issued request t).signature = (s.issued request t).expected
      { request with fields := request.fields.set .authorization value }
      s.credentials.secretAccessKey := by
  have htext : (CanonicalRequest.of request s.options.effectiveHeaders).text =
      (CanonicalRequest.of { request with fields := request.fields.set .authorization value }
        (.ofList (s.issued request t).listed)).text := by
    refine CanonicalRequest.text_eq_iff.mpr ⟨rfl, rfl, List.Perm.refl _, ?_⟩
    rw [Signer.listed_issued hh]
    -- the token is not covered, and storing it leaves every other header as it was
    refine (Coverage.covered_signedNames hh fun n hn => ?_).symm
    exact Http.Fields.values_set_of_ne _ (Coverage.mem_coveredNames.mp hn).2.1 _
  rw [RawToken.expected, ← htext]
  rfl

end Authorized

/-! ### What a verifier answers -/

section Answers

variable {s : Signer} {clock : Clock} {request signed : Http.Request} {now : Int}

theorem verdict_of_not_readable (h : (s.authorize request).result clock = .ok signed)
    (hr : ¬ s.credentials.Readable) :
    Verdict s.credentials signed now (.error .malformedToken) := by
  obtain ⟨hc, -, t, -, value, hv, rfl⟩ := Signer.result_authorize_eq_ok_iff.mp h
  exact .malformedToken hc (not_exists.mp (mt (exists_carries_authorized_iff hv).mp hr))

theorem verdict_of_too_long (h : (s.authorize request).result clock = .ok signed)
    (hr : s.credentials.Readable) (hl : ¬ s.options.effectiveExpireSeconds ≤ 3600) :
    Verdict s.credentials signed now (.error .expirationOutOfRange) := by
  obtain ⟨hc, -, t, -, value, hv, rfl⟩ := Signer.result_authorize_eq_ok_iff.mp h
  refine .expirationOutOfRange hc (carries_authorized hv hr) rfl fun n hn => ?_
  exact hl (Signer.lastsFor_issued_iff.mp hn).2

theorem verdict_of_late (h : (s.authorize request).result clock = .ok signed)
    (hr : s.credentials.Readable) (hl : s.options.effectiveExpireSeconds ≤ 3600)
    (hn : ¬ now ≤ s.dateSecond clock + s.options.effectiveExpireSeconds) :
    Verdict s.credentials signed now (.error .expired) := by
  obtain ⟨hc, -, t, ht, value, hv, rfl⟩ := Signer.result_authorize_eq_ok_iff.mp h
  have hd := Signer.parse?_date_issued s request ht
  rw [← (Instant.of?_eq_some_iff.mp ht).1] at hn
  exact .expired hc (carries_authorized hv hr) rfl (Signer.lastsFor_issued_iff.mpr ⟨rfl, hl⟩) hd hn

theorem verdict_of_in_time (h : (s.authorize request).result clock = .ok signed)
    (hr : s.credentials.Readable) (hl : s.options.effectiveExpireSeconds ≤ 3600)
    (hn : now ≤ s.dateSecond clock + s.options.effectiveExpireSeconds) :
    Verdict s.credentials signed now (.ok ()) := by
  obtain ⟨hc, hh, t, ht, value, hv, rfl⟩ := Signer.result_authorize_eq_ok_iff.mp h
  have hd := Signer.parse?_date_issued s request ht
  rw [← (Instant.of?_eq_some_iff.mp ht).1] at hn
  refine .accepted hc (carries_authorized hv hr) rfl (Signer.lastsFor_issued_iff.mpr ⟨rfl, hl⟩) hd
    hn ?_ (signature_issued hh)
  -- the host is covered whatever the options say, so the token lists it
  rw [Signer.listed_issued hh]
  exact Coverage.mem_signedNames.mpr ⟨.host, Coverage.mem_coveredNames_of_has hh, rfl⟩

/-- What a verifier answers to an authorized request depends on the key id, the lifetime and the
clock alone. -/
theorem result_verify_authorized (h : (s.authorize request).result clock = .ok signed)
    (clock' : Clock) :
    ((Verifier.mk s.credentials).verify signed).result clock' =
      if s.credentials.Readable then
        if s.options.effectiveExpireSeconds ≤ 3600 then
          if clock'.unixSecond ≤ s.dateSecond clock + s.options.effectiveExpireSeconds then .ok ()
          else .error .expired
        else .error .expirationOutOfRange
      else .error .malformedToken := by
  refine Verifier.result_verify_of_verdict (v := ⟨s.credentials⟩) ?_
  split_ifs with hr hl hn
  · exact verdict_of_in_time h hr hl hn
  · exact verdict_of_late h hr hl hn
  · exact verdict_of_too_long h hr hl
  · exact verdict_of_not_readable h hr

/-- **A verifier accepts what a signer has authorized, as long as the token lasts.**  Of all errors,
a request that has just been authorized meets three at most, and which of them is up to the key id,
the lifetime and the clock alone. -/
theorem result_verify_of_authorize (h : (s.authorize request).result clock = .ok signed)
    (clock' : Clock) :
    let answer := ((Verifier.mk s.credentials).verify signed).result clock'
    let lifetime := s.options.effectiveExpireSeconds
    let last := s.dateSecond clock + lifetime
    (answer = .ok () ↔ s.credentials.Readable ∧ lifetime ≤ 3600 ∧ clock'.unixSecond ≤ last) ∧
      (¬ s.credentials.Readable → answer = .error .malformedToken) ∧
      (s.credentials.Readable → ¬ lifetime ≤ 3600 → answer = .error .expirationOutOfRange) ∧
      (s.credentials.Readable → lifetime ≤ 3600 → ¬ clock'.unixSecond ≤ last →
        answer = .error .expired) ∧
      ∀ e, answer = .error e → e = .malformedToken ∨ e = .expirationOutOfRange ∨ e = .expired := by
  intro answer lifetime last
  have hanswer : answer = _ := result_verify_authorized h clock'
  split_ifs at hanswer with hr hl hn
  · simp [hanswer, hr, lifetime, hl, last, hn]
  · simp [hanswer, hr, lifetime, hl, last, hn]
  · simp [hanswer, hr, lifetime, hl]
  · simp [hanswer, hr]

/-- A request to a host, authorized in 2023 and verified ten minutes later. -/
theorem exists_result_verify_eq_ok : ∃ signed : Http.Request,
    ((Signer.mk ⟨0, "id", "secret"⟩ { timestamp := 1700000000 }).authorize
      ⟨.post, ⟨none, none, "/", none⟩, ⟨[(.host, ⟨[0x68], by decide⟩)]⟩, ""⟩).result
        (.fixed .epoch) = .ok signed ∧
    ((Verifier.mk ⟨0, "id", "secret"⟩).verify signed).result
        (.fixed (.atSecond 1700000600)) = .ok () := by
  have hr : (Credentials.mk 0 "id" "secret").Readable := by decide +kernel
  obtain ⟨signed, h⟩ := Signer.exists_result_authorize
    ⟨⟨0, "id", "secret"⟩, { timestamp := 1700000000 }⟩
    ⟨.post, ⟨none, none, "/", none⟩, ⟨[(.host, ⟨[0x68], by decide⟩)]⟩, ""⟩
    (.fixed .epoch) ⟨by decide, by decide⟩ hr (by decide) rfl
  exact ⟨signed, h, (result_verify_of_authorize h _).1.mpr ⟨hr, by decide, by decide⟩⟩

end Answers

end AssetAccess.Auth
