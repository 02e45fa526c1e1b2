import AssetAccess.Proofs.Auth.Indifference
/-!
# A signature binds the whole request

Two accepted requests with the same signature are the same in everything that a signature covers, or
the two verifications have found a collision of the keyed digest (`signedAlike_or_collide`).

Nothing is asked of the digest: a verifier computes one for the scope and one for the canonical
text, and if no two of these collide, equal signatures come from equal scopes and equal texts.  Both
texts can be taken apart again (`RawToken.scope_inj`, `CanonicalRequest.text_eq_iff`).
-/

namespace AssetAccess.Auth

/-- The pairs of key and message that are hashed to verify a token. -/
def RawToken.hashed (r : RawToken) (request : Http.Request) (secret : String) :
    List (String × String) :=
  [(secret, r.scope),
    (Hmac.hex secret r.scope, (CanonicalRequest.of request (.ofList r.listed)).text)]

/-- Two different pairs of key and message, one of each list, have the same keyed digest. -/
def Collide (l m : List (String × String)) : Prop :=
  ∃ p ∈ l, ∃ q ∈ m, p ≠ q ∧ Hmac.hex p.1 p.2 = Hmac.hex q.1 q.2

/-- Two requests agree in everything that the signatures of their tokens cover: the first four
fields of the token, the method, the path up to one slash at its start, the pairs of the query and
the covered headers. -/
structure SignedAlike (a b : Http.Request) (r r' : RawToken) : Prop where
  scope : r.fields.take 4 = r'.fields.take 4
  method : a.method = b.method
  path : relativePath a.target.path = relativePath b.target.path
  query : (Query.pairs (a.target.query.getD "")).Perm (Query.pairs (b.target.query.getD ""))
  covered : Coverage.covered a.fields (.ofList r.listed) =
    Coverage.covered b.fields (.ofList r'.listed)

variable {a b : Http.Request} {r r' : RawToken} {secret : String}

/-- What is signed alike has the same scope and the same canonical text, and the other way round. -/
theorem signedAlike_iff (h : ∀ f ∈ r.fields, '/' ∉ f.toList)
    (h' : ∀ f ∈ r'.fields, '/' ∉ f.toList) :
    SignedAlike a b r r' ↔ r.scope = r'.scope ∧
      (CanonicalRequest.of a (.ofList r.listed)).text =
        (CanonicalRequest.of b (.ofList r'.listed)).text := by
  rw [RawToken.scope_inj h h', CanonicalRequest.text_eq_iff]
  constructor
  · rintro ⟨hs, hm, hp, hq, hc⟩
    exact ⟨hs, hm, hp, hq, hc⟩
  · rintro ⟨hs, hm, hp, hq, hc⟩
    exact ⟨hs, hm, hp, hq, hc⟩

theorem scope_mem_hashed : (secret, r.scope) ∈ r.hashed a secret := by simp [RawToken.hashed]

theorem text_mem_hashed :
    (Hmac.hex secret r.scope, (CanonicalRequest.of a (.ofList r.listed)).text) ∈
      r.hashed a secret := by simp [RawToken.hashed]

/-- Equal digests of digests come from equal scopes and texts, or there is a collision. -/
theorem eq_or_collide_of_expected_eq (he : r.expected a secret = r'.expected b secret) :
    (r.scope = r'.scope ∧ (CanonicalRequest.of a (.ofList r.listed)).text =
        (CanonicalRequest.of b (.ofList r'.listed)).text) ∨
      Collide (r.hashed a secret) (r'.hashed b secret) := by
  by_cases hs : r.scope = r'.scope
  · by_cases ht : (CanonicalRequest.of a (.ofList r.listed)).text =
        (CanonicalRequest.of b (.ofList r'.listed)).text
    · exact Or.inl ⟨hs, ht⟩
    · -- the texts differ, and their digests are the signatures
      exact Or.inr ⟨_, text_mem_hashed, _, text_mem_hashed, fun h => ht (congrArg Prod.snd h), he⟩
  · by_cases hk : Hmac.hex secret r.scope = Hmac.hex secret r'.scope
    · -- the scopes differ and lead to one key
      exact Or.inr ⟨_, scope_mem_hashed, _, scope_mem_hashed, fun h => hs (congrArg Prod.snd h), hk⟩
    · exact Or.inr ⟨_, text_mem_hashed, _, text_mem_hashed, fun h => hk (congrArg Prod.fst h), he⟩

/-- **A signature binds the whole request.**  If two requests are accepted under one secret and
their tokens bear the same signature, they are signed alike or the keyed digest has a collision. -/
theorem signedAlike_or_collide {v w : Verifier}
    (hsecret : v.credentials.secretAccessKey = w.credentials.secretAccessKey)
    {clock clock' : Clock} (ha : (v.verify a).result clock = .ok ())
    (hb : (w.verify b).result clock' = .ok ()) (hr : Carries a r) (hr' : Carries b r')
    (hsig : r.signature = r'.signature) :
    SignedAlike a b r r' ∨ Collide (r.hashed a v.credentials.secretAccessKey)
      (r'.hashed b w.credentials.secretAccessKey) := by
  have hea := Verifier.signature_eq_of_accepted ha hr
  have heb := Verifier.signature_eq_of_accepted hb hr'
  rw [← hsecret] at heb ⊢
  rw [signedAlike_iff hr.not_mem hr'.not_mem]
  exact eq_or_collide_of_expected_eq (hea.symm.trans (hsig.trans heb))

/-- A request to a host, and the same with the pairs of the query in another order and with a header
that its token does not list.  The first is accepted at its date, and the second half an hour later
for another key id. -/
theorem exists_signedAlike_or_collide : ∃ (a b : Http.Request) (r : RawToken),
    a.target.query = some "x=1&y=2" ∧ b.target.query = some "y=2&x=1" ∧
    a.fields.values .traceId = [] ∧ b.fields.values .traceId = [⟨[0x74], by decide⟩] ∧
    ((Verifier.mk ⟨0, "id", "secret"⟩).verify a).result (.fixed (.atSecond 1700000000)) = .ok () ∧
    ((Verifier.mk ⟨0, "other", "secret"⟩).verify b).result
      (.fixed (.atSecond 1700001800)) = .ok () ∧
    Carries a r ∧ Carries b r ∧
    (SignedAlike a b r r ∨ Collide (r.hashed a "secret") (r.hashed b "secret")) := by
  have hid : (Credentials.mk 0 "id" "secret").Readable := by decide +kernel
  obtain ⟨a, h⟩ := Signer.exists_result_authorize
    ⟨⟨0, "id", "secret"⟩, { timestamp := 1700000000 }⟩
    ⟨.post, ⟨none, none, "/", some "x=1&y=2"⟩, ⟨[(.host, ⟨[0x68], by decide⟩)]⟩, ""⟩
    (.fixed .epoch) ⟨by decide, by decide⟩ hid (by decide) rfl
  obtain ⟨-, -, -, -, value, -, ha⟩ := Signer.result_authorize_eq_ok_iff.mp h
  -- the second request comes from the first by two edits outside what the token covers
  obtain ⟨b, hb⟩ : ∃ b : Http.Request, b = { a with
      target := { a.target with query := some "y=2&x=1" }
      fields := a.fields.set .traceId ⟨[0x74], by decide⟩ } := ⟨_, rfl⟩
  have halike : LookAlike a b := by
    have hquery : (Query.segments "y=2&x=1").Perm (Query.segments "x=1&y=2") := by decide +kernel
    have harranged := @Edit.arrange ["host"] a (some "y=2&x=1") (by rw [ha]; exact hquery)
    have hset := @Edit.set ["host"] { a with target := { a.target with query := some "y=2&x=1" } }
      .traceId (by decide) (by decide) ⟨[0x74], by decide⟩
    have hnames : Coverage.signedNames ⟨[(.host, ⟨[0x68], by decide⟩)]⟩
        ({ timestamp := 1700000000 } : SignOptions).effectiveHeaders = ["host"] := by decide +kernel
    rw [hb]
    refine (keeps_of_edits (.tail (.single harranged) hset)).lookAlike (by simp) fun name hn => ?_
    rw [← hnames]
    exact mem_signedNames_of_lists h hn
  have hfirst : ((Verifier.mk ⟨0, "id", "secret"⟩).verify a).result
      (.fixed (.atSecond 1700000000)) = .ok () :=
    Verifier.result_verify_of_verdict (verdict_of_in_time h hid (by decide) (by decide))
  cases @verdict_of_in_time _ _ _ _ 1700001800 h hid (by decide) (by decide) with
  | @accepted r n t hc hr ht hl hd hn hh hs =>
    have hsecond : ((Verifier.mk ⟨0, "other", "secret"⟩).verify b).result
        (.fixed (.atSecond 1700001800)) = .ok () := by
      rw [← result_verify_of_lookAlike halike]
      exact Verifier.result_verify_of_verdict
        (.accepted ⟨by decide, by decide⟩ hr ht hl hd hn hh hs)
    have hr' : Carries b r := by
      refine hr.of_head?_eq ?_
      rw [hb, Http.Fields.values_set_of_ne _ (by decide)]
    exact ⟨a, b, r, by rw [ha], by rw [hb],
      by rw [ha, Http.Fields.values_set_of_ne _ (by decide)]; rfl,
      by rw [hb, Http.Fields.values_set, if_pos rfl], hfirst, hsecond, hr, hr',
      signedAlike_or_collide rfl hfirst hsecond hr hr' rfl⟩

end AssetAccess.Auth
