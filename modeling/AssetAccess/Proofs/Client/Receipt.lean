import AssetAccess.Proofs.Auth.Indifference
import AssetAccess.Proofs.Auth.Secrecy
import AssetAccess.Proofs.Client.Build
import AssetAccess.Proofs.Client.Delivery
/-!
# What the service receives

The service verifies another request than the one that was signed.  What a call hands over is the
sent form of the request (`Verifiable.posted`): its address was read once more, and the blanks
around header values are gone.  Whatever carries the request may then add headers (`Arrives`).  None
of this shows to a verifier (`lookAlike_of_arrives`): the token covers path and query but not the
host of the address, signed values have no blanks at their ends, and the names in the token are
those of headers that the request already had (`signedNames_fields`), whatever else the options ask
for.  So the service accepts every request that the client builds, as long as the token lasts
(`verifiable_of_build`).
-/

namespace AssetAccess.Client

open AssetAccess.Action Auth Http

/-- The names of the headers of a draft, in ascending order. -/
def draftNames : List FieldName := [.contentMd5, .contentType, .host, .timestamp, .userAgent]

/-- The names that the tokens of a client list: those of a draft that are the host or that the
options select. -/
def listedNames (c : Client) : List String :=
  (draftNames.map (·.text)).filter fun n =>
    n == "host" || c.signOptions.effectiveHeaders.contains n

/-- A request as the service receives it when `sent` has left the client.  Headers may have come in,
but none of a name that the token lists, and no token before that of the client. -/
structure Arrives (listed : List String) (sent received : Request) : Prop where
  method : received.method = sent.method
  target : received.target = sent.target
  token : (received.fields.values .authorization).head? =
    (sent.fields.values .authorization).head?
  values : ∀ n, n.text ∈ listed → received.fields.values n = sent.fields.values n

/-- What holds of a request that a client has built while the clock went on from `clock`. -/
structure Verifiable (c : Client) (uri body : String) (clock : Clock) (request : Request) :
    Prop where
  method_eq : request.method = .post
  body_eq : request.body = body
  /-- Every header has one value, and there is no other header. -/
  names : (request.fields.entries.map (·.1)).Perm (.authorization :: draftNames)
  contentMd5 : (request.fields.values .contentMd5).map (·.bytes) =
    [Text.utf8 (Hex.encode (Md5.digest (Text.utf8 body)))]
  /-- The token has six fields, and only the key id can hold a slash. -/
  token : ∃ r : RawToken,
    (request.fields.values .authorization).map (·.bytes) = [Text.utf8 r.text] ∧
      r.accessKeyId = c.credentials.accessKeyId ∧
        (∀ f ∈ r.fields, f = c.credentials.accessKeyId ∨ '/' ∉ f.toList) ∧
          r.listed = c.listedNames
  /-- The request is sent, unless the host of its address has a label in coded form that cannot be
  read once more. -/
  sent : ∀ url, Url.parse (c.endpoint ++ uri) = .ok url → url.authority.host.Uncoded →
    sentForm request = .ok { request with fields := trimmedFields request.fields }
  /-- A call hands what is sent to the service, and nothing else. -/
  posted : ∀ service : Request → Delivery, (c.post service uri body).result clock =
    sentForm request >>= fun sent => (service sent).reply request.target.text
  accepted : c.credentials.Readable → c.signOptions.effectiveExpireSeconds ≤ 3600 →
    ∀ sent received, sentForm request = .ok sent → Arrives c.listedNames sent received →
      ∀ clock' : Clock, clock'.unixSecond ≤
          c.signer.dateSecond clock.next + c.signOptions.effectiveExpireSeconds →
        ((Verifier.mk c.credentials).verify received).result clock' = .ok ()

/-- What arrives may have further headers behind those that were sent. -/
theorem Arrives.of_append {listed : List String} (sent : Request)
    (more : List (FieldName × FieldValue)) (h : ∀ e ∈ more, e.1.text ∉ listed)
    (ht : sent.fields.values .authorization ≠ []) :
    Arrives listed sent { sent with fields := ⟨sent.fields.entries ++ more⟩ } := by
  have happend (n : FieldName) : Fields.values ⟨sent.fields.entries ++ more⟩ n =
      sent.fields.values n ++ Fields.values ⟨more⟩ n := by
    simp [Fields.values]
  refine ⟨rfl, rfl, ?_, fun n hn => ?_⟩
  · rw [happend, List.head?_append_of_ne_nil _ ht]
  · have hnone : Fields.values ⟨more⟩ n = [] := by
      rw [Fields.values, List.map_eq_nil_iff, List.filter_eq_nil_iff]
      intro e he
      rw [decide_eq_true_eq]
      rintro rfl
      exact h e he hn
    rw [happend, hnone, List.append_nil]

/-! ### The headers of a draft -/

section Headers

variable (s : Stamp)

theorem names_fields :
    s.fields.names = [.contentType, .host, .timestamp, .contentMd5, .userAgent] := by rfl

theorem names_set_authorization (value : FieldValue) :
    ((s.fields.set .authorization value).entries.map (·.1)).Perm
      (.authorization :: draftNames) := by
  have hperm : List.Perm [FieldName.contentType, .host, .timestamp, .contentMd5, .userAgent,
      .authorization] (.authorization :: draftNames) := by decide
  exact hperm

theorem mem_draftNames_of_listed {c : Client} {n : FieldName} (h : n.text ∈ c.listedNames) :
    n ∈ draftNames := by
  obtain ⟨m, hm, htext⟩ := List.mem_map.mp (List.mem_of_mem_filter h)
  rwa [← Coverage.fieldName_ext htext]

theorem exists_values_fields {n : FieldName} (h : n ∈ draftNames) :
    ∃ v, s.fields.values n = [v] := by
  simp only [draftNames, List.mem_cons, List.not_mem_nil, or_false] at h
  rcases h with rfl | rfl | rfl | rfl | rfl
  · exact ⟨s.contentMd5, rfl⟩
  · exact ⟨s.contentType, rfl⟩
  · exact ⟨s.host, rfl⟩
  · exact ⟨s.timestamp, rfl⟩
  · exact ⟨s.userAgent, rfl⟩

/-- Of the names that a client is to sign, those that a draft has are signed, and the host. -/
theorem signedNames_fields (names : NameSet) :
    Coverage.signedNames s.fields names =
      (draftNames.map (·.text)).filter fun n => n == "host" || names.contains n := by
  have hperm : s.fields.names.Perm draftNames := by
    rw [names_fields]
    decide
  have hcovers : ∀ n ∈ draftNames,
      Coverage.covers names n = (n.text == "host" || names.contains n.text) := by
    intro n hn
    have all : ∀ n ∈ draftNames, (n != .authorization) = true ∧
        (n == .host) = (n.text == "host") := by decide
    rw [Coverage.covers, (all n hn).1, (all n hn).2, Bool.true_and]
  have hordered : (draftNames.map (·.text)).Pairwise (· ≤ ·) := by decide
  rw [Coverage.signedNames, Coverage.coveredNames]
  -- both lists ascend, so it is enough that they hold the same names
  refine List.Perm.eq_of_pairwise (fun a b _ _ hab hba => String.le_antisymm hab hba)
    (Text.pairwise_sorted _) (hordered.filter _) ((Text.sorted_perm _).trans ?_)
  rw [List.filter_map]
  refine List.Perm.map _ ((hperm.filter _).trans ?_)
  rw [List.filter_congr hcovers]
  exact List.Perm.refl _

end Headers

/-! ### What a verifier sees -/

theorem fieldValue_ext {v w : FieldValue} (h : v.bytes = w.bytes) : v = w := by
  cases v
  cases w
  simpa using h

variable {c : Client} {url : Url} {s : Stamp} {uri body : String} {clock : Clock}

/-- A token starts with its version and ends with its signature, so it has no blanks around it. -/
theorem trimmed_token {signer : Signer} {request : Request} {t : Instant} {value : FieldValue}
    (hv : FieldValue.ofString? (signer.issued request t).text = some value) :
    value.trimmed = value := by
  obtain ⟨r, hr⟩ : ∃ r, r = signer.issued request t := ⟨_, rfl⟩
  have hsignature : IsSignature r.signature := by
    rw [hr]
    exact isSignature_hex _ _
  have hbytes : value.bytes =
      Text.utf8 (r.scope ++ "/" ++ r.names) ++ 0x2F :: Text.utf8 r.signature := by
    rw [FieldValue.bytes_of_ofString? hv, ← hr, RawToken.text_eq, ← utf8_append_signature]
    simp [String.append_assoc]
  obtain ⟨rest, hrest⟩ : ∃ rest, Text.utf8 (r.scope ++ "/" ++ r.names) = 0x62 :: rest := by
    have hversion : Text.utf8 version = 0x62 :: Text.utf8 "ce-auth-v1" := by decide
    have htag : r.tag = version := by rw [hr]; rfl
    rw [RawToken.scope, htag, String.intercalate_cons_cons]
    simp only [Text.utf8_append, hversion, List.cons_append]
    exact ⟨_, rfl⟩
  refine fieldValue_ext ?_
  rw [trimmed_bytes hsignature hbytes, hbytes, hrest, List.dropWhile_cons_of_neg (by decide)]

/-- **A verifier sees no difference** between a request that was built and what arrives of it. -/
theorem lookAlike_of_arrives {request sent received : Request} (hw : url.Written)
    (hsigned : (c.signer.authorize (s.request url body)).result clock = .ok request)
    (hsent : sentForm request = .ok sent) (ha : Arrives c.listedNames sent received) :
    LookAlike request received := by
  have hlists {name : String} (h : Lists request name) : name ∈ c.listedNames := by
    have hn := mem_signedNames_of_lists hsigned h
    rwa [show (s.request url body).fields = s.fields from rfl, signedNames_fields] at hn
  obtain ⟨-, -, t, -, value, hv, rfl⟩ := Signer.result_authorize_eq_ok_iff.mp hsigned
  obtain ⟨host, rfl⟩ := exists_of_sentForm hw rfl hsent
  have htoken : (((s.request url body).fields.set .authorization value).values
      .authorization).head? = (received.fields.values .authorization).head? := by
    rw [ha.token, values_trimmedFields, Fields.values_set, if_pos rfl, List.map_singleton,
      trimmed_token hv]
  refine ⟨ha.method.symm, by rw [ha.target]; rfl, by rw [ha.target]; exact List.Perm.refl _,
    Or.inl htoken, fun n hne hn => ?_⟩
  -- a header that a verifier looks at is listed, so it was in the draft and nothing was added to it
  have hlisted : n.text ∈ c.listedNames := by
    rcases hn with rfl | hn | ⟨r, hr, hn⟩
    · exact List.mem_filter.mpr ⟨by decide, rfl⟩
    · exact hlists hn
    · exact hlists ⟨r, hr.of_head?_eq htoken.symm, hn⟩
  obtain ⟨v, hvalue⟩ := exists_values_fields s (mem_draftNames_of_listed hlisted)
  have hone : ((s.request url body).fields.set .authorization value).values n = [v] :=
    (Fields.values_set_of_ne _ hne value).trans hvalue
  have hreceived := ha.values n hlisted
  constructor
  · rw [Fields.has_iff, Fields.has_iff, hreceived, values_trimmedFields, hone]
    simp
  · intro _
    rw [← signedValue_trimmedFields hone, Coverage.signedValue, Coverage.signedValue, hreceived]

/-- **What the client sends, the service can verify.**  A request that was built is a post with that
very body and six headers, its token lists the host and those of the selected headers that it has,
and the service accepts whatever arrives of it while the token lasts. -/
theorem verifiable_of_build {request : Request}
    (h : (c.build uri body).result clock = .ok request) :
    Verifiable c uri body clock request := by
  obtain ⟨url, s, hurl, htarget, hs, hsigned⟩ := exists_draft_of_result_build h
  have hw := Url.written_of_parse hurl
  obtain ⟨-, hh, t, -, value, hv, rfl⟩ := Signer.result_authorize_eq_ok_iff.mp hsigned
  exact {
    method_eq := rfl
    body_eq := rfl
    names := names_set_authorization s value
    contentMd5 := by
      rw [Fields.values_set_of_ne _ (by decide)]
      exact congrArg (· :: []) (FieldValue.bytes_of_ofString? hs.contentMd5)
    token := by
      refine ⟨c.signer.issued (s.request url body) t, ?_, rfl, fun f hf => ?_, ?_⟩
      · rw [Fields.values_set, if_pos rfl]
        exact congrArg (· :: []) (FieldValue.bytes_of_ofString? hv)
      · exact (Signer.eq_or_isPlain_of_mem_fields hf).imp_right Signer.IsPlain.not_mem
      · rw [Signer.listed_issued hh]
        exact signedNames_fields s _
    sent := fun _ hurl hu => sentForm_of_result_build h hurl hu
    posted := result_post h
    accepted := fun hr hl sent received hsent ha clock' hn => by
      rw [← result_verify_of_lookAlike (lookAlike_of_arrives hw hsigned hsent ha)]
      exact Verifier.result_verify_of_verdict (verdict_of_in_time hsigned hr hl hn) }

/-- A call of the public service by a program whose name has blanks around it.  The clock moves on
between its readings, and a header comes in on the way. -/
theorem exists_verifiable : ∃ c request received,
    ofSettings { userAgent := " agent ", credentials := some ⟨110380, "AK", "SK"⟩ } = .ok c ∧
      (c.build "/x/../v1/create?b=1#f" "a=1").result
        (.stepping (.atSecond 1700000000) 1500000000) = .ok request ∧
      Verifiable c "/x/../v1/create?b=1#f" "a=1"
        (.stepping (.atSecond 1700000000) 1500000000) request ∧
      received.fields.has .traceId = true ∧
      ((Verifier.mk c.credentials).verify received).result
        (.fixed (.atSecond 1700001801)) = .ok () := by
  have hc : ofSettings { userAgent := " agent ", credentials := some ⟨110380, "AK", "SK"⟩ } =
      .ok ⟨defaultEndpoint, " agent ", ⟨110380, "AK", "SK"⟩, {}⟩ := by decide +kernel
  have hr : (Credentials.mk 110380 "AK" "SK").Readable := by decide +kernel
  have hurl : Url.parse (defaultEndpoint ++ "/x/../v1/create?b=1#f") =
      (Url.Authority.parse .http "120.48.16.137:8360".toList).map fun authority =>
        ⟨.http, authority, ["v1".toList, "create".toList], some "b=1", some "f"⟩ := by rfl
  rw [parse_authority_default] at hurl
  obtain ⟨request, h⟩ := exists_result_build
    ⟨defaultEndpoint, " agent ", ⟨110380, "AK", "SK"⟩, {}⟩ "/x/../v1/create?b=1#f" "a=1"
    (.stepping (.atSecond 1700000000) 1500000000) hurl (by decide +kernel) (by decide +kernel)
    ⟨by decide, by decide⟩ hr rfl
  have hv := verifiable_of_build h
  refine ⟨_, request, _, hc, h, hv, ?_, hv.accepted hr (by decide) _ _ (hv.sent _ hurl trivial)
    (.of_append _ [(.traceId, ⟨[0x74], by decide⟩)] (by decide +kernel) ?_) _ (by decide +kernel)⟩
  · simp [Fields.has]
  · obtain ⟨r, htoken, -⟩ := hv.token
    intro hnil
    rw [values_trimmedFields, List.map_eq_nil_iff] at hnil
    rw [hnil] at htoken
    exact absurd htoken (by simp)

end AssetAccess.Client
