import AssetAccess.Proofs.Auth.RoundTrip
import Mathlib.Logic.Relation
/-!
# What a verifier does not look at

Two requests that look alike to a verifier are answered alike, whatever the answer is: `LookAlike`
asks for the method, the path, the signed pairs of the query, the token up to the order of its
names, and the headers that the token lists, and for nothing else.  So the order of headers and
query segments, headers that are not listed, and names in the list that no header has do not matter.

An authorized request can be edited wherever the token does not cover it.  Each `Edit` keeps what
the token covers (`Edit.keeps`), so every run of edits does (`keeps_of_edits`), and requests
with the same covered parts look alike.
-/

namespace AssetAccess.Auth

/-! ### Requests that look alike -/

/-- The request has a header of this name. -/
def HasHeader (request : Http.Request) (name : String) : Prop :=
  ∃ n : Http.FieldName, n.text = name ∧ request.fields.has n = true

/-- The request carries a token that lists this name. -/
def Lists (request : Http.Request) (name : String) : Prop :=
  ∃ r, Carries request r ∧ name ∈ r.listed

/-- Both requests carry tokens, which differ in the listed names only.  Both lists name the host,
and a name that only one of them has is either `authorization` or carried by neither request. -/
def TokensAlike (a b : Http.Request) : Prop :=
  ∃ r names, Carries a r ∧ Carries b { r with names } ∧
    Lists a "host" ∧ Lists b "host" ∧
    ∀ name, (Lists a name ↔ Lists b name) ∨ name = "authorization" ∨
      (¬ HasHeader a name ∧ ¬ HasHeader b name)

/-- Both messages have a header with the same signed value, or neither has it. -/
def SeenAlike (f g : Http.Fields) (n : Http.FieldName) : Prop :=
  (f.has n = true ↔ g.has n = true) ∧
    (f.has n = true → Coverage.signedValue f n = Coverage.signedValue g n)

/-- A verifier sees no difference between the requests. -/
structure LookAlike (a b : Http.Request) : Prop where
  method : a.method = b.method
  path : relativePath a.target.path = relativePath b.target.path
  query : (Query.pairs (a.target.query.getD "")).Perm (Query.pairs (b.target.query.getD ""))
  token : (a.fields.values .authorization).head? = (b.fields.values .authorization).head? ∨
    TokensAlike a b
  headers : ∀ n, n ≠ .authorization → (n = .host ∨ Lists a n.text ∨ Lists b n.text) →
    SeenAlike a.fields b.fields n

variable {a b : Http.Request} {r r' : RawToken}

theorem lists_iff (hr : Carries a r) {name : String} : Lists a name ↔ name ∈ r.listed := by
  constructor
  · rintro ⟨r', hr', h⟩
    rwa [hr.unique hr']
  · intro h
    exact ⟨r, hr, h⟩

/-- Whether a request carries a token is up to its oldest authorization value. -/
theorem Carries.of_head?_eq
    (h : (a.fields.values .authorization).head? = (b.fields.values .authorization).head?)
    (hr : Carries a r) : Carries b r := by
  obtain ⟨value, hv, hr⟩ := hr
  exact ⟨value, h ▸ hv, hr⟩

/-- Tokens that select the carried headers alike cover the same headers. -/
theorem covered_eq_of_lookAlike (h : LookAlike a b) (hr : Carries a r) (hr' : Carries b r')
    (hn : ∀ name, (name ∈ r.listed ↔ name ∈ r'.listed) ∨ name = "authorization" ∨
      (¬ HasHeader a name ∧ ¬ HasHeader b name)) :
    Coverage.covered a.fields (.ofList r.listed) =
      Coverage.covered b.fields (.ofList r'.listed) := by
  have seen {n : Http.FieldName} (ha : n ≠ .authorization)
      (hl : n = .host ∨ n.text ∈ r.listed ∨ n.text ∈ r'.listed) : SeenAlike a.fields b.fields n :=
    h.headers n ha (hl.imp_right (Or.imp (lists_iff hr).mpr (lists_iff hr').mpr))
  -- a header that one of the requests carries is on both lists or on none
  have listed {n : Http.FieldName} (ha : n ≠ .authorization)
      (hc : a.fields.has n = true ∨ b.fields.has n = true) :
      n.text ∈ r.listed ↔ n.text ∈ r'.listed := by
    rcases hn n.text with h | h | h
    · exact h
    · exact absurd (Coverage.fieldName_ext h) ha
    · rcases hc with hc | hc
      · exact absurd ⟨n, rfl, hc⟩ h.1
      · exact absurd ⟨n, rfl, hc⟩ h.2
  refine Coverage.covered_eq_of_forall (fun n => ?_) fun n hn => ?_
  · simp only [Coverage.mem_coveredNames, NameSet.mem_ofList]
    constructor
    · rintro ⟨hc, ha, hl⟩
      exact ⟨(seen ha (hl.imp_right Or.inl)).1.mp hc, ha, hl.imp_right (listed ha (Or.inl hc)).mp⟩
    · rintro ⟨hc, ha, hl⟩
      exact ⟨(seen ha (hl.imp_right Or.inr)).1.mpr hc, ha, hl.imp_right (listed ha (Or.inr hc)).mpr⟩
  · obtain ⟨hc, ha, hl⟩ := Coverage.mem_coveredNames.mp hn
    exact (seen ha (hl.imp_right fun hl => Or.inl (NameSet.mem_ofList.mp hl))).2 hc

theorem SeenAlike.symm {f g : Http.Fields} {n : Http.FieldName} (h : SeenAlike f g n) :
    SeenAlike g f n := ⟨h.1.symm, fun hg => (h.2 (h.1.mpr hg)).symm⟩

theorem LookAlike.symm (h : LookAlike a b) : LookAlike b a where
  method := h.method.symm
  path := h.path.symm
  query := h.query.symm
  token := by
    refine h.token.imp Eq.symm ?_
    rintro ⟨r, names, hr, hr', ha, hb, hn⟩
    refine ⟨{ r with names }, r.names, hr', hr, hb, ha, fun name => ?_⟩
    exact (hn name).imp Iff.symm (Or.imp_right And.symm)
  headers n hn hl := (h.headers n hn (hl.imp_right Or.symm)).symm

/-! ### Requests that look alike are answered alike -/

/-- The tokens of two requests pass and fail the same checks. -/
structure ReadAlike (a b : Http.Request) (r r' : RawToken) : Prop where
  tag : r.tag = r'.tag
  lifetime : r.lifetime = r'.lifetime
  date : r.date = r'.date
  signature : r.signature = r'.signature
  host : "host" ∈ r.listed ↔ "host" ∈ r'.listed
  expected (secret : String) : r.expected a secret = r'.expected b secret

theorem ReadAlike.lastsFor_iff (h : ReadAlike a b r r') {n : Int} :
    r.LastsFor n ↔ r'.LastsFor n := by
  rw [RawToken.LastsFor, RawToken.LastsFor, h.lifetime]

theorem expected_eq_of_lookAlike (h : LookAlike a b) (hs : r.scope = r'.scope)
    (hc : Coverage.covered a.fields (.ofList r.listed) =
      Coverage.covered b.fields (.ofList r'.listed)) (secret : String) :
    r.expected a secret = r'.expected b secret := by
  rw [RawToken.expected, RawToken.expected, hs,
    CanonicalRequest.text_eq_iff.mpr ⟨h.method, h.path, h.query, hc⟩]

/-- A request that looks like one with a token has a token that passes and fails the same checks. -/
theorem LookAlike.exists_readAlike (h : LookAlike a b) (hr : Carries a r) :
    ∃ r', Carries b r' ∧ ReadAlike a b r r' := by
  rcases h.token with ht | ⟨r₀, names, hr₀, hr', ha, hb, hn⟩
  · have hr' := hr.of_head?_eq ht
    refine ⟨r, hr', rfl, rfl, rfl, rfl, Iff.rfl, ?_⟩
    exact expected_eq_of_lookAlike h rfl (covered_eq_of_lookAlike h hr hr' fun _ => Or.inl Iff.rfl)
  · -- the two tokens share their scope, and their lists select the same headers
    obtain rfl := hr.unique hr₀
    simp only [lists_iff hr, lists_iff hr'] at ha hb hn
    refine ⟨_, hr', rfl, rfl, rfl, rfl, iff_of_true ha hb, ?_⟩
    exact expected_eq_of_lookAlike h rfl (covered_eq_of_lookAlike h hr hr' hn)

theorem verdict_of_lookAlike {c : Credentials} {now : Int} {x : Except Error Unit}
    (h : LookAlike a b) (hv : Verdict c a now x) : Verdict c b now x := by
  cases hv with
  | emptyAccessKeyId hid => exact .emptyAccessKeyId hid
  | emptySecretAccessKey hid hs => exact .emptySecretAccessKey hid hs
  | malformedToken hc hr =>
    -- a token of the second request would give the first one a token
    refine .malformedToken hc fun r' hr' => ?_
    obtain ⟨r, hra, -⟩ := h.symm.exists_readAlike hr'
    exact hr r hra
  | unsupportedVersion hc hr ht =>
    obtain ⟨r', hr', hread⟩ := h.exists_readAlike hr
    exact .unsupportedVersion hc hr' (hread.tag ▸ ht)
  | expirationOutOfRange hc hr ht hl =>
    obtain ⟨r', hr', hread⟩ := h.exists_readAlike hr
    exact .expirationOutOfRange hc hr' (hread.tag ▸ ht) fun n hn => hl n (hread.lastsFor_iff.mpr hn)
  | badDateField hc hr ht hl hd =>
    obtain ⟨r', hr', hread⟩ := h.exists_readAlike hr
    exact .badDateField hc hr' (hread.tag ▸ ht) (hread.lastsFor_iff.mp hl) (hread.date ▸ hd)
  | expired hc hr ht hl hd hn =>
    obtain ⟨r', hr', hread⟩ := h.exists_readAlike hr
    exact .expired hc hr' (hread.tag ▸ ht) (hread.lastsFor_iff.mp hl) (hread.date ▸ hd) hn
  | missingHost hc hr ht hl hd hn hh =>
    obtain ⟨r', hr', hread⟩ := h.exists_readAlike hr
    exact .missingHost hc hr' (hread.tag ▸ ht) (hread.lastsFor_iff.mp hl) (hread.date ▸ hd) hn
      (mt hread.host.mpr hh)
  | signatureMismatch hc hr ht hl hd hn hh hs =>
    obtain ⟨r', hr', hread⟩ := h.exists_readAlike hr
    refine .signatureMismatch hc hr' (hread.tag ▸ ht) (hread.lastsFor_iff.mp hl) (hread.date ▸ hd)
      hn (hread.host.mp hh) ?_
    rwa [← hread.signature, ← hread.expected]
  | accepted hc hr ht hl hd hn hh hs =>
    obtain ⟨r', hr', hread⟩ := h.exists_readAlike hr
    refine .accepted hc hr' (hread.tag ▸ ht) (hread.lastsFor_iff.mp hl) (hread.date ▸ hd) hn
      (hread.host.mp hh) ?_
    rwa [← hread.signature, ← hread.expected]

theorem result_verify_of_lookAlike (h : LookAlike a b) (v : Verifier) (clock : Clock) :
    (v.verify a).result clock = (v.verify b).result clock :=
  (Verifier.result_verify_of_verdict
    (verdict_of_lookAlike h (v.verdict_result_verify a clock))).symm

/-! ### Edits -/

/-- The segments of a raw query that are not empty. -/
def Query.segments (raw : String) : List (List Char) :=
  (raw.toList.splitOn '&').filter (!·.isEmpty)

/-- One change to a request that leaves alone the headers of these names and the token. -/
inductive Edit (listed : List String) : Http.Request → Http.Request → Prop where
  | set (a : Http.Request) {n : Http.FieldName} (hn : n.text ∉ listed) (ha : n ≠ .authorization)
      (value : Http.FieldValue) : Edit listed a { a with fields := a.fields.set n value }
  | append (a : Http.Request) {n : Http.FieldName} (hn : n.text ∉ listed) (ha : n ≠ .authorization)
      (value : Http.FieldValue) : Edit listed a { a with fields := a.fields.append n value }
  | erase (a : Http.Request) {n : Http.FieldName} (hn : n.text ∉ listed) (ha : n ≠ .authorization) :
      Edit listed a { a with fields := a.fields.erase n }
  /-- The headers come in another order, and the values of each name in the same one. -/
  | reorder (a : Http.Request) {fields : Http.Fields}
      (hv : ∀ n, fields.values n = a.fields.values n) : Edit listed a { a with fields }
  /-- The segments of the query come in another order, with or without empty ones between them. -/
  | arrange (a : Http.Request) {query : Option String}
      (hq : (Query.segments (query.getD "")).Perm (Query.segments (a.target.query.getD ""))) :
      Edit listed a { a with target := { a.target with query } }
  /-- A pair whose key is `authorization`, in any case, comes into the query. -/
  | addToken (a : Http.Request) {query : Option String} {segment : List Char}
      (hs : Text.lower (Query.pair segment).1 = "authorization")
      (hq : (Query.segments (query.getD "")).Perm
        (segment :: Query.segments (a.target.query.getD ""))) :
      Edit listed a { a with target := { a.target with query } }

/-- The second request has what a token covers as the first one has it. -/
structure Keeps (listed : List String) (a b : Http.Request) : Prop where
  method : b.method = a.method
  path : b.target.path = a.target.path
  query : (Query.pairs (b.target.query.getD "")).Perm (Query.pairs (a.target.query.getD ""))
  token : b.fields.values .authorization = a.fields.values .authorization
  values : ∀ n, n.text ∈ listed → b.fields.values n = a.fields.values n

variable {listed : List String}

theorem Keeps.refl (a : Http.Request) : Keeps listed a a :=
  ⟨rfl, rfl, List.Perm.refl _, rfl, fun _ _ => rfl⟩

theorem Keeps.trans {c : Http.Request} (h : Keeps listed a b) (h' : Keeps listed b c) :
    Keeps listed a c where
  method := h'.method.trans h.method
  path := h'.path.trans h.path
  query := h'.query.trans h.query
  token := h'.token.trans h.token
  values n hn := (h'.values n hn).trans (h.values n hn)

/-- Headers matter only through the values of the names that the token lists. -/
theorem Keeps.of_fields {fields : Http.Fields}
    (ha : fields.values .authorization = a.fields.values .authorization)
    (hv : ∀ n : Http.FieldName, n.text ∈ listed → fields.values n = a.fields.values n) :
    Keeps listed a { a with fields } := ⟨rfl, rfl, List.Perm.refl _, ha, hv⟩

/-- The query matters only through its signed pairs. -/
theorem Keeps.of_query {query : Option String}
    (hq : (Query.pairs (query.getD "")).Perm (Query.pairs (a.target.query.getD ""))) :
    Keeps listed a { a with target := { a.target with query } } :=
  ⟨rfl, rfl, hq, rfl, fun _ _ => rfl⟩

theorem Query.pairs_eq (raw : String) :
    pairs raw = ((segments raw).map pair).filter (Text.lower ·.1 != "authorization") := rfl

/-- An edit keeps what the token covers. -/
theorem Edit.keeps (h : Edit listed a b) : Keeps listed a b := by
  -- a name that is edited is neither listed nor that of the token
  have ne_of {n m : Http.FieldName} (hn : n.text ∉ listed) (hm : m.text ∈ listed) : n ≠ m := by
    rintro rfl
    exact hn hm
  cases h with
  | set hn ha value =>
    refine .of_fields ?_ fun m hm => ?_
    · rw [Http.Fields.values_set, if_neg ha]
    · rw [Http.Fields.values_set, if_neg (ne_of hn hm)]
  | append hn ha value =>
    refine .of_fields ?_ fun m hm => ?_
    · rw [Http.Fields.values_append, if_neg ha]
    · rw [Http.Fields.values_append, if_neg (ne_of hn hm)]
  | erase hn ha =>
    refine .of_fields ?_ fun m hm => ?_
    · rw [Http.Fields.values_erase, if_neg ha]
    · rw [Http.Fields.values_erase, if_neg (ne_of hn hm)]
  | reorder hv => exact .of_fields (hv _) fun m _ => hv m
  | arrange hq =>
    refine .of_query ?_
    rw [Query.pairs_eq, Query.pairs_eq]
    exact (hq.map _).filter _
  | addToken hs hq =>
    refine .of_query ?_
    rw [Query.pairs_eq, Query.pairs_eq]
    have h := (hq.map Query.pair).filter (Text.lower ·.1 != "authorization")
    rwa [List.map_cons, List.filter_cons_of_neg (by simp [hs])] at h

/-- A run of edits keeps what the token covers. -/
theorem keeps_of_edits (h : Relation.ReflTransGen (Edit listed) a b) : Keeps listed a b := by
  induction h with
  | refl => exact Keeps.refl a
  | tail _ hstep ih => exact ih.trans hstep.keeps

/-- Requests look alike when the second one keeps the host and the headers that the token lists. -/
theorem Keeps.lookAlike (h : Keeps listed a b) (hhost : "host" ∈ listed)
    (hl : ∀ name, Lists a name → name ∈ listed) : LookAlike a b where
  method := h.method.symm
  path := congrArg relativePath h.path.symm
  query := h.query.symm
  token := Or.inl (congrArg List.head? h.token.symm)
  headers n _ hn := by
    have hv : b.fields.values n = a.fields.values n := by
      refine h.values n ?_
      rcases hn with rfl | hn | ⟨r, hr, hn⟩
      · exact hhost
      · exact hl _ hn
      · exact hl _ ⟨r, hr.of_head?_eq (congrArg List.head? h.token), hn⟩
    refine ⟨?_, fun _ => ?_⟩
    · rw [Http.Fields.has_iff, Http.Fields.has_iff, hv]
    · rw [Coverage.signedValue, Coverage.signedValue, hv]

/-- The token of an authorized request lists the headers that it covers. -/
theorem mem_signedNames_of_lists {s : Signer} {clock : Clock} {request signed : Http.Request}
    (h : (s.authorize request).result clock = .ok signed) {name : String}
    (hn : Lists signed name) :
    name ∈ Coverage.signedNames request.fields s.options.effectiveHeaders := by
  obtain ⟨-, hh, t, -, value, hv, rfl⟩ := Signer.result_authorize_eq_ok_iff.mp h
  obtain ⟨r, hr, hname⟩ := hn
  have hissued := carries_authorized hv ((exists_carries_authorized_iff hv).mp ⟨r, hr⟩)
  rwa [hr.unique hissued, Signer.listed_issued hh] at hname

/-- **A verifier looks at nothing else.**  Requests that look alike get the same answer, and so does
an authorized request after any run of edits outside what its token covers. -/
theorem result_verify_indifferent :
    (∀ a b : Http.Request, LookAlike a b → ∀ (v : Verifier) (clock : Clock),
      (v.verify a).result clock = (v.verify b).result clock) ∧
    ∀ (s : Signer) (clock : Clock) (request signed edited : Http.Request),
      (s.authorize request).result clock = .ok signed →
      Relation.ReflTransGen
        (Edit (Coverage.signedNames request.fields s.options.effectiveHeaders)) signed edited →
      ∀ (v : Verifier) (clock' : Clock),
        (v.verify edited).result clock' = (v.verify signed).result clock' := by
  refine ⟨fun a b h v clock => result_verify_of_lookAlike h v clock, ?_⟩
  intro s clock request signed edited h hedits v clock'
  have hhost : "host" ∈ Coverage.signedNames request.fields s.options.effectiveHeaders := by
    obtain ⟨-, hh, -⟩ := Signer.result_authorize_eq_ok_iff.mp h
    exact Coverage.mem_signedNames.mpr ⟨.host, Coverage.mem_coveredNames_of_has hh, rfl⟩
  have halike := (keeps_of_edits hedits).lookAlike hhost fun _ => mem_signedNames_of_lists h
  exact (result_verify_of_lookAlike halike v clock').symm

/-- Two requests that differ in the slash of the path, in the order of segments and headers, in a
pair and a header that are not signed, in the blanks around the host and in the list of names; and
an authorized request that is given a header which its token does not list. -/
theorem exists_result_verify_indifferent : ∃ a b signed : Http.Request,
    LookAlike a b ∧ a.fields.values .authorization ≠ b.fields.values .authorization ∧
    (∀ (v : Verifier) (clock : Clock), (v.verify a).result clock = (v.verify b).result clock) ∧
    ((Signer.mk ⟨0, "id", "secret"⟩ { timestamp := 1700000000 }).authorize
      ⟨.post, ⟨none, none, "/", none⟩, ⟨[(.host, ⟨[0x68], by decide⟩)]⟩, ""⟩).result
        (.fixed .epoch) = .ok signed ∧
    ∀ (v : Verifier) (clock : Clock),
      (v.verify { signed with fields := signed.fields.set .traceId ⟨[0x74], by decide⟩ }).result
        clock = (v.verify signed).result clock := by
  have hid : (Credentials.mk 0 "id" "secret").Readable := by decide +kernel
  obtain ⟨signed, h⟩ := Signer.exists_result_authorize
    ⟨⟨0, "id", "secret"⟩, { timestamp := 1700000000 }⟩
    ⟨.post, ⟨none, none, "/", none⟩, ⟨[(.host, ⟨[0x68], by decide⟩)]⟩, ""⟩
    (.fixed .epoch) ⟨by decide, by decide⟩ hid (by decide) rfl
  let a : Http.Request := ⟨.post, ⟨none, none, "/p", some "b=1&a=2"⟩,
    ⟨[(.authorization, ⟨Text.utf8 "v/i/d/l/host/s", by decide +kernel⟩),
      (.host, ⟨[0x68], by decide⟩)]⟩, ""⟩
  let b : Http.Request := ⟨.post, ⟨none, none, "p", some "&a=2&b=1&Authorization=t"⟩,
    ⟨[(.traceId, ⟨[0x74], by decide⟩), (.host, ⟨[0x20, 0x68], by decide⟩),
      (.authorization, ⟨Text.utf8 "v/i/d/l/host;host/s", by decide +kernel⟩)]⟩, ""⟩
  have hr : Carries a ⟨"v", "i", "d", "l", "host", "s"⟩ :=
    ⟨_, rfl, by decide +kernel, by decide +kernel, by decide +kernel⟩
  have hr' : Carries b ⟨"v", "i", "d", "l", "host;host", "s"⟩ :=
    ⟨_, rfl, by decide +kernel, by decide +kernel, by decide +kernel⟩
  have hl (name : String) : Lists a name ↔ name = "host" := by
    rw [lists_iff hr, show RawToken.listed ⟨_, _, _, _, "host", _⟩ = ["host"] by decide +kernel,
      List.mem_singleton]
  have hl' (name : String) : Lists b name ↔ name = "host" := by
    rw [lists_iff hr', show RawToken.listed ⟨_, _, _, _, "host;host", _⟩ = ["host", "host"] by
      decide +kernel]
    simp
  have halike : LookAlike a b := by
    refine ⟨rfl, by decide +kernel, by decide +kernel, Or.inr ⟨_, _, hr, hr', (hl _).mpr rfl,
      (hl' _).mpr rfl, fun name => Or.inl ((hl name).trans (hl' name).symm)⟩, fun n _ hn => ?_⟩
    rw [hl, hl', or_self] at hn
    obtain rfl : n = .host := hn.elim id (@Coverage.fieldName_ext n .host)
    exact ⟨by decide, by decide⟩
  refine ⟨a, b, signed, halike, by decide +kernel, result_verify_indifferent.1 a b halike, h,
    result_verify_indifferent.2 _ _ _ signed _ h (.single (.set signed ?_ (by decide) _))⟩
  decide +kernel

end AssetAccess.Auth
