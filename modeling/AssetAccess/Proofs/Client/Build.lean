import AssetAccess.Client.Call
import AssetAccess.Proofs.Auth.Signer
import AssetAccess.Proofs.Http.Target
/-!
# Building a request

A request is built in three steps: the address is read, the request to it is drafted, and the draft
is signed (`result_build_eq_ok_iff`).  A draft has the parts of the address as its target and five
headers, and it can be made whenever the address has a target and the name of the client is a header
value (`draft_eq_ok_iff`, `exists_draft`).
-/

namespace AssetAccess.Client

open AssetAccess.Action Auth Http

variable {c : Client} {url : Url} {uri body : String} {second : Int} {clock : Clock}

theorem fieldValue_eq_ok_iff {s : String} {v : FieldValue} :
    fieldValue s = .ok v ↔ FieldValue.ofString? s = some v := by
  unfold fieldValue
  cases FieldValue.ofString? s <;> simp

/-- The five headers of a draft, each with one value. -/
structure Stamp where
  contentType : FieldValue
  host : FieldValue
  timestamp : FieldValue
  contentMd5 : FieldValue
  userAgent : FieldValue

namespace Stamp

/-- The headers of a stamp. -/
def fields (s : Stamp) : Fields :=
  ⟨[(.contentType, s.contentType), (.host, s.host), (.timestamp, s.timestamp),
    (.contentMd5, s.contentMd5), (.userAgent, s.userAgent)]⟩

/-- What the headers of a draft say. -/
structure Says (s : Stamp) (c : Client) (host : String) (second : Int) (body : String) : Prop where
  contentType : FieldValue.ofString? formContentType = some s.contentType
  host : FieldValue.ofString? host = some s.host
  timestamp : FieldValue.ofString? (Decimal.ofInt second) = some s.timestamp
  contentMd5 : FieldValue.ofString? (Hex.encode (Md5.digest (Text.utf8 body))) = some s.contentMd5
  userAgent : FieldValue.ofString? c.userAgent = some s.userAgent

end Stamp

theorem draftFields_eq_ok_iff {host : String} {f : Fields} :
    c.draftFields host second body = .ok f ↔
      ∃ s : Stamp, s.Says c host second body ∧ f = s.fields := by
  unfold draftFields
  simp only [bind_eq_ok_iff, fieldValue_eq_ok_iff]
  constructor
  · rintro ⟨contentType, h1, host, h2, timestamp, h3, contentMd5, h4, userAgent, h5, h⟩
    exact ⟨⟨contentType, host, timestamp, contentMd5, userAgent⟩, ⟨h1, h2, h3, h4, h5⟩,
      (Except.ok.inj h).symm⟩
  · rintro ⟨s, h, rfl⟩
    exact ⟨_, h.contentType, _, h.host, _, h.timestamp, _, h.contentMd5, _, h.userAgent, rfl⟩

/-- A draft is a post to the target of the address, with that very body. -/
theorem draft_eq_ok_iff (hw : url.Written) {d : Request} :
    c.draft url second body = .ok d ↔ Target.parse url.text = .ok (.ofUrl url) ∧
      ∃ s : Stamp, s.Says c url.authority.host.text second body ∧
        d = { method := .post, target := .ofUrl url, fields := s.fields, body } := by
  have htarget {t : Target} : (Target.parse url.text).mapError RequestFault.target = .ok t ↔
      Target.parse url.text = .ok t := by
    cases Target.parse url.text <;> simp [Except.mapError]
  unfold draft
  simp only [bind_eq_ok_iff, htarget, draftFields_eq_ok_iff]
  constructor
  · rintro ⟨t, ht, f, ⟨s, hs, rfl⟩, h⟩
    obtain rfl := Target.parse_text_eq_ok hw ht
    exact ⟨ht, s, hs, (Except.ok.inj h).symm⟩
  · rintro ⟨ht, s, hs, rfl⟩
    exact ⟨_, ht, _, ⟨s, hs, rfl⟩, rfl⟩

/-- **A request is built** exactly when the address can be read, a draft can be made at the first
reading of the clock, and the draft can be signed with what is left of the clock. -/
theorem result_build_eq_ok_iff {request : Request} :
    (c.build uri body).result clock = .ok request ↔
      ∃ url draft, Url.parse (c.endpoint ++ uri) = .ok url ∧
        c.draft url clock.unixSecond body = .ok draft ∧
        (c.signer.authorize draft).result clock.next = .ok request := by
  rw [result_eq, build]
  cases hurl : Url.parse (c.endpoint ++ uri) with
  | error fault =>
    simp [runFrom_throw]
  | ok url =>
    simp only [runFrom_bind, runFrom_unixSecond]
    constructor
    · intro h
      cases hdraft : c.draft url clock.unixSecond body with
      | error fault =>
        rw [hdraft] at h
        exact absurd h (by simp [runFrom_throw])
      | ok draft =>
        rw [hdraft] at h
        exact ⟨url, draft, rfl, hdraft, h⟩
    · rintro ⟨url', draft, hurl', hdraft, h⟩
      obtain rfl := Except.ok.inj hurl'
      rw [hdraft]
      exact h

/-- The draft with these headers. -/
def Stamp.request (s : Stamp) (url : Url) (body : String) : Request :=
  { method := .post, target := .ofUrl url, fields := s.fields, body }

/-- A request that was built is an authorized draft. -/
theorem exists_draft_of_result_build {request : Request}
    (h : (c.build uri body).result clock = .ok request) :
    ∃ (url : Url) (s : Stamp),
      Url.parse (c.endpoint ++ uri) = .ok url ∧ Target.parse url.text = .ok (.ofUrl url) ∧
        s.Says c url.authority.host.text clock.unixSecond body ∧
          (c.signer.authorize (s.request url body)).result clock.next = .ok request := by
  obtain ⟨url, draft, hurl, hdraft, hsigned⟩ := result_build_eq_ok_iff.mp h
  obtain ⟨ht, s, hs, rfl⟩ := (draft_eq_ok_iff (Url.written_of_parse hurl)).mp hdraft
  exact ⟨url, s, hurl, ht, hs, hsigned⟩

/-- A request that was built is a draft that carries the token which the client issued for it. -/
theorem exists_of_result_build {request : Request}
    (h : (c.build uri body).result clock = .ok request) :
    ∃ (url : Url) (s : Stamp) (t : Instant) (value : FieldValue),
      Url.parse (c.endpoint ++ uri) = .ok url ∧
        s.Says c url.authority.host.text clock.unixSecond body ∧
          Instant.of? (c.signer.dateSecond clock.next) 0 = some t ∧
            FieldValue.ofString? (c.signer.issued (s.request url body) t).text = some value ∧
              request =
                { s.request url body with fields := s.fields.set .authorization value } := by
  obtain ⟨url, s, hurl, -, hs, hsigned⟩ := exists_draft_of_result_build h
  obtain ⟨-, -, t, ht, value, hv, rfl⟩ := Signer.result_authorize_eq_ok_iff.mp hsigned
  exact ⟨url, s, t, value, hurl, hs, ht, hv, rfl⟩

/-! ### Requests that can be built -/

theorem exists_ofString?_of_forall_mem {s : String}
    (h : ∀ c ∈ s.toList, 32 ≤ c.toNat ∧ c.toNat < 127) : ∃ v, FieldValue.ofString? s = some v :=
  FieldValue.exists_ofString?_of_visible (visible_of_forall_mem h)

theorem exists_ofString?_of_isPlain {s : String} (h : Signer.IsPlain s) :
    ∃ v, FieldValue.ofString? s = some v := FieldValue.exists_ofString?_of_visible h.visible

/-- A digest in hexadecimal is a header value. -/
theorem isPlain_encode (l : List UInt8) : Signer.IsPlain (Hex.encode l) := by
  have digits : ∀ n < 16, Signer.isPlainChar (Hex.digit n) = true := by decide
  intro c hc
  rw [Hex.encode, String.toList_ofList, Hex.encodeChars] at hc
  obtain ⟨b, -, hc⟩ := List.mem_flatMap.mp hc
  have hlt := b.toNat_lt
  simp only [List.mem_cons, List.not_mem_nil, or_false] at hc
  rcases hc with rfl | rfl
  · exact digits _ (by omega)
  · exact digits _ (by omega)

/-- All headers of a draft but the name of the client are header values whatever the address, the
second and the body. -/
theorem exists_draft {s : String} (hurl : Url.parse s = .ok url)
    (ht : Target.parse url.text = .ok (.ofUrl url))
    (hua : (FieldValue.ofString? c.userAgent).isSome = true) (second : Int) (body : String) :
    ∃ d, c.draft url second body = .ok d ∧ d.fields.has .host = true := by
  have hw := Url.written_of_parse hurl
  have hhost : ∃ v, FieldValue.ofString? url.authority.host.text = some v := by
    refine exists_ofString?_of_forall_mem fun c hc => ?_
    have := hw.host c hc
    simp only [Url.isHostChar, Bool.and_eq_true, decide_eq_true_eq] at this
    omega
  obtain ⟨contentType, h1⟩ : ∃ v, FieldValue.ofString? formContentType = some v :=
    exists_ofString?_of_forall_mem (List.forall_iff_forall_mem.mp (by decide +kernel))
  obtain ⟨host, h2⟩ := hhost
  obtain ⟨timestamp, h3⟩ := exists_ofString?_of_isPlain (Signer.isPlain_ofInt second)
  obtain ⟨contentMd5, h4⟩ :=
    exists_ofString?_of_isPlain (isPlain_encode (Md5.digest (Text.utf8 body)))
  obtain ⟨userAgent, h5⟩ := Option.isSome_iff_exists.mp hua
  exact ⟨_, (draft_eq_ok_iff hw).mpr
    ⟨ht, ⟨contentType, host, timestamp, contentMd5, userAgent⟩, ⟨h1, h2, h3, h4, h5⟩, rfl⟩, rfl⟩

/-- A request is built for each address that has a target, if the name of the client is a header
value, the keys can be signed with, and the calendar reaches the sign date. -/
theorem exists_result_build (c : Client) (uri body : String) (clock : Clock) {t : Instant}
    (hurl : Url.parse (c.endpoint ++ uri) = .ok url)
    (ht : Target.parse url.text = .ok (.ofUrl url))
    (hua : (FieldValue.ofString? c.userAgent).isSome = true)
    (hc : c.credentials.Complete) (hr : c.credentials.Readable)
    (hs : Instant.of? (c.signer.dateSecond clock.next) 0 = some t) :
    ∃ request, (c.build uri body).result clock = .ok request := by
  obtain ⟨d, hd, hh⟩ := exists_draft hurl ht hua clock.unixSecond body
  obtain ⟨signed, hsigned⟩ := Signer.exists_result_authorize c.signer d clock.next hc hr hh hs
  exact ⟨signed, result_build_eq_ok_iff.mpr ⟨url, d, hurl, hd, hsigned⟩⟩

/-- The server of the public service. -/
theorem parse_authority_default : Url.Authority.parse .http "120.48.16.137:8360".toList =
    .ok ⟨"", .ipv4 ⟨0x78301089⟩, some 8360⟩ := by
  have hhost : Url.Host.parse "120.48.16.137".toList = .ok (.ipv4 ⟨0x78301089⟩) := by
    rw [← Url.Host.parse_text_ipv4]
    exact congrArg Url.Host.parse (by decide +kernel)
  have hauthority : Url.Authority.parse .http "120.48.16.137:8360".toList =
      (Url.Host.parse "120.48.16.137".toList).map fun host => ⟨"", host, some 8360⟩ := by rfl
  rw [hauthority, hhost]
  rfl

end AssetAccess.Client
