import AssetAccess.Auth.Coverage
import AssetAccess.Proofs.Client.Build
import AssetAccess.Proofs.Http.Fields
/-!
# What leaves the client

A request to an address changes in two ways when it is sent.  The address is read once more, which
can give it another host but leaves path and query as they are (`exists_of_sentForm`); it stays the
same altogether unless the host has a label in coded form (`sentForm_of_result_build`).  And the
blanks around header values are gone, which were not signed in the first place
(`signedValue_trimmedFields`).

What a call comes to is up to what becomes of the sent form of its request, and to nothing else of
the service (`result_post`).
-/

namespace AssetAccess.Client

open AssetAccess.Action Auth Http

/-! ### Headers -/

theorem values_trimmedFields (f : Fields) (n : FieldName) :
    (trimmedFields f).values n = (f.values n).map FieldValue.trimmed := by
  simp only [trimmedFields, Fields.values, List.filter_map, List.map_map]
  rfl

/-- A header with one value has the same signed value when its blanks are gone. -/
theorem signedValue_trimmedFields {f : Fields} {n : FieldName} {v : FieldValue}
    (h : f.values n = [v]) :
    Coverage.signedValue (trimmedFields f) n = Coverage.signedValue f n := by
  rw [Coverage.signedValue, Coverage.signedValue, values_trimmedFields, h]
  simpa using v.trimBlanks_trimmed

/-! ### Addresses -/

section Addresses

variable {url : Url} {request sent : Request}

/-- What was sent to an address has its path and its query. -/
theorem exists_of_sentForm (hw : url.Written) (ht : request.target = .ofUrl url)
    (h : sentForm request = .ok sent) :
    ∃ host, sent = { request with
      target := .ofUrl { url with authority := { url.authority with host } }
      fields := trimmedFields request.fields } := by
  rw [sentForm, ht, Target.text_ofUrl, Url.parse_text hw.withoutFragment] at h
  cases hhost : Url.Host.parse url.authority.host.text.toList with
  | error fault =>
    simp [hhost, Except.map] at h
  | ok host =>
    have hread : Url.parse (Url.text { url with fragment := none }) =
        .ok { url with authority := { url.authority with host }, fragment := none } := by
      rw [Url.parse_text hw.withoutFragment, hhost]
      rfl
    simp only [hhost, Except.map] at h
    split at h
    · exact absurd h (by simp)
    · rename_i target htarget
      obtain rfl := Target.parse_text_eq_ok (Url.written_of_parse hread) htarget
      exact ⟨host, (Except.ok.inj h).symm⟩

/-- A request is sent to the address that it was made for, unless the host of the address has a
label in coded form. -/
theorem sentForm_eq_ok (hw : url.Written) (hu : url.authority.host.Uncoded)
    (hurl : Target.parse url.text = .ok (.ofUrl url)) (ht : request.target = .ofUrl url) :
    sentForm request = .ok { request with fields := trimmedFields request.fields } := by
  have hread := Url.parse_text_of_uncoded hw.withoutFragment hu
  rw [sentForm, ht, Target.text_ofUrl, hread]
  simp only [Target.parse_text_of_fragment hw hurl, ← ht]

/-- So is a request that was built, with its headers trimmed. -/
theorem sentForm_of_result_build {c : Client} {uri body : String} {clock : Clock}
    (h : (c.build uri body).result clock = .ok request)
    (hurl : Url.parse (c.endpoint ++ uri) = .ok url) (hu : url.authority.host.Uncoded) :
    sentForm request = .ok { request with fields := trimmedFields request.fields } := by
  obtain ⟨url', s, hurl', htarget, -, hsigned⟩ := exists_draft_of_result_build h
  obtain rfl := Except.ok.inj (hurl.symm.trans hurl')
  obtain ⟨-, -, t, -, value, -, rfl⟩ := Signer.result_authorize_eq_ok_iff.mp hsigned
  exact sentForm_eq_ok (Url.written_of_parse hurl) hu htarget rfl

end Addresses

/-! ### Calls -/

/-- What a call comes to when this becomes of its request. -/
def Delivery.reply (url : String) : Delivery → Except Error Reply
  | .answered response => .ok (Reply.of url response)
  | .unreachable | .closed => .error .http

/-- A call hands the sent form of its request to the service, and replies as that is answered. -/
theorem result_post {c : Client} {uri body : String} {clock : Clock} {request : Request}
    (hb : (c.build uri body).result clock = .ok request) (service : Request → Delivery) :
    (c.post service uri body).result clock =
      sentForm request >>= fun sent => (service sent).reply request.target.text := by
  rw [result_eq] at hb ⊢
  rcases hr : runFrom (c.build uri body) { clock } with ⟨r, s⟩
  rw [hr] at hb
  obtain rfl : r = .ok request := hb
  simp only [post, runFrom_bind, hr, runFrom_report, runFrom_ofExcept]
  cases sentForm request with
  | error e => rfl
  | ok sent =>
    dsimp only
    change _ = (service sent).reply request.target.text
    cases service sent <;> rfl

end AssetAccess.Client
