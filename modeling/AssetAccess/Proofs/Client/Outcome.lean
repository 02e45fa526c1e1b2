import AssetAccess.Proofs.Client.Build
import AssetAccess.Proofs.Client.Envelope
import AssetAccess.Proofs.Client.Delivery
/-!
# What comes of a call

`Outcome status body x` states what a caller is told about a response: an unexpected status, the
error of the server, the value of the body, or that the body cannot be read.  A call whose request
is answered has the outcome of the answer, and no other (`result_postForm_iff`).

The body is read twice.  The envelope is read from the form of the body alone, so an error of the
server is reported even where the rest has no value.  A value is given only together with an
envelope whose error number is 0, and shows no other number as that of the error, unless the body
wraps a text.  Then the value is that of the text, of which the envelope knows nothing
(`Outcome.of_wraps`), and the text can report an error (`exists_result_postForm_wrapper`).
-/

namespace AssetAccess.Client

open AssetAccess.Action Auth Http Json

/-- What a caller is told about a response. -/
inductive Outcome (status : Nat) (body : String) : Except Error Value → Prop where
  | unexpectedStatus (hs : status ≠ 200) :
      Outcome status body (.error (.unexpectedStatus status body))
  | server (hs : status = 200) {t : Tree} {e : Envelope} (ht : Tree.IsText t body)
      (he : Envelope.Describes t e) (hn : e.errno ≠ 0) :
      Outcome status body (.error (.server e.errno e.errmsg e.requestId))
  | value (hs : status = 200) {t : Tree} {e : Envelope} {v : Value} (ht : Tree.IsText t body)
      (he : Envelope.Describes t e) (hn : e.errno = 0) (hv : Value.Denotes true 127 t v) :
      Outcome status body (.ok v)
  | json (hs : status = 200)
      (h : ∀ t e, Tree.IsText t body → Envelope.Describes t e →
        e.errno = 0 ∧ ∀ v, ¬ Value.Denotes true 127 t v) :
      Outcome status body (.error .json)

/-! ### Taking a reply apart -/

section Replies

variable {α : Type} (decode : String → Option α)

/-- The result of taking a reply apart: it depends on the status and the body alone. -/
def unwrapped (status : Nat) (body : String) : Except Error α :=
  if status ≠ 200 then .error (.unexpectedStatus status body)
  else match Envelope.parse? body with
    | none => .error .json
    | some e =>
      if e.errno ≠ 0 then .error (.server e.errno e.errmsg e.requestId)
      else match decode body with
        | some a => .ok a
        | none => .error .json

/-- The event that warns of a reply, if one does. -/
def warning? (r : Reply) : Option LogEvent :=
  if r.status ≠ 200 then some (.refusedStatus r.url r.status r.traceId r.body)
  else match Envelope.parse? r.body with
    | none => some (.undecodable r.url r.traceId)
    | some e =>
      if e.errno ≠ 0 then
        some (.refusedByServer r.url r.traceId e.requestId e.errno e.errmsg)
      else none

/-- Taking a reply apart reports the warning, and nothing else. -/
theorem runFrom_unwrap (r : Reply) (s : Surroundings) :
    runFrom (unwrap decode r) s = (unwrapped decode r.status r.body,
      { s with events := s.events ++ (warning? r).toList }) := by
  unfold unwrap unwrapped warning?
  by_cases hs : r.status = 200
  · cases Envelope.parse? r.body with
    | none =>
      simp only [hs, ne_eq, not_true_eq_false, if_false]
      rfl
    | some e =>
      by_cases hn : e.errno = 0
      · simp only [hs, hn, ne_eq, not_true_eq_false, if_false, Option.toList_none, List.append_nil]
        cases decode r.body <;> rfl
      · simp only [hs, hn, ne_eq, not_true_eq_false, not_false_eq_true, if_false, if_true]
        rfl
  · simp only [hs, ne_eq, not_false_eq_true, if_true]
    rfl

end Replies

section Outcomes

variable {status : Nat} {body : String} {x : Except Error Value}

theorem outcome_unwrapped (status : Nat) (body : String) :
    Outcome status body (unwrapped Value.parse? status body) := by
  unfold unwrapped
  split
  · rename_i hs
    exact .unexpectedStatus hs
  rename_i hs
  have hs : status = 200 := not_not.mp hs
  cases henvelope : Envelope.parse? body with
  | none =>
    refine .json hs fun t e ht he => ?_
    rw [Envelope.parse?_eq_some_iff.mpr ⟨t, ht, he⟩] at henvelope
    exact absurd henvelope (by simp)
  | some e =>
    obtain ⟨t, ht, he⟩ := Envelope.parse?_eq_some_iff.mp henvelope
    dsimp only
    split
    · rename_i hn
      exact .server hs ht he hn
    · rename_i hn
      have hn : e.errno = 0 := not_not.mp hn
      cases hvalue : Value.parse? body with
      | some v =>
        -- the two readings are of one tree
        obtain ⟨t', ht', hv⟩ := Value.parse?_eq_some_iff.mp hvalue
        obtain rfl := ht.unique ht'
        exact .value hs ht he hn hv
      | none =>
        refine .json hs fun t' e' ht' he' => ⟨?_, fun v hv => ?_⟩
        · rw [Envelope.parse?_eq_some_iff.mpr ⟨t', ht', he'⟩] at henvelope
          rwa [Option.some.inj henvelope]
        · rw [Value.parse?_eq_some_iff.mpr ⟨t', ht', hv⟩] at hvalue
          exact absurd hvalue (by simp)

theorem unwrapped_of_outcome (h : Outcome status body x) :
    unwrapped Value.parse? status body = x := by
  unfold unwrapped
  cases h with
  | unexpectedStatus hs => exact if_pos hs
  | server hs ht he hn =>
    rw [if_neg (not_not.mpr hs), Envelope.parse?_eq_some_iff.mpr ⟨_, ht, he⟩]
    exact if_pos hn
  | value hs ht he hn hv =>
    rw [if_neg (not_not.mpr hs), Envelope.parse?_eq_some_iff.mpr ⟨_, ht, he⟩]
    dsimp only
    rw [if_neg (not_not.mpr hn), Value.parse?_eq_some_iff.mpr ⟨_, ht, hv⟩]
  | json hs h =>
    rw [if_neg (not_not.mpr hs)]
    cases henvelope : Envelope.parse? body with
    | none => rfl
    | some e =>
      obtain ⟨t, ht, he⟩ := Envelope.parse?_eq_some_iff.mp henvelope
      obtain ⟨hn, hno⟩ := h t e ht he
      dsimp only
      rw [if_neg (not_not.mpr hn)]
      cases hvalue : Value.parse? body with
      | none => rfl
      | some v =>
        obtain ⟨t', ht', hv⟩ := Value.parse?_eq_some_iff.mp hvalue
        obtain rfl := ht.unique ht'
        exact absurd hv (hno v)

/-- The body of a value that is given carries no error number but 0, and the value shows no other
unless the body wraps a text. -/
theorem Outcome.errno_eq_zero {v : Value} (h : Outcome status body (.ok v)) :
    (∀ t t', Tree.IsText t body → Record.Carries "errno" 1 t t' → t'.IsInt64 0) ∧
      ∀ t, Tree.IsText t body → ¬ t.IsWrapper →
        ∀ w, Record.Shows "errno" 1 v w → w = .integer 0 := by
  cases h with
  | value hs ht he hn hv =>
    refine ⟨fun t' t'' ht' hc => ?_, fun t' ht' hplain w hw => ?_⟩
    · obtain rfl := ht.unique ht'
      rw [← hn]
      exact (he.carries t'').2.1 hc
    · obtain rfl := ht.unique ht'
      have h := (he.shows hv (fun _ => hplain) w).2.1 hw
      rwa [hn] at h

/-- A body that wraps a text is a success whatever the text says, and its value is that of the
text. -/
theorem Outcome.of_wraps {t t' : Tree} {s : String} {v : Value} (hs : status = 200)
    (ht : Tree.IsText t body) (hw : t.Wraps s) (ht' : Tree.IsText t' s)
    (hv : Value.Denotes true 127 t' v) : Outcome status body (.ok v) := by
  have he := Envelope.describes_of_wraps hw
  cases hw with
  | object source hk hinside =>
    exact .value hs ht he rfl (.wrapper rfl (.object source hk hinside) ht' hv)

end Outcomes

/-! ### Calls -/

section Calls

variable {c : Client} {service : Request → Delivery} {uri body : String} {clock : Clock}
  {request sent : Request} {response : Response}

/-- A call whose request is answered gives the answer as a reply. -/
theorem exists_runFrom_post (hb : (c.build uri body).result clock = .ok request)
    (hs : sentForm request = .ok sent) (ha : service sent = .answered response) :
    ∃ s, runFrom (c.post service uri body) { clock } =
      (.ok (Reply.of request.target.text response), s) := by
  have hresult : (c.post service uri body).result clock =
      .ok (Reply.of request.target.text response) := by
    rw [result_post hb, hs]
    simp only [bind, Except.bind, ha, Delivery.reply]
  rw [result_eq] at hresult
  exact ⟨_, Prod.ext hresult rfl⟩

/-- What such a call comes to depends on the answer alone. -/
theorem result_postForm_of_answered {α : Type} (decode : String → Option α)
    (hb : (c.build uri body).result clock = .ok request) (hs : sentForm request = .ok sent)
    (ha : service sent = .answered response) :
    (c.postForm service decode uri body).result clock =
      unwrapped decode response.status response.text := by
  obtain ⟨s, hpost⟩ := exists_runFrom_post hb hs ha
  rw [result_eq, postForm, runFrom_bind, hpost]
  exact congrArg Prod.fst (runFrom_unwrap decode _ s)

/-- **No failure is taken for a success.**  A call whose request is answered has the outcome of the
answer and no other.  Where it gives a value the body has no error number but 0, and the value has
no other unless the body wraps a text. -/
theorem result_postForm_iff (hb : (c.build uri body).result clock = .ok request)
    (hs : sentForm request = .ok sent) (ha : service sent = .answered response) :
    (∀ x, (c.postForm service Value.parse? uri body).result clock = x ↔
      Outcome response.status response.text x) ∧
    ∀ v, (c.postForm service Value.parse? uri body).result clock = .ok v →
      (∀ t t', Tree.IsText t response.text → Record.Carries "errno" 1 t t' → t'.IsInt64 0) ∧
        ∀ t, Tree.IsText t response.text → ¬ t.IsWrapper →
          ∀ w, Record.Shows "errno" 1 v w → w = .integer 0 := by
  rw [result_postForm_of_answered Value.parse? hb hs ha]
  refine ⟨fun x => ⟨?_, unwrapped_of_outcome⟩, fun v hv => ?_⟩
  · rintro rfl
    exact outcome_unwrapped _ _
  · have h := outcome_unwrapped response.status response.text
    rw [hv] at h
    exact h.errno_eq_zero

end Calls

/-! ### Calls of a local service -/

/-- A call can be sent to the local service. -/
theorem exists_sent : ∃ c request sent,
    ofSettings { endpoint := "http://127.0.0.1:8360", credentials := some ⟨110380, "AK", "SK"⟩ } =
        .ok c ∧
      (c.build "/xasset/file/v1/getstoken" "addr=abc").result (.fixed (.atSecond 1700000000)) =
        .ok request ∧
      sentForm request = .ok sent := by
  have hc : ofSettings { endpoint := "http://127.0.0.1:8360"
                         credentials := some ⟨110380, "AK", "SK"⟩ } =
      .ok ⟨"http://127.0.0.1:8360", defaultUserAgent, ⟨110380, "AK", "SK"⟩, {}⟩ := by
    decide +kernel
  have hhost : Url.Host.parse "127.0.0.1".toList = .ok (.ipv4 ⟨0x7F000001⟩) := by
    rw [← Url.Host.parse_text_ipv4]
    exact congrArg Url.Host.parse (by decide +kernel)
  have hauthority : Url.Authority.parse .http "127.0.0.1:8360".toList =
      (Url.Host.parse "127.0.0.1".toList).map fun host => ⟨"", host, some 8360⟩ := by rfl
  have hurl : Url.parse ("http://127.0.0.1:8360" ++ "/xasset/file/v1/getstoken") =
      (Url.Authority.parse .http "127.0.0.1:8360".toList).map fun authority =>
        ⟨.http, authority, ["xasset".toList, "file".toList, "v1".toList, "getstoken".toList], none,
          none⟩ := by rfl
  rw [hauthority, hhost] at hurl
  obtain ⟨request, h⟩ := exists_result_build
    ⟨"http://127.0.0.1:8360", defaultUserAgent, ⟨110380, "AK", "SK"⟩, {}⟩
    "/xasset/file/v1/getstoken" "addr=abc" (.fixed (.atSecond 1700000000)) hurl
    (by decide +kernel) (by decide +kernel) ⟨by decide, by decide⟩ (by decide +kernel) rfl
  exact ⟨_, request, _, hc, h, sentForm_of_result_build h hurl trivial⟩

/-- The service can answer with every body. -/
theorem exists_text_eq (s : String) : ∃ r : Response, r.status = 200 ∧ r.text = s :=
  ⟨{ status := 200, body := s }, rfl, rfl⟩

/-- Two answers of the local service.  The first reports an error beside a number that no value has;
the second has a payload and the error number 0. -/
theorem exists_result_postForm : ∃ (refused given : Response) (c : Client) (request sent : Request)
      (value : Value),
    refused.text = "\x7b\"data\":1.7976931348623158e308,\"errno\":7\x7d" ∧
    given.text = "\x7b\"data\":\"x\",\"errno\":0\x7d" ∧
    (c.build "/xasset/file/v1/getstoken" "addr=abc").result (.fixed (.atSecond 1700000000)) =
      .ok request ∧
    sentForm request = .ok sent ∧
    (c.postForm (fun _ => .answered refused) Value.parse? "/xasset/file/v1/getstoken"
      "addr=abc").result (.fixed (.atSecond 1700000000)) = .error (.server 7 "" "") ∧
    (c.postForm (fun _ => .answered given) Value.parse? "/xasset/file/v1/getstoken"
      "addr=abc").result (.fixed (.atSecond 1700000000)) = .ok value ∧
    ∀ w, Record.Shows "errno" 1 value w → w = .integer 0 := by
  obtain ⟨c, request, sent, -, h, hsent⟩ := exists_sent
  have answered (r : Response) :=
    @result_postForm_iff c (fun _ => .answered r) _ _ _ request sent r h hsent rfl
  obtain ⟨refused, hs, hrefused⟩ :=
    exists_text_eq "\x7b\"data\":1.7976931348623158e308,\"errno\":7\x7d"
  obtain ⟨given, hs', hgiven⟩ := exists_text_eq "\x7b\"data\":\"x\",\"errno\":0\x7d"
  have hserver : Outcome refused.status refused.text (.error (.server 7 "" "")) := by
    obtain ⟨t, ht, he⟩ := Envelope.parse?_eq_some_iff.mp
      (show Envelope.parse? "\x7b\"data\":1.7976931348623158e308,\"errno\":7\x7d" =
        some ⟨"", 7, ""⟩ by decide +kernel)
    rw [← hrefused] at ht
    exact .server hs ht he (by decide)
  -- the second body is an object of two members, neither of which wraps a text
  have ht : Tree.IsText (.object "\x7b\"data\":\"x\",\"errno\":0\x7d".toList
      [("data".toList, .string ['x']), ("errno".toList, .number ['0'])]) given.text := by
    rw [hgiven]
    exact Tree.parse?_eq_some_iff.mp (by cbv)
  obtain ⟨value, hvalue⟩ : ∃ v, Outcome given.status given.text (.ok v) := by
    obtain ⟨t, ht, he⟩ := Envelope.parse?_eq_some_iff.mp
      (show Envelope.parse? "\x7b\"data\":\"x\",\"errno\":0\x7d" = some {} by decide +kernel)
    obtain ⟨v, hvalue⟩ := Option.isSome_iff_exists.mp
      (show (Value.parse? "\x7b\"data\":\"x\",\"errno\":0\x7d").isSome = true by decide +kernel)
    obtain ⟨t', ht', hv⟩ := Value.parse?_eq_some_iff.mp hvalue
    obtain rfl := ht.unique ht'
    rw [← hgiven] at ht
    exact ⟨v, .value hs' ht he rfl hv⟩
  have hok := ((answered given).1 _).mpr hvalue
  exact ⟨refused, given, c, request, sent, value, hrefused, hgiven, h, hsent,
    ((answered refused).1 _).mpr hserver, hok, ((answered given).2 _ hok).2 _ ht fun hw =>
      absurd (Tree.isWrapper_iff.mpr hw) (by decide)⟩

/-- The local service answers with an object that wraps a text.  The envelope of the body reports
success, and on its own the body is an object of one string.  What the caller gets is the value of
the text in the string, which has an error number of 7. -/
theorem exists_result_postForm_wrapper : ∃ (c : Client) (t : Tree),
    ofSettings { endpoint := "http://127.0.0.1:8360", credentials := some ⟨110380, "AK", "SK"⟩ } =
      .ok c ∧
    Tree.IsText t "\x7b\"$serde_json::private::RawValue\":\"\x7b\\\"errno\\\":7\x7d\"\x7d" ∧
    Envelope.Describes t {} ∧
    Value.Denotes false 127 t
      (.object [("$serde_json::private::RawValue", .string "\x7b\"errno\":7\x7d")]) ∧
    (c.postForm (fun _ => .answered
        ⟨200, {}, "\x7b\"$serde_json::private::RawValue\":\"\x7b\\\"errno\\\":7\x7d\"\x7d"⟩)
      Value.parse? "/xasset/file/v1/getstoken" "addr=abc").result (.fixed (.atSecond 1700000000)) =
      .ok (.object [("errno", .integer 7)]) := by
  obtain ⟨c, request, sent, hc, h, hsent⟩ := exists_sent
  -- the body is an object of one string, and the string is an object of one number
  have ht : Tree.IsText (.object
      "\x7b\"$serde_json::private::RawValue\":\"\x7b\\\"errno\\\":7\x7d\"\x7d".toList
      [(Value.wrapKey.toList, .string "\x7b\\\"errno\\\":7\x7d".toList)])
      "\x7b\"$serde_json::private::RawValue\":\"\x7b\\\"errno\\\":7\x7d\"\x7d" :=
    Tree.parse?_eq_some_iff.mp (by cbv)
  have ht' : Tree.IsText (.object "\x7b\"errno\":7\x7d".toList
      [("errno".toList, .number ['7'])]) "\x7b\"errno\":7\x7d" :=
    Tree.parse?_eq_some_iff.mp (by cbv)
  have hkey : StringText.Denotes Value.wrapKey.toList Value.wrapKey.toList :=
    StringText.decode?_eq_some_iff.mp (by decide +kernel)
  have hinside : StringText.Denotes "\x7b\\\"errno\\\":7\x7d".toList
      "\x7b\"errno\":7\x7d".toList := StringText.decode?_eq_some_iff.mp (by decide +kernel)
  have hmember : Value.DenotesMembers false 126
      [(Value.wrapKey.toList, .string "\x7b\\\"errno\\\":7\x7d".toList)]
      [(Value.wrapKey, .string "\x7b\"errno\":7\x7d")] :=
    .cons hkey (.string _ hinside) (.nil _)
  have hmember' : Value.DenotesMembers true 126 [("errno".toList, .number ['7'])]
      [("errno", .integer 7)] :=
    .cons (StringText.decode?_eq_some_iff.mp (by decide +kernel))
      (.number _ (.integer (NumberText.int?_eq_some_iff.mp (by decide)) ⟨by decide, by decide⟩))
      (.nil _)
  have hw := Tree.Wraps.object
    "\x7b\"$serde_json::private::RawValue\":\"\x7b\\\"errno\\\":7\x7d\"\x7d".toList hkey hinside
  have hv := Value.Denotes.object "\x7b\"errno\":7\x7d".toList
    (fun _ hw => absurd (Tree.isWrapper_iff.mpr hw) (by decide)) hmember'
  exact ⟨c, _, hc, ht, Envelope.describes_of_wraps hw,
    .object _ (fun hu => absurd hu (by decide)) hmember,
    (result_postForm_of_answered Value.parse? h hsent rfl).trans
      (unwrapped_of_outcome (.of_wraps rfl ht hw ht' hv))⟩

end AssetAccess.Client
