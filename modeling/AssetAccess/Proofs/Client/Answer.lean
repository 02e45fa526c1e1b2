import AssetAccess.Proofs.Client.Outcome
/-!
# Calls that are answered

A call is answered when its request can be built and sent and the service sends a response
(`Answered`).  What its caller gets then depends on the response alone
(`Answered.result_postForm`), and without an answer there is no value (`result_postForm_eq_ok_iff`).
-/

namespace AssetAccess.Client

open AssetAccess.Action Http

/-- The service answers a call with this response. -/
inductive Answered (c : Client) (service : Request → Delivery) (uri body : String)
    (clock : Clock) : Response → Prop where
  | mk {request sent : Request} {response : Response}
      (hb : (c.build uri body).result clock = .ok request) (hs : sentForm request = .ok sent)
      (ha : service sent = .answered response) : Answered c service uri body clock response

section Calls

variable {α : Type} {c : Client} {service : Request → Delivery} {decode : String → Option α}
  {uri body : String} {clock : Clock} {response : Response}

theorem Answered.exists_runFrom_post (h : Answered c service uri body clock response) :
    ∃ url s, runFrom (c.post service uri body) { clock } = (.ok (Reply.of url response), s) := by
  obtain ⟨hb, hs, ha⟩ := h
  exact ⟨_, Client.exists_runFrom_post hb hs ha⟩

/-- A reply is made of an answer. -/
theorem exists_answered_of_runFrom_post {reply : Reply} {s : Surroundings}
    (h : runFrom (c.post service uri body) { clock } = (.ok reply, s)) :
    ∃ url response, Answered c service uri body clock response ∧
      reply = Reply.of url response := by
  obtain ⟨request, s₁, hb, h⟩ := runFrom_bind_eq_ok_iff.mp h
  obtain ⟨_, s₂, -, h⟩ := runFrom_bind_eq_ok_iff.mp h
  obtain ⟨sent, s₃, hs, h⟩ := runFrom_bind_eq_ok_iff.mp h
  have hresult : (c.build uri body).result clock = .ok request := by rw [result_eq, hb]
  have hsent : sentForm request = .ok sent := (Prod.mk.inj hs).1
  -- a service that does not answer leaves no reply
  cases ha : service sent with
  | unreachable =>
    rw [ha] at h
    cases h
  | closed =>
    rw [ha] at h
    cases h
  | answered response =>
    rw [ha] at h
    cases h
    exact ⟨_, response, ⟨hresult, hsent, ha⟩, rfl⟩

/-- A call that is answered ends with taking the answer apart. -/
theorem Answered.exists_perform_postForm (decode : String → Option α)
    (h : Answered c service uri body clock response) :
    ∃ url s, runFrom (c.post service uri body) { clock } = (.ok (Reply.of url response), s) ∧
      (c.postForm service decode uri body).perform clock =
        (unwrapped decode response.status response.text,
          { s with events := s.events ++ (warning? (Reply.of url response)).toList }) := by
  obtain ⟨url, s, hpost⟩ := h.exists_runFrom_post
  refine ⟨url, s, hpost, ?_⟩
  change runFrom (c.postForm service decode uri body) { clock } = _
  rw [postForm, runFrom_bind, hpost]
  exact runFrom_unwrap decode _ s

/-- What comes of it depends on the response alone. -/
theorem Answered.result_postForm (decode : String → Option α)
    (h : Answered c service uri body clock response) :
    (c.postForm service decode uri body).result clock =
      unwrapped decode response.status response.text := by
  obtain ⟨hb, hs, ha⟩ := h
  exact result_postForm_of_answered decode hb hs ha

theorem unwrapped_eq_ok_iff {status : Nat} {text : String} {a : α} :
    unwrapped decode status text = .ok a ↔
      status = 200 ∧ (∃ e, Envelope.parse? text = some e ∧ e.errno = 0) ∧
        decode text = some a := by
  unfold unwrapped
  by_cases hs : status = 200
  · cases Envelope.parse? text with
    | none => simp [hs]
    | some e =>
      by_cases hn : e.errno = 0
      · cases decode text <;> simp [hs, hn]
      · simp [hs, hn]
  · simp [hs]

/-- **A value is given** by the answers from which it can be read and that report success. -/
theorem result_postForm_eq_ok_iff {a : α} :
    (c.postForm service decode uri body).result clock = .ok a ↔
      ∃ response, Answered c service uri body clock response ∧ response.status = 200 ∧
        (∃ e, Envelope.parse? response.text = some e ∧ e.errno = 0) ∧
          decode response.text = some a := by
  constructor
  · intro h
    obtain ⟨reply, s, hpost, hunwrap⟩ := runFrom_bind_eq_ok_iff.mp (Prod.ext h rfl)
    obtain ⟨url, response, hanswered, rfl⟩ := exists_answered_of_runFrom_post hpost
    rw [runFrom_unwrap] at hunwrap
    exact ⟨response, hanswered, unwrapped_eq_ok_iff.mp (Prod.mk.inj hunwrap).1⟩
  · rintro ⟨response, hanswered, h⟩
    rw [hanswered.result_postForm, unwrapped_eq_ok_iff]
    exact h

end Calls

/-- Every answer can come to a call at the local service. -/
theorem exists_answered (response : Response) : ∃ c,
    ofSettings { endpoint := "http://127.0.0.1:8360", credentials := some ⟨110380, "AK", "SK"⟩ } =
        .ok c ∧
      Answered c (fun _ => .answered response) "/xasset/file/v1/getstoken" "addr=abc"
        (.fixed (.atSecond 1700000000)) response := by
  obtain ⟨c, request, sent, hc, h, hsent⟩ := exists_sent
  exact ⟨c, hc, h, hsent, rfl⟩

end AssetAccess.Client
