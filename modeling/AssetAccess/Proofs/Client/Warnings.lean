import AssetAccess.Proofs.Client.Answer
/-!
# Warnings of failed calls

A call that is answered reports what it sends and what comes back, and it warns of the answer when
the status is not 200, when the envelope cannot be read and when it holds an error number
(`warning?`).  Every warning carries the name under which the service traced the call
(`Traced`).

So one warning stands for one failure, except where the envelope reports success and the rest of the
body has no value (`LacksValue`): then the call fails and nothing warns of it
(`reported_of_answered`).
-/

namespace AssetAccess.Client

open AssetAccess.Action Auth Http Json

/-! ### What is reported on the way -/

theorem reportsOnly_sign (s : Signer) (request : Request) :
    ReportsOnly (·.level = .debug) (s.sign request) := by
  unfold Signer.sign Signer.signWith
  refine .bind (.ofExcept _) fun _ => ?_
  split
  · exact .throw_bind
  refine .bind ?_ fun second => ?_
  · unfold Signer.signSecond
    split
    · exact .pure _
    · exact .unixSecond
  cases Instant.of? second 0 with
  | none => exact .throw _
  | some t => exact .bind (.report rfl) fun _ => .pure _

theorem reportsOnly_build (c : Client) (uri body : String) :
    ReportsOnly (·.level = .debug) (c.build uri body) := by
  unfold build
  cases Url.parse (c.endpoint ++ uri) with
  | error fault => exact .throw _
  | ok url =>
    refine .bind .unixSecond fun second => ?_
    cases c.draft url second body with
    | error fault => exact .throw _
    | ok request =>
      refine .bind (reportsOnly_sign c.signer request) fun token => ?_
      cases FieldValue.ofString? token with
      | none => exact .throw _
      | some value => exact .pure _

/-- Nothing warns of a call before its answer has been looked at. -/
theorem reportsOnly_post (c : Client) (service : Request → Delivery) (uri body : String) :
    ReportsOnly (·.level = .debug) (c.post service uri body) := by
  refine .bind (reportsOnly_build c uri body) fun request => ?_
  refine .bind (.report rfl) fun _ => .bind (.ofExcept _) fun sent => ?_
  cases service sent with
  | unreachable => exact .throw _
  | closed => exact .throw _
  | answered response => exact .bind (.report rfl) fun _ => .pure _

/-! ### Traces -/

/-- The name under which a call was traced, as the headers of its answer give it: the first value of
its header without the blanks around it, or `0` where there is none or it is no plain text. -/
inductive Traced (f : Fields) : String → Prop where
  | missing (h : f.values .traceId = []) : Traced f "0"
  | hidden {v : FieldValue} {rest : List FieldValue} {b : UInt8}
      (h : f.values .traceId = v :: rest) (hb : b ∈ v.trimmed.bytes) (hv : isVisible b = false) :
      Traced f "0"
  | shown {v : FieldValue} {rest : List FieldValue} {id : String}
      (h : f.values .traceId = v :: rest) (hv : Visible id)
      (hid : v.trimmed.bytes = Text.utf8 id) : Traced f id

theorem traced_traceId (url : String) (response : Response) :
    Traced response.fields (Reply.of url response).traceId := by
  rw [Reply.traceId, Reply.of, Fields.first?, values_trimmedFields]
  cases hvalues : response.fields.values .traceId with
  | nil => exact .missing hvalues
  | cons v rest =>
    rw [List.map_cons, List.head?_cons, Option.bind_some]
    cases htext : v.trimmed.text? with
    | some id =>
      obtain ⟨hvisible, hbytes⟩ := FieldValue.text?_eq_some_iff.mp htext
      refine .shown hvalues ?_ hbytes
      rwa [hbytes] at hvisible
    | none =>
      rw [FieldValue.text?, ite_eq_right_iff] at htext
      have hnot : v.trimmed.bytes.all isVisible = false :=
        Bool.eq_false_iff.mpr fun h => Option.some_ne_none _ (htext h)
      obtain ⟨b, hb, hv⟩ := List.all_eq_false.mp hnot
      exact .hidden hvalues hb (Bool.eq_false_iff.mpr hv)

/-- The text of an event carries the name under which a call was traced. -/
def Carries (event : LogEvent) (traceId : String) : Prop :=
  ∃ before after, event.message = before ++ ". trace_id: " ++ traceId ++ "." ++ after

/-! ### Warnings -/

/-- The events that warn. -/
def warnings (events : List LogEvent) : List LogEvent := events.filter (·.level = .warn)

section Replies

variable {r : Reply} {event : LogEvent}

theorem warning?_eq_none_iff :
    warning? r = none ↔ r.status = 200 ∧ ∃ e, Envelope.parse? r.body = some e ∧ e.errno = 0 := by
  unfold warning?
  by_cases hs : r.status = 200
  · cases Envelope.parse? r.body with
    | none => simp [hs]
    | some e => by_cases hn : e.errno = 0 <;> simp [hs, hn]
  · simp [hs]

theorem warning?_of_undecodable (hs : r.status = 200) (he : Envelope.parse? r.body = none) :
    warning? r = some (.undecodable r.url r.traceId) := by
  simp [warning?, hs, he]

theorem level_of_warning? (h : warning? r = some event) : event.level = .warn := by
  unfold warning? at h
  split at h
  · cases h
    rfl
  split at h
  · cases h
    rfl
  split at h
  · cases h
    rfl
  · cases h

theorem carries_refusedStatus (url : String) (status : Nat) (traceId body : String) :
    Carries (.refusedStatus url status traceId body) traceId := by
  have hafter : ". Response body: " = "." ++ " Response body: " := by decide +kernel
  refine ⟨"Request to " ++ url ++ " failed with status: " ++ Decimal.ofNat status,
    " Response body: " ++ body, ?_⟩
  unfold LogEvent.message
  rw [hafter]
  simp only [String.append_assoc]

theorem carries_undecodable (url traceId : String) :
    Carries (.undecodable url traceId) traceId := by
  refine ⟨"Undecodable response from " ++ url, "", ?_⟩
  unfold LogEvent.message
  rw [String.append_empty]

theorem carries_refusedByServer (url traceId requestId : String) (errno : Int64)
    (errmsg : String) : Carries (.refusedByServer url traceId requestId errno errmsg) traceId := by
  have hbefore : " rejected. trace_id: " = " rejected" ++ ". trace_id: " := by decide +kernel
  have hafter : ". request_id: " = "." ++ " request_id: " := by decide +kernel
  refine ⟨"Request to " ++ url ++ " rejected", " request_id: " ++ requestId ++ ". errno: " ++
    Decimal.ofInt errno.toInt ++ ". errmsg: " ++ errmsg, ?_⟩
  unfold LogEvent.message
  rw [hbefore, hafter]
  simp only [String.append_assoc]

/-- Every warning carries the name under which the call was traced. -/
theorem carries_of_warning? (h : warning? r = some event) : Carries event r.traceId := by
  unfold warning? at h
  split at h
  · cases h
    exact carries_refusedStatus _ _ _ _
  split at h
  · cases h
    exact carries_undecodable _ _
  split at h
  · cases h
    exact carries_refusedByServer _ _ _ _ _
  · cases h

end Replies

/-! ### Calls -/

section Calls

variable {α : Type} {c : Client} {service : Request → Delivery} {decode : String → Option α}
  {uri body : String} {clock : Clock} {response : Response}

/-- A call that is answered warns as its reply asks for. -/
theorem exists_warnings_postForm (decode : String → Option α)
    (h : Answered c service uri body clock response) :
    ∃ url, warnings ((c.postForm service decode uri body).perform clock).2.events =
      (warning? (Reply.of url response)).toList := by
  obtain ⟨url, s, hpost, hrun⟩ := h.exists_perform_postForm decode
  obtain ⟨added, hadded, hdebug⟩ := reportsOnly_post c service uri body { clock }
  rw [hpost] at hadded
  -- the call started without events, so those before the warning are the ones that `post` added
  obtain rfl : s.events = added := hadded
  refine ⟨url, ?_⟩
  rw [hrun, warnings, List.filter_append,
    List.filter_eq_nil_iff.mpr fun e he => by simp [hdebug e he], List.nil_append,
    List.filter_eq_self]
  intro event hevent
  exact decide_eq_true (level_of_warning? (Option.mem_toList.mp hevent))

/-- The envelope of an answer reports success, and the rest of the body has no value. -/
structure LacksValue (decode : String → Option α) (r : Response) : Prop where
  status : r.status = 200
  envelope : ∃ t e, Tree.IsText t r.text ∧ Envelope.Describes t e ∧ e.errno = 0
  value : decode r.text = none

/-- What is reported of an answer from which a caller gets this result. -/
structure Reported (decode : String → Option α) (r : Response) (x : Except Error α)
    (warned : List LogEvent) : Prop where
  ok : ∀ a, x = .ok a → warned = []
  error : ¬ LacksValue decode r → ((∃ e, x = .error e) ↔ ∃ event, warned = [event])
  lacksValue : LacksValue decode r → x = .error .json ∧ warned = []
  traced : ∀ event ∈ warned, ∃ id, Traced r.fields id ∧ Carries event id
  undecodable : r.status = 200 → (∀ t e, Tree.IsText t r.text → ¬ Envelope.Describes t e) →
    x = .error .json ∧ ∃ url id, Traced r.fields id ∧ warned = [.undecodable url id]

theorem lacksValue_iff :
    LacksValue decode response ↔ response.status = 200 ∧
      (∃ e, Envelope.parse? response.text = some e ∧ e.errno = 0) ∧
        decode response.text = none := by
  have henvelope : (∃ t e, Tree.IsText t response.text ∧ Envelope.Describes t e ∧ e.errno = 0) ↔
      ∃ e, Envelope.parse? response.text = some e ∧ e.errno = 0 := by
    constructor
    · rintro ⟨t, e, ht, he, hn⟩
      exact ⟨e, Envelope.parse?_eq_some_iff.mpr ⟨t, ht, he⟩, hn⟩
    · rintro ⟨e, he, hn⟩
      obtain ⟨t, ht, he⟩ := Envelope.parse?_eq_some_iff.mp he
      exact ⟨t, e, ht, he, hn⟩
  rw [← henvelope]
  exact ⟨fun ⟨hs, he, hv⟩ => ⟨hs, he, hv⟩, fun ⟨hs, he, hv⟩ => ⟨hs, he, hv⟩⟩

theorem warning?_of_unwrapped {a : α} (url : String)
    (h : unwrapped decode response.status response.text = .ok a) :
    warning? (Reply.of url response) = none := by
  obtain ⟨hs, he, -⟩ := unwrapped_eq_ok_iff.mp h
  exact warning?_eq_none_iff.mpr ⟨hs, he⟩

/-- Nothing warns of an answer that lacks a value. -/
theorem Answered.unreported (decode : String → Option α)
    (h : Answered c service uri body clock response) (hlacks : LacksValue decode response) :
    (c.postForm service decode uri body).result clock = .error .json ∧
      warnings ((c.postForm service decode uri body).perform clock).2.events = [] := by
  obtain ⟨url, hwarnings⟩ := exists_warnings_postForm decode h
  obtain ⟨hs, ⟨e, he, hn⟩, hdecode⟩ := lacksValue_iff.mp hlacks
  have hwarning : warning? (Reply.of url response) = none :=
    warning?_eq_none_iff.mpr ⟨hs, e, he, hn⟩
  rw [hwarnings, hwarning, h.result_postForm]
  exact ⟨by simp [unwrapped, hs, he, hn, hdecode], rfl⟩

/-- Unless just the value is missing, an answer is a failure exactly when there is a warning. -/
theorem exists_error_iff (hlacks : ¬ LacksValue decode response) (url : String) :
    (∃ e, unwrapped decode response.status response.text = .error e) ↔
      ∃ event, (warning? (Reply.of url response)).toList = [event] := by
  cases hx : unwrapped decode response.status response.text with
  | ok a =>
    rw [warning?_of_unwrapped url hx]
    simp
  | error e =>
    refine iff_of_true ⟨e, rfl⟩ ?_
    cases hwarning : warning? (Reply.of url response) with
    | some event => exact ⟨event, rfl⟩
    | none =>
      -- nothing is wrong with status and envelope, so there is no value
      obtain ⟨hs, he⟩ := warning?_eq_none_iff.mp hwarning
      cases hdecode : decode response.text with
      | none => exact absurd (lacksValue_iff.mpr ⟨hs, he, hdecode⟩) hlacks
      | some a =>
        have hok : unwrapped decode response.status response.text = .ok a :=
          unwrapped_eq_ok_iff.mpr ⟨hs, he, hdecode⟩
        rw [hok] at hx
        cases hx

/-- **Every failure is reported but one.**  A call that is answered fails with one warning, which
carries the name under which the service traced the call, or succeeds with none.  Only where the
envelope reports success and the rest of the body has no value, it fails and nothing warns of it. -/
theorem reported_of_answered (decode : String → Option α)
    (h : Answered c service uri body clock response) :
    Reported decode response ((c.postForm service decode uri body).result clock)
      (warnings ((c.postForm service decode uri body).perform clock).2.events) := by
  obtain ⟨url, hwarnings⟩ := exists_warnings_postForm decode h
  have hunreported := h.unreported decode
  rw [hwarnings, h.result_postForm] at hunreported ⊢
  constructor
  case ok =>
    intro a ha
    rw [warning?_of_unwrapped url ha, Option.toList_none]
  case error => exact fun hlacks => exists_error_iff hlacks url
  case lacksValue => exact hunreported
  case traced =>
    intro event hevent
    exact ⟨_, traced_traceId url response, carries_of_warning? (Option.mem_toList.mp hevent)⟩
  case undecodable =>
    intro hs hno
    have he : Envelope.parse? response.text = none := by
      refine Option.eq_none_iff_forall_ne_some.mpr fun e he => ?_
      obtain ⟨t, ht, hd⟩ := Envelope.parse?_eq_some_iff.mp he
      exact hno t e ht hd
    have hwarning := warning?_of_undecodable (r := Reply.of url response) hs he
    rw [hwarning]
    exact ⟨by simp [unwrapped, hs, he], url, _, traced_traceId url response, rfl⟩

end Calls

/-- The local service fails, and the one warning carries a name under which it traced the call. -/
theorem exists_reported : ∃ (response : Response) (c : Client) (run : Except Error AccessGrant ×
      Surroundings) (event : LogEvent) (id : String),
    response.fields.entries.map (·.2.bytes) = [Text.utf8 "trace-1"] ∧
    Answered c (fun _ => .answered response) "/xasset/file/v1/getstoken" "addr=abc"
      (.fixed (.atSecond 1700000000)) response ∧
    run = (c.postForm (fun _ => .answered response) AccessGrant.parse? "/xasset/file/v1/getstoken"
      "addr=abc").perform (.fixed (.atSecond 1700000000)) ∧
    run.1 = .error (.unexpectedStatus 500 "down") ∧ warnings run.2.events = [event] ∧
      Traced response.fields id ∧ Carries event id := by
  obtain ⟨c, -, hc⟩ := exists_answered
    ⟨500, ⟨[(.traceId, ⟨Text.utf8 "trace-1", by decide⟩)]⟩, "down"⟩
  have hreported := reported_of_answered AccessGrant.parse? hc
  have hresult := hc.result_postForm AccessGrant.parse?
  obtain ⟨event, hevent⟩ := (hreported.error fun h => absurd h.status (by decide)).mp
    ⟨_, hresult⟩
  obtain ⟨id, htraced, hcarries⟩ :=
    hreported.traced event (by rw [hevent]; exact List.mem_singleton_self event)
  exact ⟨_, c, _, event, id, rfl, hc, rfl, hresult, hevent, htraced, hcarries⟩

/-- Two answers of the local service whose envelopes report success.  The first has no access
information and the second a number that no value has, so both calls fail; nothing warns of them. -/
theorem exists_unreported : ∃ (response response' : Response) (c c' : Client)
      (run : Except Error AccessGrant × Surroundings) (run' : Except Error Value × Surroundings),
    response.text = "\x7b\"request_id\": \"42\", \"errno\": 0, \"errmsg\": \"succ\"\x7d" ∧
    Answered c (fun _ => .answered response) "/xasset/file/v1/getstoken" "addr=abc"
      (.fixed (.atSecond 1700000000)) response ∧
    run = (c.postForm (fun _ => .answered response) AccessGrant.parse? "/xasset/file/v1/getstoken"
      "addr=abc").perform (.fixed (.atSecond 1700000000)) ∧
    run.1 = .error .json ∧ warnings run.2.events = [] ∧
    ¬ ((∃ e, run.1 = .error e) ↔ ∃ event, warnings run.2.events = [event]) ∧
    response'.text = "\x7b\"data\": 1e999\x7d" ∧
    Answered c' (fun _ => .answered response') "/xasset/file/v1/getstoken" "addr=abc"
      (.fixed (.atSecond 1700000000)) response' ∧
    run' = (c'.postForm (fun _ => .answered response') Value.parse? "/xasset/file/v1/getstoken"
      "addr=abc").perform (.fixed (.atSecond 1700000000)) ∧
    run'.1 = .error .json ∧ warnings run'.2.events = [] ∧
    ¬ ((∃ e, run'.1 = .error e) ↔ ∃ event, warnings run'.2.events = [event]) := by
  obtain ⟨response, hs, htext⟩ :=
    exists_text_eq "\x7b\"request_id\": \"42\", \"errno\": 0, \"errmsg\": \"succ\"\x7d"
  obtain ⟨response', hs', htext'⟩ := exists_text_eq "\x7b\"data\": 1e999\x7d"
  obtain ⟨c, -, hc⟩ := exists_answered response
  obtain ⟨c', -, hc'⟩ := exists_answered response'
  obtain ⟨hfails, hwarned⟩ := hc.unreported AccessGrant.parse? (lacksValue_iff.mpr
    ⟨hs, ⟨⟨"42", 0, "succ"⟩, by rw [htext]; decide +kernel, rfl⟩, by rw [htext]; decide +kernel⟩)
  obtain ⟨hfails', hwarned'⟩ := hc'.unreported Value.parse? (lacksValue_iff.mpr
    ⟨hs', ⟨{}, by rw [htext']; decide +kernel, rfl⟩,
      by rw [htext']; exact Option.isNone_iff_eq_none.mp (by decide +kernel)⟩)
  refine ⟨_, _, c, c', _, _, htext, hc, rfl, hfails, hwarned, fun h => ?_, htext', hc', rfl,
    hfails', hwarned', fun h => ?_⟩
  · obtain ⟨event, hevent⟩ := h.mp ⟨_, hfails⟩
    rw [hwarned] at hevent
    cases hevent
  · obtain ⟨event, hevent⟩ := h.mp ⟨_, hfails'⟩
    rw [hwarned'] at hevent
    cases hevent

end AssetAccess.Client
