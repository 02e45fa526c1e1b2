import AssetAccess.Proofs.Client.Answer
/-!
# What a grant says

`Describes t grant` says that a tree is the form of a grant: an object that describes the envelope
of the grant, holds the access information once and as a string, and can be read as a value, where
no text is unwrapped.  A grant is read from the trees that describe it (`parse?_eq_some_iff`).  An
array is never the form of a grant, though it may be that of an envelope.

A call that asks for a grant reads its answer twice, first the envelope alone and then the grant.
Whenever it succeeds both readings agree about the envelope (`result_postForm_grant`).
-/

namespace AssetAccess.Client

open AssetAccess.Action Http Json

namespace AccessGrant

/-- The tree has the form of this grant. -/
inductive Describes : Tree → AccessGrant → Prop where
  | object {source : List Char} {members : List (List Char × Tree)} {accessInfo : Tree}
      {grant : AccessGrant} (hv : ∃ v, Value.Denotes false 127 (.object source members) v)
      (he : Envelope.Describes (.object source members) grant.envelope)
      (ha : Record.Occurs members "access_info" (some accessInfo))
      (hs : accessInfo.IsString grant.accessInfo) : Describes (.object source members) grant

/-- The members of an object give the fields of a grant. -/
theorem ofObject?_eq_some_iff (source : List Char) {members : List (List Char × Tree)}
    {accessInfo requestId errno errmsg : Option Tree} :
    Record.ofObject? ("access_info" :: Envelope.fieldNames) members =
        some [accessInfo, requestId, errno, errmsg] ↔
      Record.Occurs members "access_info" accessInfo ∧
        Record.Gives ["request_id", "errno", "errmsg"] (.object source members)
          [requestId, errno, errmsg] := by
  rw [Record.ofObject?_eq_some_iff, List.forall₂_cons]
  constructor
  · rintro ⟨hk, ha, h⟩
    exact ⟨ha, .object source hk h⟩
  · rintro ⟨ha, h⟩
    cases h with
    | object _ hk h => exact ⟨hk, ha, h⟩

theorem ofTree?_eq_some_iff {t : Tree} {grant : AccessGrant} :
    ofTree? t = some grant ↔ Describes t grant := by
  unfold ofTree?
  constructor
  · intro h
    split at h
    · rename_i source members v hv
      split at h
      · rename_i accessInfo requestId errno errmsg hfields
        obtain ⟨ha, hg⟩ := (ofObject?_eq_some_iff source).mp hfields
        simp only [Option.bind_eq_bind, Option.bind_eq_some_iff] at h
        obtain ⟨text, htext, envelope, henvelope, h⟩ := h
        obtain rfl := Option.some.inj h
        obtain ⟨hid, hno, hmsg⟩ := Envelope.ofFields?_eq_some_iff.mp henvelope
        exact .object ⟨v, (Value.ofTree?_eq_some_iff .never).mp hv⟩ ⟨hg, hid, hno, hmsg⟩ ha
          (Tree.text?_eq_some_iff.mp htext)
      · exact absurd h (by simp)
    · exact absurd h (by simp)
  · rintro ⟨⟨v, hv⟩, ⟨hg, hid, hno, hmsg⟩, ha, hs⟩
    simp only [show Value.ofTree? none maxDepth _ = _ from
      (Value.ofTree?_eq_some_iff .never).mpr hv,
      (ofObject?_eq_some_iff _).mpr ⟨ha, hg⟩, Tree.text?_eq_some_iff.mpr hs,
      Envelope.ofFields?_eq_some_iff.mpr ⟨hid, hno, hmsg⟩]
    rfl

/-- A grant is read from a text exactly when the tree of the text describes it. -/
theorem parse?_eq_some_iff {s : String} {grant : AccessGrant} :
    parse? s = some grant ↔ ∃ t, Tree.IsText t s ∧ Describes t grant := by
  rw [parse?]
  exact Tree.bind_parse?_eq_some_iff fun _ _ => ofTree?_eq_some_iff

/-- The envelope of a grant is the one that is read from the same text. -/
theorem envelope_of_parse? {s : String} {grant : AccessGrant} (h : parse? s = some grant) :
    Envelope.parse? s = some grant.envelope := by
  obtain ⟨t, ht, hd⟩ := parse?_eq_some_iff.mp h
  cases hd with
  | object _ he _ _ => exact Envelope.parse?_eq_some_iff.mpr ⟨_, ht, he⟩

/-- A text gives a grant and an envelope without an error just when it gives a grant without one. -/
theorem parse?_and_iff {s : String} {grant : AccessGrant} :
    ((∃ e, Envelope.parse? s = some e ∧ e.errno = 0) ∧ parse? s = some grant) ↔
      grant.envelope.errno = 0 ∧ parse? s = some grant := by
  refine and_congr_left fun h => ?_
  rw [envelope_of_parse? h]
  constructor
  · rintro ⟨e, he, hn⟩
    rwa [← Option.some.inj he] at hn
  · exact fun hn => ⟨_, rfl, hn⟩

end AccessGrant

/-! ### Calls -/

/-- **A caller that keeps the envelope sees the one that was checked.**  A call gives a grant just
when it is answered with status 200 and a body that describes the grant, with the error number 0.
Its envelope is the one that is read first; and no array gives a grant. -/
theorem result_postForm_grant (c : Client) (service : Request → Delivery) (uri body : String)
    (clock : Clock) :
    (∀ grant, (c.postForm service AccessGrant.parse? uri body).result clock = .ok grant ↔
      ∃ response, Answered c service uri body clock response ∧ response.status = 200 ∧
        grant.envelope.errno = 0 ∧
          ∃ t, Tree.IsText t response.text ∧ AccessGrant.Describes t grant) ∧
    ∀ response, Answered c service uri body clock response →
      (∀ grant, (c.postForm service AccessGrant.parse? uri body).result clock = .ok grant →
        response.status = 200 ∧
          (∃ source members, Tree.IsText (.object source members) response.text) ∧
            Envelope.parse? response.text = some grant.envelope ∧ grant.envelope.errno = 0) ∧
      ∀ source items, Tree.IsText (.array source items) response.text →
        ∀ grant, (c.postForm service AccessGrant.parse? uri body).result clock ≠ .ok grant := by
  -- what is checked is read from the envelope alone, so both readings are brought together first
  refine ⟨fun grant => ?_, fun response hanswered => ⟨fun grant h => ?_, ?_⟩⟩
  · simp only [result_postForm_eq_ok_iff, AccessGrant.parse?_and_iff,
      ← AccessGrant.parse?_eq_some_iff]
  · rw [hanswered.result_postForm, unwrapped_eq_ok_iff, AccessGrant.parse?_and_iff] at h
    obtain ⟨hs, hn, hgrant⟩ := h
    obtain ⟨t, ht, hd⟩ := AccessGrant.parse?_eq_some_iff.mp hgrant
    cases hd with
    | object => exact ⟨hs, ⟨_, _, ht⟩, AccessGrant.envelope_of_parse? hgrant, hn⟩
  · intro source items ht grant h
    rw [hanswered.result_postForm, unwrapped_eq_ok_iff] at h
    obtain ⟨t, ht', hd⟩ := AccessGrant.parse?_eq_some_iff.mp h.2.2
    obtain rfl := ht.unique ht'
    cases hd

/-- Two answers of the local service whose envelopes report success.  The first grants access; the
second is an array of the fields of the envelope, and no grant. -/
theorem exists_result_postForm_grant : ∃ (object array : Response) (c c' : Client),
    object.text = "\x7b\"request_id\":\"42\",\"access_info\":\"token\"\x7d" ∧
    Answered c (fun _ => .answered object) "/xasset/file/v1/getstoken" "addr=abc"
      (.fixed (.atSecond 1700000000)) object ∧
    (c.postForm (fun _ => .answered object) AccessGrant.parse? "/xasset/file/v1/getstoken"
      "addr=abc").result (.fixed (.atSecond 1700000000)) = .ok ⟨⟨"42", 0, ""⟩, "token"⟩ ∧
    array.text = "[\"42\",0,\"succ\"]" ∧
    Answered c' (fun _ => .answered array) "/xasset/file/v1/getstoken" "addr=abc"
      (.fixed (.atSecond 1700000000)) array ∧
    Envelope.parse? array.text = some ⟨"42", 0, "succ"⟩ ∧
    ∀ grant, (c'.postForm (fun _ => .answered array) AccessGrant.parse? "/xasset/file/v1/getstoken"
      "addr=abc").result (.fixed (.atSecond 1700000000)) ≠ .ok grant := by
  obtain ⟨object, hs, hobject⟩ :=
    exists_text_eq "\x7b\"request_id\":\"42\",\"access_info\":\"token\"\x7d"
  obtain ⟨array, -, harray⟩ := exists_text_eq "[\"42\",0,\"succ\"]"
  obtain ⟨c, -, hc⟩ := exists_answered object
  obtain ⟨c', -, hc'⟩ := exists_answered array
  have hgrant := AccessGrant.parse?_eq_some_iff.mp
    (show AccessGrant.parse? "\x7b\"request_id\":\"42\",\"access_info\":\"token\"\x7d" =
      some ⟨⟨"42", 0, ""⟩, "token"⟩ by decide +kernel)
  have henvelope : Envelope.parse? "[\"42\",0,\"succ\"]" = some ⟨"42", 0, "succ"⟩ := by
    decide +kernel
  have htree : Tree.IsText (.array "[\"42\",0,\"succ\"]".toList
      [.string "42".toList, .number "0".toList, .string "succ".toList]) array.text := by
    rw [harray]
    exact Tree.parse?_eq_some_iff.mp (by cbv)
  refine ⟨object, array, c, c', hobject, hc, ?_, harray, hc', by rw [harray, henvelope], ?_⟩
  · refine ((result_postForm_grant c _ _ _ _).1 _).mpr ⟨_, hc, hs, rfl, ?_⟩
    rwa [hobject]
  · exact ((result_postForm_grant c' _ _ _ _).2 _ hc').2 _ _ htree

end AssetAccess.Client
