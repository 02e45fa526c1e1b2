import AssetAccess.Client.Envelope
import AssetAccess.Proofs.Json.Record
/-!
# What an envelope says

`Describes t e` says that a tree is the form of an envelope: an object in which the name of the
request, the error number and the error text occur once or never, or an array that starts with
them.  An envelope is read from the trees that describe it (`parse?_eq_some_iff`).

All that the tree carries for a field, in an object or at its place in an array, says the same as
the envelope (`Describes.carries`), and so does whatever value the tree stands for, unless that is
the value of a wrapped text (`Describes.shows`).  So a caller that looks at the value sees the error
number that was checked.  A wrapped text is never looked into (`describes_of_wraps`).
-/

namespace AssetAccess.Client.Envelope

open Json

/-- The tree has the form of an envelope with these fields.  A field that is missing has its
default. -/
inductive Describes (t : Tree) (e : Envelope) : Prop where
  | mk {requestId errno errmsg : Option Tree}
      (h : Record.Gives ["request_id", "errno", "errmsg"] t [requestId, errno, errmsg])
      (hid : Record.Holds Tree.IsString "" requestId e.requestId)
      (hno : Record.Holds Tree.IsInt64 0 errno e.errno)
      (hmsg : Record.Holds Tree.IsString "" errmsg e.errmsg)

theorem ofFields?_eq_some_iff {requestId errno errmsg : Option Tree} {e : Envelope} :
    ofFields? requestId errno errmsg = some e ↔
      Record.Holds Tree.IsString "" requestId e.requestId ∧
        Record.Holds Tree.IsInt64 0 errno e.errno ∧
          Record.Holds Tree.IsString "" errmsg e.errmsg := by
  simp only [ofFields?, Option.bind_eq_bind, Option.bind_eq_some_iff,
    Record.elim_eq_some_iff fun _ _ => Tree.text?_eq_some_iff,
    Record.elim_eq_some_iff fun _ _ => Tree.int64?_eq_some_iff]
  constructor
  · rintro ⟨_, hid, _, hno, _, hmsg, h⟩
    obtain rfl := Option.some.inj h
    exact ⟨hid, hno, hmsg⟩
  · rintro ⟨hid, hno, hmsg⟩
    exact ⟨_, hid, _, hno, _, hmsg, rfl⟩

theorem ofTree?_eq_some_iff {t : Tree} {e : Envelope} : ofTree? t = some e ↔ Describes t e := by
  unfold ofTree?
  constructor
  · intro h
    split at h
    · rename_i requestId errno errmsg hfields
      obtain ⟨hid, hno, hmsg⟩ := ofFields?_eq_some_iff.mp h
      exact ⟨Record.fields?_eq_some_iff.mp hfields, hid, hno, hmsg⟩
    · exact absurd h (by simp)
  · rintro ⟨h, hid, hno, hmsg⟩
    rw [show fieldNames = ["request_id", "errno", "errmsg"] from rfl,
      Record.fields?_eq_some_iff.mpr h]
    exact ofFields?_eq_some_iff.mpr ⟨hid, hno, hmsg⟩

/-- An envelope is read from a text exactly when the tree of the text describes it. -/
theorem parse?_eq_some_iff {s : String} {e : Envelope} :
    parse? s = some e ↔ ∃ t, Tree.IsText t s ∧ Describes t e := by
  rw [parse?]
  exact Tree.bind_parse?_eq_some_iff fun _ _ => ofTree?_eq_some_iff

/-- An object that wraps a text has none of the fields, and so it is the form of a success. -/
theorem describes_of_wraps {t : Tree} {s : String} (h : t.Wraps s) : Describes t {} := by
  rw [← ofTree?_eq_some_iff]
  cases h with
  | object source hk _ =>
    have hkeys := StringText.decode?_eq_some_iff.mpr hk
    simp [ofTree?, fieldNames, Record.fields?, Record.ofObject?, Record.decodeKeys?, hkeys,
      Record.only?, Value.wrapKey, ofFields?]

section Fields

variable {t : Tree} {e : Envelope}

/-- Whatever a tree carries for the fields of the envelope that it describes says the same. -/
theorem Describes.carries (h : Describes t e) (t' : Tree) :
    (Record.Carries "request_id" 0 t t' → t'.IsString e.requestId) ∧
      (Record.Carries "errno" 1 t t' → t'.IsInt64 e.errno) ∧
        (Record.Carries "errmsg" 2 t t' → t'.IsString e.errmsg) := by
  obtain ⟨hg, hid, hno, hmsg⟩ := h
  exact ⟨hid.of_carries hg rfl rfl, hno.of_carries hg rfl rfl, hmsg.of_carries hg rfl rfl⟩

/-- **A value shows what the envelope says**, unless it is the value of a wrapped text. -/
theorem Describes.shows (h : Describes t e) {unwraps : Bool} {depth : Nat} {v : Value}
    (hv : Value.Denotes unwraps depth t v) (hplain : unwraps = true → ¬ t.IsWrapper) (w : Value) :
    (Record.Shows "request_id" 0 v w → w = .string e.requestId) ∧
      (Record.Shows "errno" 1 v w → w = .integer e.errno.toInt) ∧
        (Record.Shows "errmsg" 2 v w → w = .string e.errmsg) := by
  refine ⟨fun hw => ?_, fun hw => ?_, fun hw => ?_⟩
  · obtain ⟨t', depth', hc, hd⟩ := Record.exists_carries_of_shows hv hplain hw
    exact ((h.carries t').1 hc).eq_of_denotes hd
  · obtain ⟨t', depth', hc, hd⟩ := Record.exists_carries_of_shows hv hplain hw
    exact ((h.carries t').2.1 hc).eq_of_denotes hd
  · obtain ⟨t', depth', hc, hd⟩ := Record.exists_carries_of_shows hv hplain hw
    exact ((h.carries t').2.2 hc).eq_of_denotes hd

end Fields

end AssetAccess.Client.Envelope
