import AssetAccess.Account.KeyPair
import AssetAccess.Auth.CredentialsJson
import AssetAccess.Proofs.Client.Envelope
import AssetAccess.Proofs.Json.Writing
/-!
# Records survive being written

Credentials, envelopes and key pairs are written as compact objects and are read from any text
whose tree describes them: an object with its fields in any order, other members and escapes, or an
array of the fields.  What is written for a record describes it, so the record is read back, and a
text that is written anew does not change any more (`Survives.of_describes`).
-/

namespace AssetAccess

open Json

/-! ### Reading and writing -/

variable {α : Type}

/-- Values survive being written: a text is read as what its tree describes, or refused; each value
is read back from its own text; and any text that is read may be written anew without a change of
its value and without a further change of the text. -/
structure Survives (read : String → Except Error α) (write : α → String)
    (Describes : Tree → α → Prop) : Prop where
  read_iff (s : String) (a : α) : read s = .ok a ↔ ∃ t, Tree.IsText t s ∧ Describes t a
  refused (s : String) (h : ∀ a, read s ≠ .ok a) : read s = .error .json
  read_write (a : α) : read (write a) = .ok a
  write_again (s t : String) (h : (read s).map write = .ok t) :
    read t = read s ∧ (read t).map write = .ok t

/-- It takes no more than that trees are read as what they describe, and that what is written for a
value describes it. -/
theorem Survives.of_describes {read : String → Except Error α} {write : α → String}
    {ofTree? : Tree → Option α} {Describes : Tree → α → Prop}
    (hread : ∀ s, read s = ((Tree.parse? s).bind ofTree?).elim (.error .json) .ok)
    (htree : ∀ t a, ofTree? t = some a ↔ Describes t a)
    (hwrite : ∀ a, ∃ t, Tree.IsText t (write a) ∧ Describes t a) :
    Survives read write Describes := by
  have hiff (s : String) (a : α) : read s = .ok a ↔ ∃ t, Tree.IsText t s ∧ Describes t a := by
    rw [hread, ← Tree.bind_parse?_eq_some_iff htree]
    cases (Tree.parse? s).bind ofTree? <;> simp
  have hback (a : α) : read (write a) = .ok a := (hiff _ a).mpr (hwrite a)
  refine ⟨hiff, fun s h => ?_, hback, fun s t h => ?_⟩
  · rw [hread] at h ⊢
    cases hvalue : (Tree.parse? s).bind ofTree? with
    | none => rfl
    | some a => exact absurd (by rw [hvalue]; rfl) (h a)
  · obtain ⟨a, ha, rfl⟩ := map_eq_ok_iff.mp h
    rw [hback, ha]
    exact ⟨rfl, rfl⟩

/-- The member with this key and the text of a value between quotes. -/
theorem writes_quoted (key s : String) :
    Writes (key, quoted s) (key, .string (StringText.encode s.toList)) :=
  ⟨rfl, spells_quoted s⟩

/-- The member with this key and the written form of an integer. -/
theorem writes_ofInt (key : String) (n : Int) :
    Writes (key, Decimal.ofInt n) (key, .number (Decimal.ofInt n).toList) :=
  ⟨rfl, spells_ofInt n⟩

/-! ### Credentials -/

namespace Auth.Credentials

/-- The tree has the form of credentials with these fields, none of which may be missing. -/
inductive Describes (t : Tree) (c : Credentials) : Prop where
  | mk {appId accessKeyId secretAccessKey : Tree}
      (h : Record.Gives ["app_id", "access_key_id", "secret_access_key"] t
        [some appId, some accessKeyId, some secretAccessKey])
      (happ : appId.IsInt64 c.appId) (hid : accessKeyId.IsString c.accessKeyId)
      (hsecret : secretAccessKey.IsString c.secretAccessKey)

theorem ofTree?_eq_some_iff (t : Tree) (c : Credentials) :
    ofTree? t = some c ↔ Describes t c := by
  unfold ofTree?
  constructor
  · intro h
    split at h
    · rename_i appId accessKeyId secretAccessKey hfields
      simp only [Option.bind_eq_bind, Option.bind_eq_some_iff, Tree.int64?_eq_some_iff,
        Tree.text?_eq_some_iff] at h
      obtain ⟨_, happ, _, hid, _, hsecret, h⟩ := h
      obtain rfl := Option.some.inj h
      exact ⟨Record.fields?_eq_some_iff.mp hfields, happ, hid, hsecret⟩
    · exact absurd h (by simp)
  · rintro ⟨h, happ, hid, hsecret⟩
    rw [show fieldNames = ["app_id", "access_key_id", "secret_access_key"] from rfl,
      Record.fields?_eq_some_iff.mpr h]
    dsimp only
    rw [Tree.int64?_eq_some_iff.mpr happ, Tree.text?_eq_some_iff.mpr hid,
      Tree.text?_eq_some_iff.mpr hsecret]
    rfl

theorem ofJson_eq (s : String) :
    ofJson s = ((Tree.parse? s).bind ofTree?).elim (.error .json) .ok := by
  unfold ofJson
  cases (Tree.parse? s).bind ofTree? <;> rfl

/-- What is written for credentials describes them. -/
theorem exists_describes_toJson (c : Credentials) :
    ∃ t, Tree.IsText t c.toJson ∧ Describes t c := by
  have hnames : fieldNames.Nodup := by decide
  obtain ⟨t, ht, hgives⟩ := exists_gives_object
    (.cons (writes_ofInt "app_id" c.appId.toInt)
      (.cons (writes_quoted "access_key_id" c.accessKeyId)
        (.cons (writes_quoted "secret_access_key" c.secretAccessKey) .nil)))
    hnames fieldNames
  exact ⟨t, ht, hgives, isInt64_ofInt _, isString_encode _, isString_encode _⟩

end Auth.Credentials

/-! ### Envelopes -/

namespace Client.Envelope

theorem ofJson_eq (s : String) :
    ofJson s = ((Tree.parse? s).bind ofTree?).elim (.error .json) .ok := by
  unfold ofJson parse?
  cases (Tree.parse? s).bind ofTree? <;> rfl

/-- What is written for an envelope describes it, with no field missing. -/
theorem exists_describes_toJson (e : Envelope) :
    ∃ t, Tree.IsText t e.toJson ∧ Describes t e := by
  have hnames : fieldNames.Nodup := by decide
  obtain ⟨t, ht, hgives⟩ := exists_gives_object
    (.cons (writes_quoted "request_id" e.requestId)
      (.cons (writes_ofInt "errno" e.errno.toInt)
        (.cons (writes_quoted "errmsg" e.errmsg) .nil)))
    hnames fieldNames
  exact ⟨t, ht, hgives, .given (isString_encode _), .given (isInt64_ofInt _),
    .given (isString_encode _)⟩

end Client.Envelope

/-! ### Key pairs -/

namespace Account.KeyPair

/-- The tree has the form of a key pair with these two texts, neither of which may be missing. -/
inductive Describes (t : Tree) (k : KeyPair) : Prop where
  | mk {privateKey publicKey : Tree}
      (h : Record.Gives ["private_key", "public_key"] t [some privateKey, some publicKey])
      (hprivate : privateKey.IsString k.privateKey) (hpublic : publicKey.IsString k.publicKey)

theorem ofTree?_eq_some_iff (t : Tree) (k : KeyPair) : ofTree? t = some k ↔ Describes t k := by
  unfold ofTree?
  constructor
  · intro h
    split at h
    · rename_i privateKey publicKey hfields
      simp only [Option.bind_eq_bind, Option.bind_eq_some_iff, Tree.text?_eq_some_iff] at h
      obtain ⟨_, hprivate, _, hpublic, h⟩ := h
      obtain rfl := Option.some.inj h
      exact ⟨Record.fields?_eq_some_iff.mp hfields, hprivate, hpublic⟩
    · exact absurd h (by simp)
  · rintro ⟨h, hprivate, hpublic⟩
    rw [show fieldNames = ["private_key", "public_key"] from rfl,
      Record.fields?_eq_some_iff.mpr h]
    dsimp only
    rw [Tree.text?_eq_some_iff.mpr hprivate, Tree.text?_eq_some_iff.mpr hpublic]
    rfl

theorem ofJson_eq (s : String) :
    ofJson s = ((Tree.parse? s).bind ofTree?).elim (.error .json) .ok := by
  unfold ofJson
  cases (Tree.parse? s).bind ofTree? <;> rfl

/-- What is written for a key pair describes it, whatever its two texts are. -/
theorem exists_describes_toJson (k : KeyPair) :
    ∃ t, Tree.IsText t k.toJson ∧ Describes t k := by
  have hnames : fieldNames.Nodup := by decide
  obtain ⟨t, ht, hgives⟩ := exists_gives_object
    (.cons (writes_quoted "private_key" k.privateKey)
      (.cons (writes_quoted "public_key" k.publicKey) .nil))
    hnames fieldNames
  exact ⟨t, ht, hgives, isString_encode _, isString_encode _⟩

end Account.KeyPair

/-! ### All three -/

/-- **Records survive being written**: credentials, envelopes and key pairs, with any number and any
texts in them, and however the text was spelled that they were read from. -/
theorem records_survive :
    Survives Auth.Credentials.ofJson Auth.Credentials.toJson Auth.Credentials.Describes ∧
    Survives Client.Envelope.ofJson Client.Envelope.toJson Client.Envelope.Describes ∧
    Survives Account.KeyPair.ofJson Account.KeyPair.toJson Account.KeyPair.Describes :=
  ⟨.of_describes Auth.Credentials.ofJson_eq Auth.Credentials.ofTree?_eq_some_iff
      Auth.Credentials.exists_describes_toJson,
    .of_describes Client.Envelope.ofJson_eq (fun _ _ => Client.Envelope.ofTree?_eq_some_iff)
      Client.Envelope.exists_describes_toJson,
    .of_describes Account.KeyPair.ofJson_eq Account.KeyPair.ofTree?_eq_some_iff
      Account.KeyPair.exists_describes_toJson⟩

/-- Credentials with their fields in another order, a field that nobody asked for, a surrogate pair
and the least number; an envelope as an array of its first field; and a key pair whose texts are
JSON themselves. -/
theorem records_survive_respelled :
    let s := " \x7b\"secret_access_key\":\"\\ud83d\\ude00\\\"\", \"note\":[1e999,null],\n" ++
      "\"access_key_\\u0069d\":\"A\\/K\",\"app_id\":-9223372036854775808\x7d"
    let c : Auth.Credentials := ⟨-9223372036854775808, "A/K", "😀\""⟩
    let e : Client.Envelope := ⟨"r\u0001", 0, ""⟩
    let k : Account.KeyPair := ⟨"\x7b\"D\":1\x7d", "\x7b\"X\":0\x7d"⟩
    (Auth.Credentials.ofJson s).map Auth.Credentials.toJson = .ok c.toJson ∧
    Auth.Credentials.ofJson c.toJson = Auth.Credentials.ofJson s ∧
    (Auth.Credentials.ofJson c.toJson).map Auth.Credentials.toJson = .ok c.toJson ∧
    (Client.Envelope.ofJson "[\"r\\u0001\"]").map Client.Envelope.toJson = .ok e.toJson ∧
    Client.Envelope.ofJson e.toJson = Client.Envelope.ofJson "[\"r\\u0001\"]" ∧
    Account.KeyPair.ofJson k.toJson = .ok k := by
  intro s c e k
  have hc : (Auth.Credentials.ofJson s).map Auth.Credentials.toJson = .ok c.toJson := by
    decide +kernel
  have he : (Client.Envelope.ofJson "[\"r\\u0001\"]").map Client.Envelope.toJson =
      .ok e.toJson := by decide +kernel
  obtain ⟨hcredentials, henvelopes, hpairs⟩ := records_survive
  obtain ⟨hread, hagain⟩ := hcredentials.write_again s _ hc
  exact ⟨hc, hread, hagain, he, (henvelopes.write_again _ _ he).1, hpairs.read_write k⟩

end AssetAccess
