import AssetAccess.Proofs.Auth.CoveredText
import AssetAccess.Proofs.Auth.Signer
/-!
# What a text is read as

`Token.Reading` states the grammar of tokens: which texts are read, what is read from them, and
which fault is found in any other text.  `Token.parse` follows it and does nothing else
(`Token.parse_eq_iff`).

Reading loses nothing.  The lifetime and the date are understood, but the scope stays the text that
was received, since a signature is made with it; so scope, names and signature give back the whole
text (`Token.lossless_of_parse`).  What a signer writes is read as what the signer meant
(`Signer.exists_readBack`).
-/

namespace AssetAccess.Auth

/-- A text falls into these six fields between its slashes. -/
def RawToken.Spells (r : RawToken) (text : String) : Prop :=
  r.text = text ∧ ∀ f ∈ r.fields, '/' ∉ f.toList

theorem RawToken.spells_iff {r : RawToken} {text : String} :
    r.Spells text ↔ Text.pieces '/' text = r.fields := by
  rw [RawToken.pieces_eq_fields_iff]
  exact and_congr_left' eq_comm

namespace Token

/-! ### The grammar -/

/-- What a text is read as.  A fault is looked for only where all faults before it are absent. -/
inductive Reading (text : String) : Except Error Token → Prop where
  | malformedToken (h : text.toList.count '/' ≠ 5) : Reading text (.error .malformedToken)
  | unsupportedVersion {r : RawToken} (h : r.Spells text) (ht : r.tag ≠ version) :
      Reading text (.error .unsupportedVersion)
  | expirationOutOfRange {r : RawToken} (h : r.Spells text) (ht : r.tag = version)
      (hl : ∀ n, ¬ r.LastsFor n) : Reading text (.error .expirationOutOfRange)
  | badDateField {r : RawToken} {n : Int} (h : r.Spells text) (ht : r.tag = version)
      (hl : r.LastsFor n) (hd : SignDate.parse? r.date = none) :
      Reading text (.error .badDateField)
  | read {r : RawToken} {n : Int} {t : Instant} (h : r.Spells text) (ht : r.tag = version)
      (hl : r.LastsFor n) (hd : SignDate.parse? r.date = some t) :
      Reading text (.ok {
        accessKeyId := r.accessKeyId, signDate := t, expireSeconds := n, signature := r.signature
        signedHeaders := r.listed, scope := r.scope })

/-- A text with five slashes falls into six fields. -/
theorem exists_spells {text : String} (h : text.toList.count '/' = 5) :
    ∃ r : RawToken, r.Spells text := by
  have hlen : (Text.pieces '/' text).length = 6 := by rw [Text.length_pieces, h]
  obtain ⟨r, hr⟩ := RawToken.exists_fields hlen
  exact ⟨r, RawToken.spells_iff.mpr hr⟩

/-- Every text is read as the grammar says. -/
theorem reading_parse (text : String) : Reading text (parse text) := by
  by_cases h5 : text.toList.count '/' = 5
  · obtain ⟨r, hr⟩ := exists_spells h5
    have hp := RawToken.spells_iff.mp hr
    by_cases ht : r.tag = version
    · by_cases hl : ∃ n, r.LastsFor n
      · obtain ⟨n, hl⟩ := hl
        cases hd : SignDate.parse? r.date with
        | none =>
          rw [parse_of_date_eq_none hp ht hl hd]
          exact .badDateField hr ht hl hd
        | some t =>
          rw [parse_of_date_eq_some hp ht hl hd]
          exact .read hr ht hl hd
      · have hnone := not_exists.mp hl
        rw [parse_of_not_lastsFor hp ht hnone]
        exact .expirationOutOfRange hr ht hnone
    · rw [parse_of_tag_ne hp ht]
      exact .unsupportedVersion hr ht
  · have hlen : (Text.pieces '/' text).length ≠ 6 := by
      rw [Text.length_pieces]
      omega
    rw [parse_of_length_ne hlen]
    exact .malformedToken h5

/-- The grammar says one thing of each text. -/
theorem parse_of_reading {text : String} {x : Except Error Token} (h : Reading text x) :
    parse text = x := by
  cases h with
  | malformedToken h =>
    apply parse_of_length_ne
    rw [Text.length_pieces]
    omega
  | unsupportedVersion h ht => exact parse_of_tag_ne (RawToken.spells_iff.mp h) ht
  | expirationOutOfRange h ht hl => exact parse_of_not_lastsFor (RawToken.spells_iff.mp h) ht hl
  | badDateField h ht hl hd => exact parse_of_date_eq_none (RawToken.spells_iff.mp h) ht hl hd
  | read h ht hl hd => exact parse_of_date_eq_some (RawToken.spells_iff.mp h) ht hl hd

theorem parse_eq_iff {text : String} {x : Except Error Token} :
    parse text = x ↔ Reading text x := by
  constructor
  · rintro rfl
    exact reading_parse text
  · exact parse_of_reading

/-! ### What a token keeps of its text -/

/-- Nothing of the text is lost in the token, which lists at least one name, be it empty; and the
second at which it expires is the exact sum of its date and its lifetime, also when the two are
added as numbers of 64 bits. -/
structure Lossless (p : Token) (text : String) : Prop where
  text_eq : p.scope ++ "/" ++ ";".intercalate p.signedHeaders ++ "/" ++ p.signature = text
  signedHeaders_ne_nil : p.signedHeaders ≠ []
  toInt_second : (Int64.ofInt p.signDate.second).toInt = p.signDate.second
  toInt_sum : (Int64.ofInt p.signDate.second + Int64.ofInt p.expireSeconds).toInt = p.expiresAt

/-- A date and an allowed lifetime are far from the ends of 64 bits, and so is their sum. -/
theorem toInt_sum_of_le {t : Instant} {n : Int} (h0 : 0 ≤ n) (hn : n ≤ 3600) :
    (Int64.ofInt t.second).toInt = t.second ∧
      (Int64.ofInt t.second + Int64.ofInt n).toInt = t.second + n := by
  have hfirst : -8334601228800 ≤ t.second := t.firstSecond_le
  have hlast : t.second ≤ 8210266876799 := t.le_lastSecond
  rw [← Int64.ofInt_add]
  constructor
  · apply Int64.toInt_ofInt_of_le <;> omega
  · apply Int64.toInt_ofInt_of_le <;> omega

theorem lossless_of_parse {text : String} {p : Token} (h : parse text = .ok p) :
    p.Lossless text := by
  cases parse_eq_iff.mp h with
  | @read r n t hr _ hl _ =>
    have hsum := toInt_sum_of_le (t := t) hl.2.1 hl.2.2
    refine ⟨?_, Text.pieces_ne_nil ';' r.names, hsum.1, hsum.2⟩
    show r.scope ++ "/" ++ ";".intercalate r.listed ++ "/" ++ r.signature = text
    have hnames : ";".intercalate r.listed = r.names := Text.intercalate_pieces (by simp) r.names
    rw [hnames, ← hr.1, RawToken.text_eq, String.intercalate_cons_cons,
      String.intercalate_cons_cons, String.intercalate_singleton]
    simp only [String.append_assoc]

end Token

/-! ### The tokens of a signer -/

namespace Signer

/-- A token holds what a signer has put into it for a request: the key id, the second of the date,
the lifetime, the names of the covered headers in ascending order, and the signature. -/
structure ReadBack (s : Signer) (request : Http.Request) (second : Int) (p : Token) : Prop where
  accessKeyId : p.accessKeyId = s.credentials.accessKeyId
  second_signDate : p.signDate.second = second
  nano_signDate : p.signDate.nano = 0
  expireSeconds : p.expireSeconds = s.options.effectiveExpireSeconds
  signedHeaders : p.signedHeaders =
    Coverage.signedNames request.fields s.options.effectiveHeaders
  pairwise_signedHeaders : p.signedHeaders.Pairwise Text.BytesLT
  signature : p.signature = signature s.credentials.secretAccessKey p.scope
    (CanonicalRequest.of request s.options.effectiveHeaders)
  length_signature : p.signature.length = 64
  isSmallHexDigit : ∀ c ∈ p.signature.toList, Hmac.isSmallHexDigit c = true

/-- A signer's token is read as what the signer meant, if the key id holds no slash and the lifetime
is one that may be claimed. -/
theorem exists_readBack {s : Signer} {request : Http.Request} {clock : Clock} {token : String}
    (h : (s.sign request).result clock = .ok token)
    (hid : '/' ∉ s.credentials.accessKeyId.toList)
    (hle : s.options.effectiveExpireSeconds ≤ 3600) :
    ∃ p, Token.parse token = .ok p ∧ s.ReadBack request (s.dateSecond clock) p := by
  obtain ⟨-, hh, t, ht, rfl⟩ := result_sign_eq_ok_iff.mp h
  have hspells : (s.issued request t).Spells (s.issued request t).text := by
    refine ⟨rfl, ?_⟩
    intro f hf
    rcases eq_or_isPlain_of_mem_fields hf with rfl | hplain
    · exact hid
    · exact hplain.not_mem
  have hread := Token.Reading.read hspells rfl (lastsFor_issued_iff.mpr ⟨rfl, hle⟩)
    (parse?_date_issued s request ht)
  obtain ⟨hsecond, hnano⟩ := Instant.of?_eq_some_iff.mp ht
  refine ⟨_, Token.parse_of_reading hread, ?_⟩
  exact {
    accessKeyId := rfl
    second_signDate := hsecond
    nano_signDate := hnano
    expireSeconds := rfl
    signedHeaders := listed_issued hh
    pairwise_signedHeaders := by
      show (s.issued request t).listed.Pairwise Text.BytesLT
      rw [listed_issued hh]
      exact Coverage.pairwise_signedNames _ _
    signature := rfl
    length_signature := Hmac.length_hex _ _
    isSmallHexDigit := fun c => Hmac.isSmallHexDigit_of_mem_hex }

end Signer

/-- **Tokens are read exactly and without loss.**  A text is read as the grammar says; what is read
tells the text it was read from; and what is read from the token of a signer is what the signer put
into it. -/
theorem Token.parse_exact :
    (∀ text x, parse text = x ↔ Reading text x) ∧
    (∀ text p, parse text = .ok p → p.Lossless text) ∧
    ∀ (s : Signer) (request : Http.Request) (clock : Clock) (token : String),
      (s.sign request).result clock = .ok token →
      '/' ∉ s.credentials.accessKeyId.toList → s.options.effectiveExpireSeconds ≤ 3600 →
      ∃ p, parse token = .ok p ∧ s.ReadBack request (s.dateSecond clock) p := by
  refine ⟨?_, ?_, ?_⟩
  · intro text x
    exact parse_eq_iff
  · intro text p h
    exact lossless_of_parse h
  · intro s request clock token h hid hle
    exact Signer.exists_readBack h hid hle

/-- A token with a sign and zeros before its lifetime, a blank in its date and no names at all; and
the token of a signer. -/
theorem Token.exists_lossless_and_readBack :
    let text := "bce-auth-v1/id/2023-11-14T 22:13:20Z/+000060//s"
    let s : Signer := ⟨⟨0, "id", "secret"⟩, { timestamp := 1700000000 }⟩
    let request : Http.Request :=
      ⟨.post, ⟨none, none, "/", none⟩, ⟨[(.host, ⟨[0x68], by decide⟩)]⟩, ""⟩
    (∃ p, parse text = .ok p ∧ p.Lossless text) ∧
    ∃ token p, (s.sign request).result (.fixed .epoch) = .ok token ∧ parse token = .ok p ∧
      s.ReadBack request 1700000000 p := by
  intro text s request
  obtain ⟨-, hlossless, hread⟩ := parse_exact
  constructor
  · have hsome : (parse text).toOption.isSome := by decide +kernel
    cases h : parse text with
    | error e =>
      rw [h] at hsome
      exact absurd hsome (by simp [Except.toOption])
    | ok p => exact ⟨p, rfl, hlossless _ _ h⟩
  · have hsign : (s.sign request).result (.fixed .epoch) = .ok _ :=
      Signer.result_sign_eq_ok_iff.mpr ⟨⟨by decide, by decide⟩, by decide, _, rfl, rfl⟩
    obtain ⟨p, hp, hback⟩ := hread s request _ _ hsign (by decide +kernel) (by decide)
    exact ⟨_, p, hsign, hp, hback⟩

end AssetAccess.Auth
