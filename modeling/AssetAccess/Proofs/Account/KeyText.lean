import AssetAccess.Account.KeyText
import AssetAccess.Proofs.Curve.Generator
import AssetAccess.Proofs.Json.Writing
import AssetAccess.Proofs.Text.Blank
/-!
# Keys are read back

A component is a run of digits, perhaps between quotes, that denotes a number of at most 32 bytes.
Two of them are read as the point that has these coordinates, if it is on the curve
(`KeyText.point_eq_ok_iff`), and a third one as the private scalar, if that point is its public
point (`KeyText.scalar_eq_ok_iff`).

What is written for a key is such a text.  Its numbers are taken from 32 bytes each and are written
without leading zeros, so they are found again whatever their first bytes are.  Hence writing undoes
reading and reading undoes writing (`keyText_roundTrip`).
-/

namespace AssetAccess.Account

open Curve

theorem keyResult_eq_ok_iff {α : Type} {r : Except KeyFault α} {a : α} :
    keyResult r = .ok a ↔ r = .ok a := by
  cases r with
  | error fault => simp [keyResult, Except.mapError]
  | ok b => simp [keyResult, Except.mapError]

/-- A key is read, or it is refused as unusable. -/
theorem keyResult_refused_iff {α : Type} {r : Except KeyFault α} :
    (∀ a, keyResult r ≠ .ok a) ↔ ∃ fault, keyResult r = .error (.invalidKey fault) := by
  cases r with
  | error fault => exact ⟨fun _ => ⟨fault, rfl⟩, fun _ a h => by cases h⟩
  | ok a => exact ⟨fun h => absurd rfl (h a), fun ⟨fault, h⟩ => by cases h⟩

namespace KeyText

/-! ### Components -/

/-- Between its quotes, if it has any, a component has only digits, and they denote a number of at
most 32 bytes. -/
def IsComponent (source : List Char) (n : Nat) : Prop :=
  (∀ c ∈ trimQuotes source, Decimal.isDigit c = true) ∧
    Decimal.value (trimQuotes source) = n ∧ n < 256 ^ 32

theorem component_eq_ok_iff {source : List Char} {l : List UInt8} :
    component source = .ok l ↔ ∃ n, IsComponent source n ∧ octets n = l := by
  have hbound : componentBound = 256 ^ 32 := by decide
  have hdigits : (trimQuotes source).all Decimal.isDigit = true ↔
      ∀ c ∈ trimQuotes source, Decimal.isDigit c = true := List.all_eq_true
  unfold component IsComponent
  dsimp only
  rw [hbound]
  split
  · rename_i h
    rw [Bool.and_eq_true, decide_eq_true_eq, hdigits] at h
    rw [Except.ok.injEq]
    constructor
    · rintro rfl
      exact ⟨_, ⟨h.1, rfl, h.2⟩, rfl⟩
    · rintro ⟨n, ⟨-, rfl, -⟩, rfl⟩
      rfl
  · rename_i h
    rw [Bool.and_eq_true, decide_eq_true_eq, hdigits] at h
    refine iff_of_false (by simp) ?_
    rintro ⟨n, ⟨hd, rfl, hn⟩, -⟩
    exact h ⟨hd, hn⟩

theorem trimQuotes_of_isDigit {l : List Char} (h : ∀ c ∈ l, Decimal.isDigit c = true) :
    trimQuotes l = l := by
  have noQuote {l : List Char} (h : ∀ c ∈ l, Decimal.isDigit c = true) :
      l.dropWhile (· == '"') = l := by
    cases l with
    | nil => rfl
    | cons c l =>
      refine List.dropWhile_cons_of_neg fun hc => ?_
      have hdigit := h c List.mem_cons_self
      rw [beq_iff_eq.mp hc] at hdigit
      exact absurd hdigit (by decide)
  rw [trimQuotes, noQuote h, noQuote (fun c hc => h c (List.mem_reverse.mp hc)),
    List.reverse_reverse]

/-- The digits of a number are a component that denotes the number. -/
theorem isComponent_toDigits {n : Nat} (h : n < 256 ^ 32) : IsComponent (Nat.toDigits 10 n) n := by
  have hdigits : ∀ c ∈ Nat.toDigits 10 n, Decimal.isDigit c = true :=
    fun _ => Decimal.isDigit_of_mem_toDigits
  rw [IsComponent, trimQuotes_of_isDigit hdigits, Decimal.value_eq,
    Nat.ofDigitChars_toDigits (by decide) (by decide)]
  exact ⟨hdigits, rfl, h⟩

/-! ### Points and scalars -/

/-- The public point of a key is the one with its coordinates. -/
theorem point_eq_ok_iff {k : KeyText} {q : Point} :
    k.point = .ok q ↔
      ∃ x y, IsComponent k.x x ∧ IsComponent k.y y ∧ isOnCurve x y = true ∧ q = .affine x y := by
  simp only [point, bind_eq_ok_iff, component_eq_ok_iff]
  constructor
  · rintro ⟨_, ⟨x, hx, rfl⟩, _, ⟨y, hy, rfl⟩, h⟩
    split at h
    · rename_i p hp
      obtain rfl := Except.ok.inj h
      obtain ⟨hcurve, hq⟩ := (Point.ofOctets?_eq_some_iff hx.2.2 hy.2.2).mp hp
      exact ⟨x, y, hx, hy, hcurve, hq⟩
    · exact absurd h (by simp)
  · rintro ⟨x, y, hx, hy, hcurve, rfl⟩
    have hp := (Point.ofOctets?_eq_some_iff hx.2.2 hy.2.2).mpr ⟨hcurve, rfl⟩
    exact ⟨_, ⟨x, hx, rfl⟩, _, ⟨y, hy, rfl⟩, by rw [hp]⟩

/-- The private scalar of a key is the one that it denotes, if its public point belongs to it. -/
theorem scalar_eq_ok_iff {k : KeyText} {d : Nat} :
    k.scalar = .ok d ↔ (∃ source, k.d = some source ∧ IsComponent source d) ∧
      isScalar d = true ∧ k.point = .ok (publicPoint d) := by
  unfold scalar
  split
  · rename_i hnone
    simp [hnone]
  · rename_i source hsome
    simp only [hsome, bind_eq_ok_iff, component_eq_ok_iff, Option.some.injEq, exists_eq_left']
    constructor
    · rintro ⟨_, ⟨n, hn, rfl⟩, h⟩
      rw [ofOctets_octets hn.2.2] at h
      split at h
      · exact absurd h (by simp)
      · rename_i hscalar
        obtain ⟨q, hq, h⟩ := bind_eq_ok_iff.mp h
        split at h
        · rename_i hpoint
          obtain rfl := Except.ok.inj h
          exact ⟨hn, by simpa using hscalar, by rw [hq, hpoint]⟩
        · exact absurd h (by simp)
    · rintro ⟨hd, hscalar, hpoint⟩
      refine ⟨_, ⟨d, hd, rfl⟩, ?_⟩
      rw [ofOctets_octets hd.2.2, hscalar, hpoint]
      exact if_pos rfl

/-! ### Writing -/

/-- The record of a key, as a tree for each field. -/
def fieldTrees (x y : Nat) (d : Option Nat) : List (String × Json.Tree) :=
  [("Curvname", .string (Json.StringText.encode Curve.name.toList)),
    ("X", .number (Nat.toDigits 10 x)), ("Y", .number (Nat.toDigits 10 y))]
    ++ d.toList.map fun n => ("D", .number (Nat.toDigits 10 n))

theorem nodup_fieldTrees (x y : Nat) (d : Option Nat) :
    ((fieldTrees x y d).map Prod.fst).Nodup := by
  have publicNames : ["Curvname", "X", "Y"].Nodup := by decide
  have privateNames : ["Curvname", "X", "Y", "D"].Nodup := by decide
  cases d with
  | none => exact publicNames
  | some d => exact privateNames

/-- The fields of a key are found where they are written. -/
theorem fields?_keyText {x y : Nat} {d : Option Nat} (h : isOnCurve x y = true)
    (hd : ∀ n ∈ d, isScalar n = true) :
    (Json.Tree.parse? (keyText (.affine x y) d)).bind (Json.Record.fields? fieldNames) =
      some [some (.string (Json.StringText.encode Curve.name.toList)),
        some (.number (Nat.toDigits 10 x)), some (.number (Nat.toDigits 10 y)),
        d.map fun n => .number (Nat.toDigits 10 n)] := by
  obtain ⟨hx, hy⟩ := lt_of_isOnCurve h
  -- the coordinates are cut out of the bytes of the point, 32 each behind the tag
  have hcoordinates : (Point.octets (.affine x y)).drop 1 = octets x ++ octets y := rfl
  have number (key : String) {n : Nat} (hn : n < 256 ^ 32) :
      Json.Writes (key, Decimal.ofNat (ofOctets (octets n)))
        (key, .number (Nat.toDigits 10 n)) := by
    rw [ofOctets_octets hn]
    exact ⟨rfl, Json.spells_ofNat n⟩
  have hname : Json.Writes ("Curvname", Json.quoted Curve.name)
      ("Curvname", .string (Json.StringText.encode Curve.name.toList)) :=
    ⟨rfl, Json.spells_quoted Curve.name⟩
  unfold keyText
  dsimp only
  rw [hcoordinates, take_append_octets, drop_append_octets]
  cases d with
  | none =>
    have hwrites : List.Forall₂ Json.Writes _ (fieldTrees x y none) :=
      .cons hname (.cons (number "X" hx) (.cons (number "Y" hy) .nil))
    exact Json.fields?_object hwrites (nodup_fieldTrees x y none) fieldNames
  | some d =>
    have hscalar := number "D" (lt_of_isScalar (hd d rfl))
    have hwrites : List.Forall₂ Json.Writes _ (fieldTrees x y (some d)) :=
      .cons hname (.cons (number "X" hx) (.cons (number "Y" hy) (.cons hscalar .nil)))
    exact Json.fields?_object hwrites (nodup_fieldTrees x y (some d)) fieldNames

/-- What is written for a key is the record of its numbers. -/
theorem parse_keyText {x y : Nat} {d : Option Nat} (h : isOnCurve x y = true)
    (hd : ∀ n ∈ d, isScalar n = true) :
    parse (keyText (.affine x y) d) =
      .ok ⟨Nat.toDigits 10 x, Nat.toDigits 10 y, d.map (Nat.toDigits 10)⟩ := by
  have htrim : (Text.trim (keyText (.affine x y) d).toList).isEmpty = false := by
    rw [keyText, Json.object, String.toList_append, String.toList_append]
    exact Text.trim_isEmpty_of_mem List.mem_cons_self (by decide)
  have hname : Json.Tree.text? (.string (Json.StringText.encode Curve.name.toList)) =
      some Curve.name := Json.Tree.text?_eq_some_iff.mpr (Json.isString_encode Curve.name)
  obtain ⟨t, ht, hfields⟩ := Option.bind_eq_some_iff.mp (fields?_keyText h hd)
  have htree : ofTree? t =
      some (Curve.name, ⟨Nat.toDigits 10 x, Nat.toDigits 10 y, d.map (Nat.toDigits 10)⟩) := by
    unfold ofTree?
    rw [hfields]
    dsimp only
    rw [hname]
    cases d with
    | none => rfl
    | some d => rfl
  unfold parse
  rw [htrim, ht, Option.bind_some, htree]
  rfl

end KeyText

/-! ### Keys -/

theorem parsePrivateKey_eq_ok_iff {s : String} {d : Nat} :
    parsePrivateKey s = .ok d ↔ ∃ k, KeyText.parse s = .ok k ∧ k.scalar = .ok d := by
  rw [parsePrivateKey, keyResult_eq_ok_iff, bind_eq_ok_iff]

theorem parsePublicKey_eq_ok_iff {s : String} {q : Point} :
    parsePublicKey s = .ok q ↔ ∃ k, KeyText.parse s = .ok k ∧ k.point = .ok q := by
  rw [parsePublicKey, keyResult_eq_ok_iff, bind_eq_ok_iff]

/-- What is read as a private key is a scalar, and its text is read as its public point. -/
theorem isScalar_of_parsePrivateKey {s : String} {d : Nat} (h : parsePrivateKey s = .ok d) :
    isScalar d = true ∧ parsePublicKey s = .ok (publicPoint d) := by
  obtain ⟨k, hk, hd⟩ := parsePrivateKey_eq_ok_iff.mp h
  obtain ⟨-, hscalar, hpoint⟩ := KeyText.scalar_eq_ok_iff.mp hd
  exact ⟨hscalar, parsePublicKey_eq_ok_iff.mpr ⟨k, hk, hpoint⟩⟩

/-- What is read as a public key is a point of the curve. -/
theorem isOnCurve_of_parsePublicKey {s : String} {q : Point} (h : parsePublicKey s = .ok q) :
    ∃ x y, isOnCurve x y = true ∧ q = .affine x y := by
  obtain ⟨k, -, hq⟩ := parsePublicKey_eq_ok_iff.mp h
  obtain ⟨x, y, -, -, hcurve, rfl⟩ := KeyText.point_eq_ok_iff.mp hq
  exact ⟨x, y, hcurve, rfl⟩

/-- The point of a key is read back from its text, with a scalar in it or without. -/
theorem parsePublicKey_keyText {x y : Nat} {d : Option Nat} (h : isOnCurve x y = true)
    (hd : ∀ n ∈ d, isScalar n = true) :
    parsePublicKey (keyText (.affine x y) d) = .ok (.affine x y) := by
  obtain ⟨hx, hy⟩ := lt_of_isOnCurve h
  exact parsePublicKey_eq_ok_iff.mpr ⟨_, KeyText.parse_keyText h hd, KeyText.point_eq_ok_iff.mpr
    ⟨x, y, KeyText.isComponent_toDigits hx, KeyText.isComponent_toDigits hy, h, rfl⟩⟩

theorem parsePublicKey_privateKeyText {d : Nat} (h : isScalar d = true) :
    parsePublicKey (privateKeyText d) = .ok (publicPoint d) := by
  obtain ⟨x, y, hq, hcurve⟩ := exists_publicPoint_eq h
  rw [privateKeyText, hq]
  exact parsePublicKey_keyText hcurve (by simp [h])

theorem parsePublicKey_publicKeyText {q : Point} {x y : Nat} (hq : q = .affine x y)
    (h : isOnCurve x y = true) : parsePublicKey (publicKeyText q) = .ok q := by
  subst hq
  exact parsePublicKey_keyText h (by simp)

/-- A private key is read back from its text. -/
theorem parsePrivateKey_privateKeyText {d : Nat} (h : isScalar d = true) :
    parsePrivateKey (privateKeyText d) = .ok d := by
  obtain ⟨x, y, hq, hcurve⟩ := exists_publicPoint_eq h
  obtain ⟨hx, hy⟩ := lt_of_isOnCurve hcurve
  have hpoint : KeyText.point ⟨Nat.toDigits 10 x, Nat.toDigits 10 y, some (Nat.toDigits 10 d)⟩ =
      .ok (publicPoint d) := KeyText.point_eq_ok_iff.mpr
    ⟨x, y, KeyText.isComponent_toDigits hx, KeyText.isComponent_toDigits hy, hcurve, hq⟩
  rw [privateKeyText, hq]
  exact parsePrivateKey_eq_ok_iff.mpr ⟨_, KeyText.parse_keyText hcurve (by simp [h]),
    KeyText.scalar_eq_ok_iff.mpr
      ⟨⟨_, rfl, KeyText.isComponent_toDigits (lt_of_isScalar h)⟩, h, hpoint⟩⟩

/-- **Keys are read back**: every private scalar and every point of the curve from its text.  Any
other text that is read as a key, however it is spelled, can be written anew: the new text is read
as the same key and does not change when it is written anew once more. -/
theorem keyText_roundTrip :
    (∀ d, isScalar d = true → parsePrivateKey (privateKeyText d) = .ok d) ∧
    (∀ x y, isOnCurve x y = true →
      parsePublicKey (publicKeyText (.affine x y)) = .ok (.affine x y)) ∧
    (∀ s t, (parsePrivateKey s).map privateKeyText = .ok t →
      parsePrivateKey t = parsePrivateKey s ∧ (parsePrivateKey t).map privateKeyText = .ok t) ∧
    ∀ s t, (parsePublicKey s).map publicKeyText = .ok t →
      parsePublicKey t = parsePublicKey s ∧ (parsePublicKey t).map publicKeyText = .ok t := by
  refine ⟨fun d => parsePrivateKey_privateKeyText, fun x y => parsePublicKey_publicKeyText rfl,
    fun s t h => ?_, fun s t h => ?_⟩
  · obtain ⟨d, hd, ht⟩ := map_eq_ok_iff.mp h
    have hback : parsePrivateKey t = .ok d := by
      rw [← ht]
      exact parsePrivateKey_privateKeyText (isScalar_of_parsePrivateKey hd).1
    rw [hback]
    exact ⟨hd.symm, congrArg Except.ok ht⟩
  · obtain ⟨q, hq, ht⟩ := map_eq_ok_iff.mp h
    have hback : parsePublicKey t = .ok q := by
      obtain ⟨x, y, hcurve, hxy⟩ := isOnCurve_of_parsePublicKey hq
      rw [← ht]
      exact parsePublicKey_publicKeyText hxy hcurve
    rw [hback]
    exact ⟨hq.symm, congrArg Except.ok ht⟩

/-- The key of the scalar 1, with its fields in another order, one more field, and quotes and a zero
before the scalar. -/
theorem keyText_roundTrip_respelled :
    let y := "36134250956749795798585127919587881956611106672985015071877198253568414405109"
    let x := "48439561293906451759052585252797914202762949526041747995844080717082404635286"
    let s := " \x7b\"D\":\"01\",\"note\":[null],\"Y\":" ++ y ++ ",\"X\":\"" ++ x ++
      "\",\"Curvname\":\"P-256\"\x7d"
    parsePrivateKey (privateKeyText 1) = .ok 1 ∧
    parsePublicKey (publicKeyText Point.base) = .ok Point.base ∧
    (parsePrivateKey s).map privateKeyText = .ok (privateKeyText 1) ∧
    parsePrivateKey (privateKeyText 1) = parsePrivateKey s ∧
    (parsePublicKey s).map publicKeyText = .ok (publicKeyText Point.base) ∧
    parsePublicKey (publicKeyText Point.base) = parsePublicKey s := by
  intro y x s
  have hread : parsePrivateKey s = .ok 1 := by decide +kernel
  have hbase : publicPoint 1 = Point.base := by decide +kernel
  have hprivate : (parsePrivateKey s).map privateKeyText = .ok (privateKeyText 1) := by
    rw [hread]
    rfl
  have hpublic : (parsePublicKey s).map publicKeyText = .ok (publicKeyText Point.base) := by
    rw [(isScalar_of_parsePrivateKey hread).2, hbase]
    rfl
  obtain ⟨hscalars, hpoints, hprivates, hpublics⟩ := keyText_roundTrip
  exact ⟨hscalars 1 (by decide), hpoints _ _ (by decide +kernel), hprivate,
    (hprivates s _ hprivate).1, hpublic, (hpublics s _ hpublic).1⟩

end AssetAccess.Account
