import AssetAccess.Proofs.Account.KeyRecord
import AssetAccess.Proofs.Account.Signing
/-!
# Private keys are consistent

A private key carries three numbers that have to fit each other.  Its text is accepted exactly when
they do, that is, when the coordinates are those of the multiple of the generator that the scalar
says (`SpellsScalar`).  Different scalars have different points and a point has one pair of
coordinates, so no number of an accepted key can be exchanged for another one (`DiffersInOne`).  The
scalar of an accepted key is a numeral, and so are its coordinates other than 0.

What is accepted is also a public key, that of its own scalar; hence what a text signs is never
refused by the same text.  What is not accepted is refused as an unusable key by reading and by
signing alike (`privateKey_consistent`).
-/

namespace AssetAccess.Account

open Curve Json

/-- A text is a private key of this scalar: its coordinates are those of the multiple of the
generator.  The scalar is a numeral; a coordinate may also be the empty string, if it is 0. -/
inductive SpellsScalar (s : String) (d : Nat) : Prop where
  | intro (r : KeyRecord) (t : Tree) (x y : Nat) (hr : r.IsIn s)
      (hcurve : r.curve.IsString "P-256") (hsome : r.d = some t) (hd : IsNumeral t d)
      (hpos : 1 ≤ d) (hlt : d < order) (hx : IsLooseNumeral r.x x) (hy : IsLooseNumeral r.y y)
      (h : Point.ofGroup (d • generator) = .affine x y)

namespace KeyRecord

/-- The numbers of a key. -/
inductive Component where
  | x
  | y
  | d

/-- The value that is given for a number. -/
def value? (r : KeyRecord) : Component → Option Tree
  | .x => some r.x
  | .y => some r.y
  | .d => r.d

/-- The number that is given is this one. -/
def Has (r : KeyRecord) (c : Component) (n : Nat) : Prop :=
  ∃ t, r.value? c = some t ∧ IsLooseNumeral t n

/-- One number is another one, or none at all.  The other two numbers are the same, however they are
written. -/
def DiffersInOne (r r' : KeyRecord) : Prop :=
  ∃ c, (∀ n, r.Has c n → ¬ r'.Has c n) ∧ ∀ c', c' ≠ c → ∀ n, r.Has c' n ↔ r'.Has c' n

theorem Has.unique {r : KeyRecord} {c : Component} {m n : Nat} (hm : r.Has c m) (hn : r.Has c n) :
    m = n := by
  obtain ⟨t, ht, hm⟩ := hm
  obtain ⟨t', ht', hn⟩ := hn
  obtain rfl := Option.some.inj (ht.symm.trans ht')
  exact hm.unique hn

end KeyRecord

/-! ### Reading -/

theorem KeyText.presentSource_eq_some_iff {found : Option Tree} {source : List Char} :
    presentSource found = some source ↔ ∃ t, found = some t ∧ t ≠ .null ∧ t.source = source := by
  unfold presentSource
  split
  · simp
  · simp
  · rename_i t hno
    simpa using fun _ => hno

/-- What is accepted as a private key is one. -/
theorem parsePrivateKey_eq_ok_iff_spellsScalar {s : String} {d : Nat} :
    parsePrivateKey s = .ok d ↔ SpellsScalar s d := by
  simp only [parsePrivateKey_eq_ok_iff, KeyText.parse_eq_ok_iff, KeyText.scalar_eq_ok_iff]
  constructor
  · rintro ⟨_, ⟨r, hr, hcurve, rfl⟩, ⟨source, hsome, hd⟩, hscalar, hpoint⟩
    obtain ⟨t, ht, -, rfl⟩ := KeyText.presentSource_eq_some_iff.mp hsome
    obtain ⟨hd, -⟩ := (hr.isComponent_iff (by simp [KeyRecord.values, ht])).mp hd
    obtain ⟨hpos, hlt⟩ := isScalar_iff.mp hscalar
    obtain ⟨x, y, hx, hy, -, hxy⟩ := hr.point_eq_ok_iff.mp hpoint
    rw [publicPoint, mul_base] at hxy
    exact ⟨r, t, x, y, hr, hcurve, ht, hd.isNumeral (by omega), hpos, hlt, hx, hy, hxy⟩
  · rintro ⟨r, t, x, y, hr, hcurve, ht, hd, hpos, hlt, hx, hy, hxy⟩
    have hscalar := isScalar_iff.mpr ⟨hpos, hlt⟩
    have hpoint : publicPoint d = .affine x y := by rw [publicPoint, mul_base, hxy]
    obtain ⟨x', y', hxy', hcurve'⟩ := exists_publicPoint_eq hscalar
    obtain ⟨rfl, rfl⟩ := Point.affine.inj (hpoint.symm.trans hxy')
    have hnull : t ≠ .null := by
      rintro rfl
      cases hd
    have hcomponent : KeyText.IsComponent t.source d :=
      (hr.isComponent_iff (by simp [KeyRecord.values, ht])).mpr
        ⟨.numeral hd, lt_of_isScalar hscalar⟩
    exact ⟨_, ⟨r, hr, hcurve, rfl⟩,
      ⟨_, KeyText.presentSource_eq_some_iff.mpr ⟨t, ht, hnull, rfl⟩, hcomponent⟩, hscalar,
      hr.point_eq_ok_iff.mpr ⟨x, y, hx, hy, hcurve', hpoint⟩⟩

/-- What an accepted key gives for its numbers fits the public point. -/
theorem SpellsScalar.exists_has {r : KeyRecord} {s : String} {d : Nat} (h : SpellsScalar s d)
    (hr : r.IsIn s) : isScalar d = true ∧ r.Has .d d ∧
      ∃ x y, r.Has .x x ∧ r.Has .y y ∧ publicPoint d = .affine x y := by
  obtain ⟨r', t, x, y, hr', -, ht, hd, hpos, hlt, hx, hy, hxy⟩ := h
  obtain rfl := hr.unique hr'
  rw [← mul_base] at hxy
  exact ⟨isScalar_iff.mpr ⟨hpos, hlt⟩, ⟨t, ht, .numeral hd⟩, x, y, ⟨_, rfl, hx⟩, ⟨_, rfl, hy⟩,
    hxy⟩

/-- What an accepted key gives for its numbers are numerals, but for a coordinate of 0. -/
theorem SpellsScalar.isNumeral {r : KeyRecord} {s : String} {d x y : Nat} (h : SpellsScalar s d)
    (hr : r.IsIn s) (hpoint : publicPoint d = .affine x y) :
    (x ≠ 0 → IsNumeral r.x x) ∧ (y ≠ 0 → IsNumeral r.y y) ∧ ∃ t, r.d = some t ∧ IsNumeral t d := by
  obtain ⟨r', t, x', y', hr', -, ht, hd, -, -, hx, hy, hxy⟩ := h
  obtain rfl := hr.unique hr'
  rw [← mul_base] at hxy
  obtain ⟨rfl, rfl⟩ := Point.affine.inj (hpoint.symm.trans hxy)
  exact ⟨hx.isNumeral, hy.isNumeral, t, ht, hd⟩

/-- Two accepted keys do not differ in one number alone. -/
theorem not_differsInOne {r r' : KeyRecord} {s s' : String} {d d' : Nat} (h : SpellsScalar s d)
    (h' : SpellsScalar s' d') (hr : r.IsIn s) (hr' : r'.IsIn s') :
    ¬ KeyRecord.DiffersInOne r r' := by
  rintro ⟨c, hother, hsame⟩
  obtain ⟨hscalar, hd, x, y, hx, hy, hxy⟩ := h.exists_has hr
  obtain ⟨hscalar', hd', x', y', hx', hy', hxy'⟩ := h'.exists_has hr'
  -- the scalar determines the coordinates, and the coordinates determine the scalar
  have hcoordinates (hdd : d = d') : x = x' ∧ y = y' :=
    Point.affine.inj (hxy.symm.trans ((congrArg publicPoint hdd).trans hxy'))
  cases c with
  | x =>
    have hdd : d = d' := ((hsame .d nofun d).mp hd).unique hd'
    obtain rfl := (hcoordinates hdd).1
    exact hother x hx hx'
  | y =>
    have hdd : d = d' := ((hsame .d nofun d).mp hd).unique hd'
    obtain rfl := (hcoordinates hdd).2
    exact hother y hy hy'
  | d =>
    obtain rfl : x = x' := ((hsame .x nofun x).mp hx).unique hx'
    obtain rfl : y = y' := ((hsame .y nofun y).mp hy).unique hy'
    obtain rfl := publicPoint_inj hscalar hscalar' (hxy.trans hxy'.symm)
    exact hother d hd hd'

/-! ### Signing -/

/-- A text signs a message, unless there is no signature of it, and verifies what it has signed. -/
theorem signMessage_of_parsePrivateKey {s : String} {d : Nat} (h : parsePrivateKey s = .ok d)
    (message : List UInt8) :
    signMessage s message = .error (.invalidKey .signingFailed) ∨
      ∃ signature, signMessage s message = .ok signature ∧
        verifyMessage s signature message = .ok true := by
  obtain ⟨-, hpublic⟩ := isScalar_of_parsePrivateKey h
  cases hsign : Signature.sign? d (Sha256.digest message) with
  | none =>
    left
    rw [signMessage]
    exact bind_eq_error_iff.mpr (Or.inr ⟨d, h, by rw [hsign]⟩)
  | some g =>
    right
    refine ⟨Hex.encode (Der.encode g), ?_, ?_⟩
    · rw [signMessage]
      exact bind_eq_ok_iff.mpr ⟨d, h, by rw [hsign]⟩
    · rw [verifyMessage_encode hpublic, Signature.verify_of_sign hsign]

theorem signMessage_eq_error {s : String} {e : Error} (h : parsePrivateKey s = .error e)
    (message : List UInt8) : signMessage s message = .error e := by
  rw [signMessage]
  exact bind_eq_error_iff.mpr (Or.inl h)

/-- **Private keys are consistent.**  A text is accepted exactly if it is a private key of a scalar.
Then its numbers are written as numerals, but for a coordinate of 0; it is also a public key, of the
point of the scalar, and verifies all that it signs; and every text that differs from it in one
number is refused.  What is not accepted is refused as an unusable key, with the same error by
signing. -/
theorem privateKey_consistent (s : String) :
    (∀ d, parsePrivateKey s = .ok d ↔ SpellsScalar s d) ∧
    (∀ d (r : KeyRecord) x y, parsePrivateKey s = .ok d → r.IsIn s → publicPoint d = .affine x y →
      (x ≠ 0 → IsNumeral r.x x) ∧ (y ≠ 0 → IsNumeral r.y y) ∧
        ∃ t, r.d = some t ∧ IsNumeral t d) ∧
    (∀ d, parsePrivateKey s = .ok d → parsePublicKey s = .ok (publicPoint d) ∧
      ∀ message, signMessage s message = .error (.invalidKey .signingFailed) ∨
        ∃ signature, signMessage s message = .ok signature ∧
          verifyMessage s signature message = .ok true) ∧
    (∀ d r s' r', parsePrivateKey s = .ok d → r.IsIn s → r'.IsIn s' →
      KeyRecord.DiffersInOne r r' → ∃ fault, parsePrivateKey s' = .error (.invalidKey fault)) ∧
    ((∀ d, ¬ SpellsScalar s d) ↔ ∃ fault, parsePrivateKey s = .error (.invalidKey fault) ∧
      ∀ message, signMessage s message = .error (.invalidKey fault)) := by
  refine ⟨fun d => parsePrivateKey_eq_ok_iff_spellsScalar, fun d r x y h hr hpoint => ?_,
    fun d h => ?_, fun d r s' r' h hr hr' hdiffers => ?_, ?_⟩
  · exact (parsePrivateKey_eq_ok_iff_spellsScalar.mp h).isNumeral hr hpoint
  · exact ⟨(isScalar_of_parsePrivateKey h).2, signMessage_of_parsePrivateKey h⟩
  · refine keyResult_refused_iff.mp fun d' h' => ?_
    exact not_differsInOne (parsePrivateKey_eq_ok_iff_spellsScalar.mp h)
      (parsePrivateKey_eq_ok_iff_spellsScalar.mp h') hr hr' hdiffers
  · have hrefused : (∀ d, ¬ SpellsScalar s d) ↔
        ∃ fault, parsePrivateKey s = .error (.invalidKey fault) := by
      simp only [← parsePrivateKey_eq_ok_iff_spellsScalar]
      exact keyResult_refused_iff
    rw [hrefused]
    exact exists_congr fun fault => ⟨fun h => ⟨h, signMessage_eq_error h⟩, fun h => h.1⟩

/-- The key of the scalar 1, and its text with the scalar 2 put in. -/
theorem privateKey_consistent_otherScalar :
    let s := privateKeyText 1
    let s' := keyText (publicPoint 1) (some 2)
    parsePrivateKey s = .ok 1 ∧ parsePublicKey s = .ok (publicPoint 1) ∧
    ∃ fault, parsePrivateKey s' = .error (.invalidKey fault) ∧
      ∀ message, signMessage s' message = .error (.invalidKey fault) := by
  intro s s'
  have hone : isScalar 1 = true := by decide
  have htwo : isScalar 2 = true := by decide
  obtain ⟨x, y, hpoint, hcurve⟩ := exists_publicPoint_eq hone
  have hr := KeyRecord.isIn_keyText hcurve (d := some 1) (by simp [hone])
  have hr' := KeyRecord.isIn_keyText hcurve (d := some 2) (by simp [htwo])
  rw [← hpoint] at hr hr'
  have hdiffers : KeyRecord.DiffersInOne (.ofNumbers x y (some 1)) (.ofNumbers x y (some 2)) := by
    refine ⟨.d, fun n hn hn' => ?_, fun c hc n => ?_⟩
    · have h : n = 1 := hn.unique ⟨_, rfl, .numeral (isNumeral_toDigits 1)⟩
      have h' : n = 2 := hn'.unique ⟨_, rfl, .numeral (isNumeral_toDigits 2)⟩
      omega
    · cases c with
      | x => exact Iff.rfl
      | y => exact Iff.rfl
      | d => exact absurd rfl hc
  have hread : parsePrivateKey s = .ok 1 := parsePrivateKey_privateKeyText hone
  obtain ⟨-, -, haccepted, hchanged, -⟩ := privateKey_consistent s
  obtain ⟨hexact, -, -, -, hrefused⟩ := privateKey_consistent s'
  obtain ⟨fault, hfault⟩ := hchanged 1 _ s' _ hread hr hr' hdiffers
  refine ⟨hread, (haccepted 1 hread).1, hrefused.mp fun d hd => ?_⟩
  rw [← hexact, hfault] at hd
  cases hd

end AssetAccess.Account
