import AssetAccess.Proofs.Account.KeyNumber
/-!
# The record of a key

`KeyRecord.IsIn r s` says which values the text `s` of a key gives for its fields.  A text is read
as far as its numbers exactly when it holds such a record and names the curve
(`KeyText.parse_eq_ok_iff`).  So a text is a key of a point if its numbers are the coordinates of
the point, which depends on what counts as a number (`SpellsPoint`).

Reading accepts the keys whose coordinates are loose numerals and refuses all other texts as
unusable keys (`publicKey_exact`).  Where no coordinate is 0 these are the keys whose coordinates
are numerals.  A coordinate of 0 is accepted with no digit at all
(`parsePublicKey_emptyCoordinate`).
-/

namespace AssetAccess.Account

open Curve Json

/-! ### Records -/

/-- The values that are given for the fields of a key. -/
structure KeyRecord where
  curve : Tree
  x : Tree
  y : Tree
  d : Option Tree

namespace KeyRecord

/-- The values in the order of the fields. -/
def values (r : KeyRecord) : List (Option Tree) := [some r.curve, some r.x, some r.y, r.d]

/-- The text gives these values for the fields of a key. -/
def IsIn (r : KeyRecord) (s : String) : Prop :=
  ∃ t, Tree.IsText t s ∧ Record.Gives ["Curvname", "X", "Y", "D"] t r.values

/-- The numbers of a record as they are written. -/
def text (r : KeyRecord) : KeyText := ⟨r.x.source, r.y.source, KeyText.presentSource r.d⟩

theorem eq_of_values_eq {r r' : KeyRecord} (h : r.values = r'.values) : r = r' := by
  obtain ⟨curve, x, y, d⟩ := r
  obtain ⟨curve', x', y', d'⟩ := r'
  simpa [values] using h

theorem IsIn.unique {r r' : KeyRecord} {s : String} (h : r.IsIn s) (h' : r'.IsIn s) : r = r' := by
  obtain ⟨t, ht, hg⟩ := h
  obtain ⟨t', ht', hg'⟩ := h'
  obtain rfl := ht.unique ht'
  exact eq_of_values_eq (hg.unique hg')

/-- Every value of a record is spelled in the text. -/
theorem IsIn.exists_spells {r : KeyRecord} {s : String} (h : r.IsIn s) {t : Tree}
    (ht : some t ∈ r.values) : ∃ p, Tree.Spells t p := by
  obtain ⟨t', ⟨w, l, w', -, hl, -⟩, hg⟩ := h
  exact hg.exists_spells hl ht

theorem IsIn.isComponent_iff {r : KeyRecord} {s : String} (h : r.IsIn s) {t : Tree} {n : Nat}
    (ht : some t ∈ r.values) :
    KeyText.IsComponent t.source n ↔ IsLooseNumeral t n ∧ n < 256 ^ 32 := by
  obtain ⟨p, hp⟩ := h.exists_spells ht
  exact KeyText.isComponent_source_iff hp

/-- The record that is written for a key. -/
def ofNumbers (x y : Nat) (d : Option Nat) : KeyRecord where
  curve := .string (StringText.encode Curve.name.toList)
  x := .number (Nat.toDigits 10 x)
  y := .number (Nat.toDigits 10 y)
  d := d.map fun n => .number (Nat.toDigits 10 n)

theorem isIn_keyText {x y : Nat} {d : Option Nat} (h : isOnCurve x y = true)
    (hd : ∀ n ∈ d, isScalar n = true) : (ofNumbers x y d).IsIn (keyText (.affine x y) d) := by
  obtain ⟨t, ht, hfound⟩ := Option.bind_eq_some_iff.mp (KeyText.fields?_keyText h hd)
  exact ⟨t, Tree.parse?_eq_some_iff.mp ht, Record.fields?_eq_some_iff.mp hfound⟩

end KeyRecord

/-- A value starts with a character that is not white space of any kind. -/
theorem exists_mem_isBlank_eq_false {t : Tree} {p : List Char} (h : Tree.Spells t p) :
    ∃ c ∈ p, Text.isBlank c = false := by
  cases h with
  | number h =>
    obtain ⟨c, r, rfl, hc⟩ := h.exists_cons
    refine ⟨c, List.mem_cons_self, ?_⟩
    rcases hc with rfl | hc
    · decide
    · exact Text.isBlank_of_isDigit hc
  | _ => exact ⟨_, List.mem_cons_self, by decide⟩

namespace KeyText

theorem ofTree?_eq_some_iff {t : Tree} {curve : String} {k : KeyText} :
    ofTree? t = some (curve, k) ↔ ∃ r : KeyRecord,
      Record.Gives fieldNames t r.values ∧ r.curve.IsString curve ∧ r.text = k := by
  simp only [← Record.fields?_eq_some_iff, ← Tree.text?_eq_some_iff]
  unfold ofTree?
  split
  · rename_i name x y d hfound
    constructor
    · intro h
      obtain ⟨text, htext, h⟩ := Option.bind_eq_some_iff.mp h
      obtain ⟨rfl, rfl⟩ := Prod.mk.inj (Option.some.inj h)
      exact ⟨⟨name, x, y, d⟩, hfound, htext, rfl⟩
    · rintro ⟨r, hfound', htext, rfl⟩
      rw [hfound, Option.some.injEq] at hfound'
      obtain rfl : ⟨name, x, y, d⟩ = r := KeyRecord.eq_of_values_eq hfound'
      dsimp only at htext
      rw [htext]
      rfl
  · rename_i hno
    refine iff_of_false (by simp) ?_
    rintro ⟨r, hfound, -⟩
    exact hno _ _ _ _ hfound

/-- **The text of a key** is read as the numbers of its record, if the record names the curve. -/
theorem parse_eq_ok_iff {s : String} {k : KeyText} :
    parse s = .ok k ↔ ∃ r : KeyRecord, r.IsIn s ∧ r.curve.IsString "P-256" ∧ r.text = k := by
  have hread {curve : String} : (Tree.parse? s).bind ofTree? = some (curve, k) ↔
      ∃ r : KeyRecord, r.IsIn s ∧ r.curve.IsString curve ∧ r.text = k := by
    simp only [Option.bind_eq_some_iff, Tree.parse?_eq_some_iff, ofTree?_eq_some_iff]
    constructor
    · rintro ⟨t, ht, r, hg, h⟩
      exact ⟨r, ⟨t, ht, hg⟩, h⟩
    · rintro ⟨r, ⟨t, ht, hg⟩, h⟩
      exact ⟨t, ht, r, hg, h⟩
  rw [show "P-256" = Curve.name from rfl, ← hread]
  unfold parse
  split
  · rename_i hempty
    -- what spells a value is not blank
    refine iff_of_false (by simp) fun h => ?_
    obtain ⟨r, ⟨t, ⟨w, l, w', -, hl, -, hs⟩, -⟩, -⟩ := hread.mp h
    obtain ⟨c, hc, hblank⟩ := exists_mem_isBlank_eq_false hl
    rw [Text.trim_isEmpty_of_mem (by rw [hs]; simp [hc]) hblank] at hempty
    exact Bool.noConfusion hempty
  · split
    · rename_i hnone
      simp [hnone]
    · rename_i curve key hsome
      rw [hsome]
      split
      · rename_i hcurve
        simp [hcurve]
      · rename_i hcurve
        simp [hcurve]

end KeyText

/-! ### Points -/

/-- A text is a key of this point, if `reads` says which values count as which numbers. -/
inductive SpellsPoint (reads : Tree → Nat → Prop) (s : String) : Point → Prop where
  | affine {r : KeyRecord} {x y : Nat} (hr : r.IsIn s) (hcurve : r.curve.IsString "P-256")
      (hx : reads r.x x) (hy : reads r.y y) (hltx : x < prime) (hlty : y < prime)
      (h : weierstrass.Equation (x : ZMod prime) y) : SpellsPoint reads s (.affine x y)

/-- Numbers that count as the coordinates under one reading may count as such under another. -/
theorem SpellsPoint.imp {reads reads' : Tree → Nat → Prop} {s : String} {x y : Nat}
    (h : SpellsPoint reads s (.affine x y)) (hx : ∀ t, reads t x → reads' t x)
    (hy : ∀ t, reads t y → reads' t y) : SpellsPoint reads' s (.affine x y) := by
  cases h with
  | affine hr hcurve hx' hy' hltx hlty h =>
    exact .affine hr hcurve (hx _ hx') (hy _ hy') hltx hlty h

/-- The numbers of a record are those of a point if they are its coordinates. -/
theorem KeyRecord.IsIn.point_eq_ok_iff {r : KeyRecord} {s : String} (h : r.IsIn s) {q : Point} :
    r.text.point = .ok q ↔ ∃ x y, IsLooseNumeral r.x x ∧ IsLooseNumeral r.y y ∧
      isOnCurve x y = true ∧ q = .affine x y := by
  rw [KeyText.point_eq_ok_iff]
  refine exists₂_congr fun x y => ?_
  rw [KeyRecord.text, h.isComponent_iff (t := r.x) (by simp [KeyRecord.values]),
    h.isComponent_iff (t := r.y) (by simp [KeyRecord.values])]
  constructor
  · rintro ⟨⟨hx, -⟩, ⟨hy, -⟩, hxy⟩
    exact ⟨hx, hy, hxy⟩
  · rintro ⟨hx, hy, hcurve, hq⟩
    obtain ⟨hltx, hlty⟩ := lt_of_isOnCurve hcurve
    exact ⟨⟨hx, hltx⟩, ⟨hy, hlty⟩, hcurve, hq⟩

theorem parsePublicKey_eq_ok_iff_spellsPoint {s : String} {q : Point} :
    parsePublicKey s = .ok q ↔ SpellsPoint IsLooseNumeral s q := by
  simp only [parsePublicKey_eq_ok_iff, KeyText.parse_eq_ok_iff]
  constructor
  · rintro ⟨_, ⟨r, hr, hcurve, rfl⟩, hq⟩
    obtain ⟨x, y, hx, hy, hxy, rfl⟩ := hr.point_eq_ok_iff.mp hq
    obtain ⟨hltx, hlty, h⟩ := isOnCurve_iff_equation.mp hxy
    exact .affine hr hcurve hx hy hltx hlty h
  · rintro ⟨hr, hcurve, hx, hy, hltx, hlty, h⟩
    exact ⟨_, ⟨_, hr, hcurve, rfl⟩, hr.point_eq_ok_iff.mpr
      ⟨_, _, hx, hy, isOnCurve_iff_equation.mpr ⟨hltx, hlty, h⟩, rfl⟩⟩

/-- **Which texts are public keys.**  A text is read as a point exactly if it is a key of the point
whose coordinates are loose numerals, and is refused as an unusable key if it is none.  A point
without a coordinate 0 is read exactly where its coordinates are numerals. -/
theorem publicKey_exact (s : String) :
    (∀ q, parsePublicKey s = .ok q ↔ SpellsPoint IsLooseNumeral s q) ∧
    (∀ x y, x ≠ 0 → y ≠ 0 →
      (parsePublicKey s = .ok (.affine x y) ↔ SpellsPoint IsNumeral s (.affine x y))) ∧
    ((∀ q, ¬ SpellsPoint IsLooseNumeral s q) ↔
      ∃ fault, parsePublicKey s = .error (.invalidKey fault)) := by
  refine ⟨fun q => parsePublicKey_eq_ok_iff_spellsPoint, fun x y hx hy => ?_, ?_⟩
  · rw [parsePublicKey_eq_ok_iff_spellsPoint]
    exact ⟨fun h => h.imp (fun _ hn => hn.isNumeral hx) fun _ hn => hn.isNumeral hy,
      fun h => h.imp (fun _ => .numeral) fun _ => .numeral⟩
  · simp only [← parsePublicKey_eq_ok_iff_spellsPoint]
    exact keyResult_refused_iff

/-- The generator as an array with one of its numbers between quotes, and an array with a number in
scientific notation. -/
theorem publicKey_exact_array :
    let x := "48439561293906451759052585252797914202762949526041747995844080717082404635286"
    let y := "36134250956749795798585127919587881956611106672985015071877198253568414405109"
    SpellsPoint IsNumeral ("[\"P-256\",\"" ++ x ++ "\"," ++ y ++ ",null]") Point.base ∧
    ∀ q, ¬ SpellsPoint IsLooseNumeral "[\"P-256\",5e0,7]" q := by
  intro x y
  obtain ⟨-, hnonzero, -⟩ := publicKey_exact ("[\"P-256\",\"" ++ x ++ "\"," ++ y ++ ",null]")
  obtain ⟨-, -, hrefused⟩ := publicKey_exact "[\"P-256\",5e0,7]"
  exact ⟨(hnonzero _ _ (by decide) (by decide)).mp (by decide +kernel),
    hrefused.mpr ⟨.badComponent "5e0", by decide +kernel⟩⟩

/-- A numeral has a digit between its quotes, or it has no quotes. -/
theorem IsNumeral.source_ne_quotes {t : Tree} {n : Nat} (h : IsNumeral t n) :
    t.source ≠ ['"', '"'] := by
  intro hsource
  cases h with
  | @integer l hw =>
    have hl : l = ['"', '"'] := hsource
    rw [hl] at hw
    exact absurd (KeyText.isDigit_of_mem_isWhole hw List.mem_cons_self) (by decide)
  | @digits l hd =>
    have hl : '"' :: (l ++ ['"']) = '"' :: ([] ++ ['"']) := hsource
    exact hd.1 (by simpa using hl)

/-- The key of a point whose first coordinate is 0 and is written without a digit. -/
theorem parsePublicKey_emptyCoordinate :
    let y := "46263761741508638697010950048709651021688891777877937875096931459006746039284"
    let s := "\x7b\"Curvname\":\"P-256\",\"X\":\"\",\"Y\":" ++ y ++ "\x7d"
    ∃ q, parsePublicKey s = .ok q ∧ ¬ SpellsPoint IsNumeral s q := by
  intro y s
  have hparse : KeyText.parse s = .ok ⟨['"', '"'], y.toList, none⟩ := by decide +kernel
  have hpoint : KeyText.point ⟨['"', '"'], y.toList, none⟩ = .ok (.affine 0
      46263761741508638697010950048709651021688891777877937875096931459006746039284) := by
    decide +kernel
  refine ⟨_, parsePublicKey_eq_ok_iff.mpr ⟨_, hparse, hpoint⟩, fun h => ?_⟩
  cases h with
  | @affine r _ _ hr _ hx =>
    obtain ⟨r', hr', -, htext⟩ := KeyText.parse_eq_ok_iff.mp hparse
    obtain rfl := hr.unique hr'
    have hsource : r.x.source = ['"', '"'] := congrArg KeyText.x htext
    exact hx.source_ne_quotes hsource

end AssetAccess.Account
