import AssetAccess.Auth.Query
import AssetAccess.Proofs.Text.ByteOrder
import AssetAccess.Proofs.Text.Percent
import AssetAccess.Proofs.Text.Pieces
import Mathlib.Data.List.Basic
import Mathlib.Data.List.Forall2
import Mathlib.Data.List.Perm.Basic
/-!
# Canonical queries are canonical

`Signs raw l` says which pairs of a raw query a signature covers: a segment that is not empty stands
for a key and a value, and the pairs whose key is that of a token are left out.

Two raw queries have the same canonical form exactly when they have the same signed pairs, each the
same number of times (`canonical_eq_iff`).  Written pairs hold one equals sign and no ampersand, so
they can be read off the canonical form; the order of the segments is lost to sorting, and nothing
else is (`canonical_exact`).
-/

namespace AssetAccess.Auth.Query

open Percent

/-! ### The signed pairs -/

/-- A segment stands for a key and a value: it is cut at its first equals sign, and without one it
is a key whose value is empty. -/
inductive StandsFor : String → String × String → Prop where
  | cut {key value : String} (hk : '=' ∉ key.toList) :
      StandsFor (key ++ "=" ++ value) (key, value)
  | whole {key : String} (hk : '=' ∉ key.toList) : StandsFor key (key, "")

/-- The pairs of a raw query, one for each segment that is not empty, without those whose key is
`authorization` in any case. -/
def Signs (raw : String) (l : List (String × String)) : Prop :=
  ∃ all, List.Forall₂ StandsFor ((Text.pieces '&' raw).filter (· ≠ "")) all ∧
    l = all.filter fun p => Text.lower p.1 ≠ "authorization"

theorem standsFor_iff {segment : String} {p : String × String} :
    StandsFor segment p ↔ pair segment.toList = p := by
  have hm : "=".toList = ['='] := by simp
  have pair_cut {key value : String} (hk : '=' ∉ key.toList) :
      pair (key ++ "=" ++ value).toList = (key, value) := by
    rw [pair, toList_joined hm, Text.cutFirst_append hk]
    simp
  have pair_whole {key : String} (hk : '=' ∉ key.toList) : pair key.toList = (key, "") := by
    rw [pair, Text.cutFirst_of_not_mem hk]
    simp
  constructor
  · rintro (hk | hk)
    · exact pair_cut hk
    · exact pair_whole hk
  · rintro rfl
    by_cases hmem : '=' ∈ segment.toList
    · obtain ⟨key, value, hcut, hk⟩ := List.eq_append_cons_of_mem hmem
      have hsegment : segment = String.ofList key ++ "=" ++ String.ofList value := by
        rw [← String.toList_inj, hcut, toList_joined hm, String.toList_ofList, String.toList_ofList]
      have hk' : '=' ∉ (String.ofList key).toList := by rwa [String.toList_ofList]
      rw [hsegment, pair_cut hk']
      exact .cut hk'
    · rw [pair_whole hmem]
      exact .whole hmem

/-- `pairs` finds the signed pairs, and there is one list of them. -/
theorem signs_iff {raw : String} {l : List (String × String)} : Signs raw l ↔ l = pairs raw := by
  have hpieces : ((Text.pieces '&' raw).filter (· ≠ "")).map (fun t => pair t.toList) =
      ((raw.toList.splitOn '&').filter (!·.isEmpty)).map pair := by
    have hne (p : List Char) : decide (String.ofList p ≠ "") = !p.isEmpty := by
      cases p <;> simp
    rw [Text.pieces, List.filter_map, List.map_map]
    simp only [Function.comp_def, hne, String.toList_ofList]
  have hread (all : List (String × String)) :
      List.Forall₂ StandsFor ((Text.pieces '&' raw).filter (· ≠ "")) all ↔
        ((raw.toList.splitOn '&').filter (!·.isEmpty)).map pair = all := by
    have hstands : StandsFor = fun t p => pair t.toList = p := by
      funext t p
      exact propext standsFor_iff
    rw [← hpieces, ← List.forall₂_eq_eq_eq, List.forall₂_map_left_iff, hstands]
  simp only [Signs, pairs, hread, exists_eq_left']
  simp only [ne_eq, bne, decide_not, beq_eq_decide]

/-! ### Written pairs -/

theorem pairText_injective : Function.Injective pairText := by
  intro p q h
  obtain ⟨h1, h2⟩ := joined_inj (show "=".toList = ['='] by simp) (by decide) (by decide) h
  exact Prod.ext (Text.utf8_injective h1) (Text.utf8_injective h2)

theorem pairText_ne_empty (p : String × String) : pairText p ≠ "" :=
  joined_ne_empty (show "=".toList = ['='] by simp) _ _

theorem not_mem_pairText {c : Char} (hp : c ≠ '%') (he : c ≠ '=')
    (hk : keptWhenSigned true (UInt8.ofNat c.toNat) = false) (p : String × String) :
    c ∉ (pairText p).toList := not_mem_joined (show "=".toList = ['='] by simp) hp he hk _ _

/-- No written pair is empty or holds an ampersand, so the joined text tells them apart. -/
theorem written_sorted (raw : String) : ∀ t ∈ Text.sorted ((pairs raw).map pairText),
    t ≠ "" ∧ '&' ∉ t.toList := by
  intro t ht
  obtain ⟨p, _, rfl⟩ := List.mem_map.mp (Text.mem_sorted.mp ht)
  exact ⟨pairText_ne_empty p, not_mem_pairText (by decide) (by decide) (by decide) p⟩

theorem parts_canonical (raw : String) :
    Text.parts '&' (canonical raw) = Text.sorted ((pairs raw).map pairText) :=
  Text.parts_intercalate (by simp) (written_sorted raw)

/-! ### Canonical queries -/

/-- The canonical form of a query tells its signed pairs, with multiplicities, and nothing else. -/
theorem canonical_eq_iff {raw raw' : String} :
    canonical raw = canonical raw' ↔ (pairs raw).Perm (pairs raw') := by
  rw [← List.map_perm_map_iff pairText_injective, ← Text.sorted_eq_sorted_iff]
  constructor
  · intro h
    rw [← parts_canonical, h, parts_canonical]
  · intro h
    rw [canonical, canonical, h]

/-- No canonical query holds a line break. -/
theorem newline_not_mem_canonical (raw : String) : '\n' ∉ (canonical raw).toList := by
  intro h
  rcases Text.mem_toList_intercalate h with h | ⟨t, ht, hc⟩
  · exact absurd h (by decide)
  · obtain ⟨p, _, rfl⟩ := List.mem_map.mp (Text.mem_sorted.mp ht)
    exact not_mem_pairText (by decide) (by decide) (by decide) p hc

/-- **The canonical query is the signed pairs, sorted, and nothing else.**  Two raw queries have the
same canonical form exactly when they have the same signed pairs, each as often.  The parts of a
canonical form are in ascending order of their bytes; each holds one equals sign, and what stands on
either side of it, decoded, gives the signed pairs back. -/
theorem canonical_exact (raw : String) :
    (∀ l, Signs raw l ↔ l = pairs raw) ∧
    (∀ raw', canonical raw = canonical raw' ↔ (pairs raw).Perm (pairs raw')) ∧
    (Text.parts '&' (canonical raw)).Pairwise (fun s t => ¬ Text.BytesLT t s) ∧
    (∀ t ∈ Text.parts '&' (canonical raw), t.toList.count '=' = 1) ∧
    ((Text.parts '&' (canonical raw)).map (sides '=')).Perm
      ((pairs raw).map fun p => (Text.utf8 p.1, Text.utf8 p.2)) := by
  have hm : "=".toList = ['='] := by simp
  refine ⟨fun l => signs_iff, fun raw' => canonical_eq_iff, ?_, ?_, ?_⟩
  · rw [parts_canonical]
    exact Text.pairwise_not_bytesLT (Text.pairwise_sorted _)
  · intro t ht
    rw [parts_canonical, Text.mem_sorted] at ht
    obtain ⟨p, _, rfl⟩ := List.mem_map.mp ht
    exact count_joined hm (by decide) (by decide) _ _
  · have hsides (p : String × String) :
        sides '=' (pairText p) = (Text.utf8 p.1, Text.utf8 p.2) :=
      sides_joined hm (by decide) (by decide) _ _
    have hperm := (Text.sorted_perm ((pairs raw).map pairText)).map (sides '=')
    simpa only [parts_canonical, List.map_map, Function.comp_def, hsides] using hperm

end AssetAccess.Auth.Query
