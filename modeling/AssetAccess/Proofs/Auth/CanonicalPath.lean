import AssetAccess.Proofs.Auth.CanonicalRequest
/-!
# Canonical paths are canonical

A path is written with its slashes kept, so that the segments of the canonical form are the written
segments of the path, in order (`exists_canonicalPath_eq`).  Writing loses nothing, and it goes
character by character; so two paths have the same canonical form exactly when they are the same up
to one slash at their start (`canonicalPath_exact`).
-/

namespace AssetAccess.Auth

open Percent

/-- A path either starts with the slash that its relative form lacks, or with no slash at all. -/
theorem relativePath_cases (path : String) :
    path = "/" ++ relativePath path ∨
      (relativePath path = path ∧ ∀ rest, path ≠ "/" ++ rest) := by
  have hm : "/".toList = ['/'] := by simp
  unfold relativePath
  split
  · rename_i rest hp
    left
    rw [← String.toList_inj, String.toList_append, hm, String.toList_ofList, hp]
    rfl
  · rename_i hp
    right
    refine ⟨rfl, ?_⟩
    intro rest he
    have hlist := congrArg String.toList he
    rw [String.toList_append, hm, List.singleton_append] at hlist
    exact hp rest.toList hlist

/-- A canonical path is a slash and then the written segments of the path between slashes. -/
theorem exists_canonicalPath_eq (path : String) :
    ∃ rest, canonicalPath path = "/" ++ rest ∧ ∀ slashEscaped,
      Text.pieces '/' rest =
        (Text.pieces '/' (relativePath path)).map (encode · slashEscaped) := by
  refine ⟨encode (relativePath path) false, canonicalPath_eq path, ?_⟩
  intro slashEscaped
  exact pieces_encode (relativePath path) slashEscaped

/-- **Percent encoding and canonical paths lose nothing.**  A written text holds unreserved
characters and escapes, and slashes where these are kept; decoding it gives back the bytes of the
text, and texts are written one after the other.  A canonical path tells the path up to one slash
at its start, and its segments are the written segments of the path. -/
theorem canonicalPath_exact :
    (∀ (s : String) (slashEscaped : Bool),
      IsEncoded slashEscaped (encode s slashEscaped).toList ∧
      decode (encode s slashEscaped) = Text.utf8 s ∧
      (∀ t, encode s slashEscaped = encode t slashEscaped ↔ s = t) ∧
      ∀ t, encode (s ++ t) slashEscaped = encode s slashEscaped ++ encode t slashEscaped) ∧
    (∀ (c : Char) (slashEscaped : Bool),
      encode (String.singleton c) slashEscaped = String.singleton c ↔
        StandsForItself slashEscaped c) ∧
    (∀ path, path = "/" ++ relativePath path ∨
      (relativePath path = path ∧ ∀ rest, path ≠ "/" ++ rest)) ∧
    (∀ path path', canonicalPath path = canonicalPath path' ↔
      relativePath path = relativePath path') ∧
    ∀ path, ∃ rest, canonicalPath path = "/" ++ rest ∧ ∀ slashEscaped,
      Text.pieces '/' rest =
        (Text.pieces '/' (relativePath path)).map (encode · slashEscaped) := by
  refine ⟨?_, ?_, relativePath_cases, ?_, exists_canonicalPath_eq⟩
  · intro s slashEscaped
    have hdecode : decode (encode s slashEscaped) = Text.utf8 s :=
      decode_encodeBytes (keepsAscii_keptWhenSigned slashEscaped) _
    refine ⟨isEncoded_encodeBytes slashEscaped _, hdecode, ?_, ?_⟩
    · intro t
      exact ⟨encode_injective, fun h => by rw [h]⟩
    · intro t
      exact encode_append s t slashEscaped
  · intro c slashEscaped
    exact encode_singleton_iff
  · intro path path'
    exact canonicalPath_eq_iff

/-- Two slashes at the start, an empty segment and a percent sign all show. -/
example : canonicalPath "//a b//%" = "//a%20b//%25" := by decide +kernel

end AssetAccess.Auth
