import AssetAccess.Auth.CanonicalRequest
import AssetAccess.Proofs.Auth.Coverage
import AssetAccess.Proofs.Auth.Query
/-!
# The text that is signed

Two requests have the same canonical text exactly when they agree in the method, in the path up to
one slash at its start, in the signed pairs of the query and in the covered headers
(`text_eq_iff`).  Method, path and query hold no line break, so the text falls into its four parts
in one way, and each part tells what it was made from.
-/

namespace AssetAccess.Auth

open Percent

/-! ### Paths -/

/-- The path without the slash at its start, if there is one. -/
def relativePath (path : String) : String :=
  match path.toList with
  | '/' :: rest => String.ofList rest
  | _ => path

theorem canonicalPath_eq (path : String) :
    canonicalPath path = "/" ++ encode (relativePath path) false := by
  unfold canonicalPath relativePath
  generalize path.toList = l
  split
  · simp only
  · simp only

/-- The canonical form of a path tells the path up to one slash at its start. -/
theorem canonicalPath_eq_iff {path path' : String} :
    canonicalPath path = canonicalPath path' ↔ relativePath path = relativePath path' := by
  rw [canonicalPath_eq, canonicalPath_eq]
  constructor
  · intro h
    rw [← String.toList_inj, String.toList_append, String.toList_append,
      List.append_cancel_left_eq, String.toList_inj] at h
    exact encode_injective h
  · intro h
    rw [h]

theorem newline_not_mem_canonicalPath (path : String) : '\n' ∉ (canonicalPath path).toList := by
  rw [canonicalPath_eq, String.toList_append, List.mem_append]
  rintro (h | h)
  · exact absurd h (by decide)
  · exact not_mem_encodeBytes (by decide) (by decide) _ h

/-! ### Requests -/

theorem method_ext {m m' : Http.Method} (h : m.text = m'.text) : m = m' := by
  cases m
  cases m'
  simpa using h

namespace CanonicalRequest

variable {a b : Http.Request} {names names' : NameSet}

/-- The text of a canonical request between its line breaks, as far as the headers. -/
theorem pieces_text (a : Http.Request) (names : NameSet) :
    Text.pieces '\n' (of a names).text = a.method.text :: canonicalPath a.target.path ::
      Query.canonical (a.target.query.getD "") ::
        Text.pieces '\n' (Coverage.block a.fields names) := by
  have hm : "\n".toList = ['\n'] := by simp
  rw [text, String.intercalate_cons_cons, Text.pieces_append hm, String.intercalate_cons_cons,
    Text.pieces_append hm, String.intercalate_cons_cons, Text.pieces_append hm,
    String.intercalate_singleton]
  · rfl
  · exact Query.newline_not_mem_canonical _
  · exact newline_not_mem_canonicalPath _
  · exact Http.not_mem_of_isToken a.method.isToken_text (by decide)

/-- The canonical text tells the method, the path up to a slash, the signed pairs and the covered
headers, and nothing else. -/
theorem text_eq_iff :
    (of a names).text = (of b names').text ↔
      a.method = b.method ∧ relativePath a.target.path = relativePath b.target.path ∧
        (Query.pairs (a.target.query.getD "")).Perm (Query.pairs (b.target.query.getD "")) ∧
        Coverage.covered a.fields names = Coverage.covered b.fields names' := by
  rw [← canonicalPath_eq_iff, ← Query.canonical_eq_iff, ← Coverage.block_eq_iff]
  constructor
  · intro h
    -- only the block can hold line breaks, so the first three pieces are the other parts
    have hp := congrArg (Text.pieces '\n') h
    rw [pieces_text, pieces_text] at hp
    simp only [List.cons.injEq] at hp
    obtain ⟨hm, hpath, hquery, hblock⟩ := hp
    exact ⟨method_ext hm, hpath, hquery,
      Text.pieces_injective (show "\n".toList = ['\n'] by simp) hblock⟩
  · rintro ⟨hm, hpath, hquery, hblock⟩
    simp only [text, of, hm, hpath, hquery, hblock]

end CanonicalRequest

end AssetAccess.Auth
