import AssetAccess.Http.Target
import AssetAccess.Proofs.Url.Address
import Mathlib.Data.List.TakeDrop
/-!
# The target of an address

A request to an address in written form has the parts of the address as its target: scheme,
authority, path and query as they are written, without the fragment (`parse_text_eq_ok`).  The text
of the target is that of the address without its fragment (`text_ofUrl`), and has the same target
(`parse_text_of_fragment`).
-/

namespace AssetAccess.Http.Target

/-- The target of an address. -/
def ofUrl (u : Url) : Target :=
  ⟨some u.scheme.text, some u.authority.text, Url.Path.text u.path, u.query⟩

variable {u : Url}

theorem text_ofUrl (u : Url) : (ofUrl u).text = Url.text { u with fragment := none } := by
  cases hq : u.query <;> simp [text, ofUrl, Url.text, Url.optionalText, hq]

/-- The scheme of an address is found before its slashes. -/
theorem splitScheme_text (scheme : Url.Scheme) (r : List Char) :
    splitScheme (scheme.text.toList ++ ':' :: '/' :: '/' :: r) = .ok (some scheme.text, r) := by
  have hspan : (scheme.text.toList ++ ':' :: '/' :: '/' :: r).span isSchemeChar =
      (scheme.text.toList, ':' :: '/' :: '/' :: r) := by
    have hall : ∀ c ∈ scheme.text.toList, isSchemeChar c = true := by
      cases scheme <;> exact List.forall_iff_forall_mem.mp (by decide)
    rw [List.span_eq_takeWhile_dropWhile, List.takeWhile_append_of_pos hall,
      List.dropWhile_append_of_pos hall, List.takeWhile_cons_of_neg (by decide),
      List.dropWhile_cons_of_neg (by decide), List.append_nil]
  have hname : (scheme.text == "http" || scheme.text == "https") = true := by
    cases scheme <;> decide
  have hlower : Text.lower (String.ofList scheme.text.toList) = scheme.text := by
    cases scheme <;> decide
  rw [splitScheme, hspan]
  simp only [hlower, hname, if_true]

/-- Path and query of an address are its own, if a target may hold their characters. -/
theorem pathAndQuery_tail (h : u.Written) :
    pathAndQuery (Url.Written.tail u) =
      if (Url.Path.text u.path).toList.all isPathChar &&
          ((u.query.map String.toList).getD []).all isQueryChar then
        .ok (Url.Path.text u.path, u.query)
      else .error .character := by
  obtain ⟨hfragment, hquery⟩ := h.cut_tail
  have hne : (Url.Path.text u.path).toList ≠ [] := by
    obtain ⟨s, l, hs⟩ := List.exists_cons_of_ne_nil h.path_ne_nil
    rw [Url.Path.toList_text, hs, List.flatMap_cons]
    simp
  have hback : (u.query.map String.toList).map String.ofList = u.query := by
    cases u.query <;> simp
  rw [pathAndQuery, hfragment]
  dsimp only
  rw [hquery]
  dsimp only
  rw [List.isEmpty_eq_false_iff.mpr hne, String.ofList_toList, hback]
  rfl

/-- The target of an address is looked for behind its scheme, and depends on its authority, its path
and its query alone. -/
theorem parseFull_text (h : u.Written) :
    parseFull u.text.toList =
      (checkAuthority u.authority.text.toList).bind fun _ =>
        (pathAndQuery (Url.Written.tail u)).map fun _ => ofUrl u := by
  have hend : ∀ c ∈ u.authority.text.toList, endsAuthority c = false := by
    intro c hc
    have := h.authority c hc
    simp only [Url.isAuthorityPart, Url.endsAuthority, Url.isSlash, Bool.and_eq_true,
      Bool.not_eq_true', Bool.or_eq_false_iff] at this
    simp only [endsAuthority, this, Bool.or_self]
  obtain ⟨htake, hdrop⟩ := h.span_authority endsAuthority hend (by decide)
  rw [parseFull, Url.Written.toList_text, splitScheme_text]
  simp only [bind, Except.bind, htake, hdrop]
  cases checkAuthority u.authority.text.toList with
  | error fault => rfl
  | ok _ =>
    rw [List.isEmpty_eq_false_iff.mpr h.authority_ne_nil, pathAndQuery_tail h]
    simp only [Option.isNone_some, Bool.false_eq_true, if_false, String.ofList_toList]
    generalize ((Url.Path.text u.path).toList.all isPathChar &&
      ((u.query.map String.toList).getD []).all isQueryChar) = good
    cases good <;> rfl

/-- The text of an address is read as a full target, unless it is too long. -/
theorem parse_text (u : Url) :
    parse u.text =
      if u.text.utf8ByteSize > 65534 then .error .tooLong else parseFull u.text.toList := by
  obtain ⟨l, hl⟩ : ∃ l, u.text.toList = 'h' :: 't' :: l := by
    rw [Url.Written.toList_text]
    cases u.scheme <;> exact ⟨_, rfl⟩
  unfold parse
  rw [hl]
  rfl

/-- **The target of a written address**, if it has one, is made of the parts of the address. -/
theorem parse_text_eq_ok (h : u.Written) {t : Target} (ht : parse u.text = .ok t) :
    t = ofUrl u := by
  rw [parse_text, parseFull_text h] at ht
  split at ht
  · exact absurd ht (by simp)
  · obtain ⟨_, -, ht⟩ := bind_eq_ok_iff.mp ht
    cases hp : pathAndQuery (Url.Written.tail u) with
    | error fault =>
      rw [hp] at ht
      exact absurd ht (by simp [Except.map])
    | ok p =>
      rw [hp] at ht
      exact (Except.ok.inj ht).symm

/-- An address that has a target has the same one without its fragment. -/
theorem parse_text_of_fragment (h : u.Written) (ht : parse u.text = .ok (ofUrl u)) :
    parse (Url.text { u with fragment := none }) = .ok (ofUrl u) := by
  have hsize : (Url.text { u with fragment := none }).utf8ByteSize ≤ u.text.utf8ByteSize := by
    have htext : u.text =
        Url.text { u with fragment := none } ++ Url.optionalText "#" u.fragment := by
      simp [Url.text, Url.optionalText]
    rw [htext, String.utf8ByteSize_append]
    exact Nat.le_add_right _ _
  rw [parse_text] at ht
  split at ht
  · exact absurd ht (by simp)
  · rename_i hlong
    rw [parse_text, if_neg (by omega), ← ht, parseFull_text h.withoutFragment,
      parseFull_text h, pathAndQuery_tail h.withoutFragment, pathAndQuery_tail h]
    rfl

end AssetAccess.Http.Target
