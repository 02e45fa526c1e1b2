import AssetAccess.Proofs.Url.Authority
import AssetAccess.Proofs.Url.Path
import Mathlib.Data.List.TakeWhile
/-!
# Reading a written address

Reading an address brings every part of it to a written form (`written_of_parse`): visible ASCII in
which no part holds the mark that ends it.  So the parts of a written address are found again where
they were put, and all of them but the host are read as they are (`parse_text`).  The host goes
through the rules of hosts once more, and comes out as it is unless it has a label in coded form
(`parse_text_of_uncoded`).
-/

namespace AssetAccess.Url

/-! ### Written addresses -/

/-- An address whose parts are in written form. -/
structure Written (u : Url) : Prop where
  read : ∃ l, Authority.parse u.scheme l = .ok u.authority
  path : ∀ s ∈ u.path, Path.Written s
  path_ne_nil : u.path ≠ []
  query : ∀ q, u.query = some q → Kept isKeptInQuery q.toList
  fragment : ∀ f, u.fragment = some f → Kept isKeptInFragment f.toList

namespace Written

variable {u : Url}

theorem authority (h : Written u) : ∀ c ∈ u.authority.text.toList, isAuthorityPart c = true := by
  obtain ⟨l, hl⟩ := h.read
  exact Authority.isAuthorityPart_of_mem_text hl

theorem authority_ne_nil (h : Written u) : u.authority.text.toList ≠ [] := by
  obtain ⟨l, hl⟩ := h.read
  exact Authority.text_ne_nil hl

theorem host (h : Written u) : ∀ c ∈ u.authority.host.text.toList, isHostChar c = true := by
  obtain ⟨l, hl⟩ := h.read
  exact Host.isHostChar_of_parse (Authority.parse_eq_ok_iff.mp hl).2.1

theorem withoutFragment (h : Written u) : Written { u with fragment := none } :=
  { h with fragment := fun _ hf => absurd hf (by simp) }

end Written

theorem written_of_parseServer {scheme : Scheme} {l : List Char} {u : Url}
    (h : parseServer scheme l = .ok u) : Written u := by
  unfold parseServer at h
  obtain ⟨a, ha, h⟩ := bind_eq_ok_iff.mp h
  obtain rfl := Except.ok.inj h
  have encoded {keep : UInt8 → Bool} (hk : Reencodes keep) (o : Option (List Char)) (q : String)
      (hq : o.map (encodePart keep) = some q) : Kept keep q.toList := by
    obtain ⟨m, -, rfl⟩ := Option.map_eq_some_iff.mp hq
    exact kept_encodeBytes hk _
  exact {
    read := ⟨_, ha⟩
    path := Path.written_segments _
    path_ne_nil := Path.segments_ne_nil _
    query := encoded reencodes_query _
    fragment := encoded reencodes_fragment _ }

theorem parse_eq_ok {s : String} {u : Url} (h : parse s = .ok u) :
    ∃ name rest, Text.cutFirst ':' (clean s.toList) = (name, some rest) ∧
      Scheme.ofName? (String.ofList name) = some u.scheme ∧
      parseServer u.scheme (rest.dropWhile isSlash) = .ok u := by
  unfold parse at h
  split at h
  · rename_i name rest hcut
    split at h
    · rename_i scheme hscheme
      have hs : u.scheme = scheme := by
        unfold parseServer at h
        obtain ⟨a, -, h⟩ := bind_eq_ok_iff.mp h
        obtain rfl := Except.ok.inj h
        rfl
      rw [hs]
      exact ⟨name, rest, hcut, hscheme, h⟩
    · exact absurd h (by simp)
  · exact absurd h (by simp)

/-- Every part of an address that was read is in written form. -/
theorem written_of_parse {s : String} {u : Url} (h : parse s = .ok u) : Written u := by
  obtain ⟨_, _, -, -, h⟩ := parse_eq_ok h
  exact written_of_parseServer h

/-! ### Reading again -/

theorem clean_of_isSolid {l : List Char} (h : ∀ c ∈ l, isSolid c = true) : clean l = l := by
  have solid {c : Char} (hc : c ∈ l) : isMargin c = false ∧ isBreak c = false := by
    have hs := h c hc
    simp only [isSolid, Bool.and_eq_true, decide_eq_true_eq] at hs
    refine ⟨by simp only [isMargin, decide_eq_false_iff_not]; omega, ?_⟩
    have ne (m : Char) (hm : m.toNat ≤ 0x20) : c ≠ m := by
      rintro rfl
      omega
    simp [isBreak, ne '\t' (by decide), ne '\n' (by decide), ne '\r' (by decide)]
  have drop {m : List Char} (hm : ∀ c ∈ m, c ∈ l) : m.dropWhile isMargin = m := by
    rw [List.dropWhile_eq_self_iff]
    intro hpos
    rw [(solid (hm _ (List.getElem_mem hpos))).1]
    simp
  rw [clean, drop fun _ hc => hc, drop fun c hc => List.mem_reverse.mp hc, List.reverse_reverse,
    List.filter_eq_self]
  intro c hc
  rw [(solid hc).2]
  rfl

theorem cutFirst_append_optionalText {mark : Char} {m : String} (hm : m.toList = [mark])
    {l : List Char} (h : mark ∉ l) (o : Option String) :
    Text.cutFirst mark (l ++ (optionalText m o).toList) = (l, o.map String.toList) := by
  cases o with
  | none => rw [optionalText, String.toList_empty, List.append_nil, Text.cutFirst_of_not_mem h]; rfl
  | some s =>
    rw [optionalText, String.toList_append, hm, List.singleton_append, Text.cutFirst_append h]
    rfl

theorem Scheme.ofName?_text (scheme : Scheme) :
    ofName? (String.ofList scheme.text.toList) = some scheme := by
  cases scheme <;> decide

namespace Written

variable {u : Url}

/-- What follows the authority in the text of an address. -/
def tail (u : Url) : List Char :=
  (Path.text u.path).toList ++ (optionalText "?" u.query).toList
    ++ (optionalText "#" u.fragment).toList

theorem toList_text (u : Url) : u.text.toList =
    u.scheme.text.toList ++ ':' :: '/' :: '/' :: (u.authority.text.toList ++ tail u) := by
  simp [Url.text, tail, List.append_assoc]

theorem tail_eq_cons (h : Written u) : ∃ r, tail u = '/' :: r := by
  obtain ⟨s, l, hs⟩ := List.exists_cons_of_ne_nil h.path_ne_nil
  exact ⟨_, by rw [tail, Path.toList_text, hs, List.flatMap_cons]; rfl⟩

theorem optionalText_query (h : Written u) (c : Char) (hc : c ≠ '?')
    (hk : isKeptInQuery (UInt8.ofNat c.toNat) = false) : c ∉ (optionalText "?" u.query).toList := by
  cases hq : u.query with
  | none => simp [optionalText]
  | some q =>
    rw [optionalText, String.toList_append, List.mem_append, not_or]
    exact ⟨by simpa using hc, (h.query q hq).not_mem hk⟩

/-- The written form of an address is visible ASCII. -/
theorem isSolid_of_mem_text (h : Written u) : ∀ c ∈ u.text.toList, isSolid c = true := by
  have kept {keep : UInt8 → Bool} (hp : ∀ b, keep b = true → isPlain b = true) {l : List Char}
      (hl : Kept keep l) (c : Char) (hc : c ∈ l) : isSolid c = true :=
    isSolid_of_isPlain (hl c hc).1 (hp _ (hl c hc).2)
  have optional {keep : UInt8 → Bool} (hp : ∀ b, keep b = true → isPlain b = true) {m : String}
      (hm : ∀ c ∈ m.toList, isSolid c = true) (o : Option String)
      (ho : ∀ q, o = some q → Kept keep q.toList) :
      ∀ c ∈ (optionalText m o).toList, isSolid c = true := by
    intro c hc
    cases o with
    | none => exact absurd hc (by simp [optionalText])
    | some q =>
      rw [optionalText, String.toList_append] at hc
      exact (List.mem_append.mp hc).elim (hm c) (kept hp (ho q rfl) c)
  intro c hc
  rw [Url.text] at hc
  simp only [String.toList_append, List.mem_append] at hc
  -- the scheme, its mark, the authority, the path, the query and the fragment
  rcases hc with ((((hc | hc) | hc) | hc) | hc) | hc
  · have scheme : ∀ s : Scheme, ∀ c ∈ s.text.toList, isSolid c = true := by
      intro s
      cases s <;> exact List.forall_iff_forall_mem.mp (by decide)
    exact scheme _ c hc
  · have mark : ∀ c ∈ "://".toList, isSolid c = true := List.forall_iff_forall_mem.mp (by decide)
    exact mark c hc
  · have := h.authority c hc
    simp only [isAuthorityPart, Bool.and_eq_true] at this
    exact this.1
  · refine kept (fun b hb => ?_) (Path.kept_text h.path) c hc
    simp only [Path.isKept, Bool.and_eq_true] at hb
    exact hb.1.1.1.1.1
  · refine optional (fun b hb => ?_) (List.forall_iff_forall_mem.mp (by decide)) _ h.query c hc
    simp only [isKeptInQuery, Bool.and_eq_true] at hb
    exact hb.1.1
  · refine optional (fun b hb => ?_) (List.forall_iff_forall_mem.mp (by decide)) _ h.fragment c hc
    simp only [isKeptInFragment, Bool.and_eq_true] at hb
    exact hb.1

/-- The authority ends where the path starts. -/
theorem span_authority (h : Written u) (ends : Char → Bool)
    (hends : ∀ c ∈ u.authority.text.toList, ends c = false) (hslash : ends '/' = true) :
    (u.authority.text.toList ++ tail u).takeWhile (!ends ·) = u.authority.text.toList ∧
      (u.authority.text.toList ++ tail u).dropWhile (!ends ·) = tail u := by
  obtain ⟨r, hr⟩ := tail_eq_cons h
  have hpos : ∀ c ∈ u.authority.text.toList, (!ends c) = true := fun c hc => by
    rw [hends c hc]
    rfl
  constructor
  · rw [List.takeWhile_append_of_pos hpos, hr, List.takeWhile_cons_of_neg (by simp [hslash]),
      List.append_nil]
  · rw [List.dropWhile_append_of_pos hpos, hr, List.dropWhile_cons_of_neg (by simp [hslash])]

/-- The marks of the query and the fragment are found where they were put. -/
theorem cut_tail (h : Written u) :
    Text.cutFirst '#' (tail u) =
        ((Path.text u.path).toList ++ (optionalText "?" u.query).toList,
          u.fragment.map String.toList) ∧
      Text.cutFirst '?' ((Path.text u.path).toList ++ (optionalText "?" u.query).toList) =
        ((Path.text u.path).toList, u.query.map String.toList) := by
  have hpath (c : Char) (hc : Path.isKept (UInt8.ofNat c.toNat) = false) :
      c ∉ (Path.text u.path).toList := (Path.kept_text h.path).not_mem hc
  constructor
  · refine cutFirst_append_optionalText (by simp) ?_ _
    rw [List.mem_append, not_or]
    exact ⟨hpath '#' (by decide), h.optionalText_query '#' (by decide) (by decide)⟩
  · exact cutFirst_append_optionalText (by simp) (hpath '?' (by decide)) _

end Written

theorem encodePart_of_kept {keep : UInt8 → Bool} {o : Option String}
    (h : ∀ q, o = some q → Kept keep q.toList) :
    (o.map String.toList).map (encodePart keep) = o := by
  cases o with
  | none => rfl
  | some q =>
    have hq := encodeBytes_of_kept (h q rfl)
    rw [String.ofList_toList] at hq
    simp only [Option.map_some, encodePart, String.ofList_toList, hq]

/-- **A written address is read part by part as it is**, except that its host is read once more. -/
theorem parse_text {u : Url} (h : Written u) :
    parse u.text = (Host.parse u.authority.host.text.toList).map fun host =>
      { u with authority := { u.authority with host } } := by
  have hcolon : ':' ∉ u.scheme.text.toList := by
    cases u.scheme <;> decide
  have hend : ∀ c ∈ u.authority.text.toList, endsAuthority c = false := by
    intro c hc
    have := h.authority c hc
    simp only [isAuthorityPart, Bool.and_eq_true, Bool.not_eq_true'] at this
    exact this.2
  have hslashes : ('/' :: '/' :: (u.authority.text.toList ++ Written.tail u)).dropWhile isSlash =
      u.authority.text.toList ++ Written.tail u := by
    obtain ⟨c, l, hc⟩ := List.exists_cons_of_ne_nil h.authority_ne_nil
    have hslash := hend c (by rw [hc]; exact List.mem_cons_self)
    simp only [endsAuthority, Bool.or_eq_false_iff] at hslash
    rw [hc, List.dropWhile_cons_of_pos (by decide), List.dropWhile_cons_of_pos (by decide),
      List.cons_append, List.dropWhile_cons_of_neg (by simp [hslash.1.1])]
  obtain ⟨l, hl⟩ := h.read
  have hauthority := Authority.parse_text hl
  obtain ⟨htake, hdrop⟩ := h.span_authority endsAuthority hend (by decide)
  obtain ⟨hfragment, hquery⟩ := h.cut_tail
  rw [parse, clean_of_isSolid h.isSolid_of_mem_text, Written.toList_text,
    Text.cutFirst_append hcolon]
  simp only [Scheme.ofName?_text, hslashes, parseServer, htake, hdrop, hfragment, hquery,
    Path.segments_text h.path_ne_nil h.path, encodePart_of_kept h.query,
    encodePart_of_kept h.fragment, hauthority]
  cases Host.parse u.authority.host.text.toList <;> rfl

/-- **A written address is read as it is**, unless its host has a label in coded form. -/
theorem parse_text_of_uncoded {u : Url} (h : Written u) (hu : u.authority.host.Uncoded) :
    parse u.text = .ok u := by
  obtain ⟨l, hl⟩ := h.read
  rw [parse_text h, Host.parse_text (Authority.parse_eq_ok_iff.mp hl).2.1 hu]
  rfl

end AssetAccess.Url
