import AssetAccess.Proofs.Text.Percent
import AssetAccess.Proofs.Url.Domain
import AssetAccess.Proofs.Url.Ipv4
import AssetAccess.Proofs.Url.Ipv6
import AssetAccess.Url.Host
/-!
# Reading a written host

The written form of a host is not empty, and it holds no mark that divides an address: no slash of
either kind, no question mark, number sign, percent sign or `@`, no blank and nothing beyond ASCII
(`isHostChar_of_parse`, `text_ne_nil`).  So whatever follows a host in an address stays apart from
it.

A host that was read is read from its text as it is (`parse_text`), unless a label of it is in coded
form: only as much of a coded form is read as `Domain.maxCoded` allows, and more may be written.
-/

namespace AssetAccess.Url

/-- A character that a written host may hold. -/
def isHostChar (c : Char) : Bool :=
  0x21 ≤ c.toNat && c.toNat < 0x7F && !(['#', '%', '/', '?', '@', '\\'].contains c)

theorem isHostChar_of_isNameChar {c : Char} (h : isNameChar c = true) : isHostChar c = true := by
  have all : ∀ n < 128, isNameChar (Char.ofNat n) = true → isHostChar (Char.ofNat n) = true := by
    decide
  have hlt : c.toNat < 128 := by
    simp only [isNameChar, Punycode.isAscii, Bool.and_eq_true, decide_eq_true_eq] at h
    exact h.1
  have := all c.toNat hlt
  rw [Char.ofNat_toNat] at this
  exact this h

theorem Ipv4.isNameChar_of_mem_text {a : Ipv4} {c : Char} (h : c ∈ a.text.toList) :
    isNameChar c = true := Domain.isNameChar_of_mem_ascii a.ascii?_text c h

theorem Ipv4.text_ne_nil (a : Ipv4) : a.text.toList ≠ [] := by
  intro hnil
  have h := a.endsInNumber_text
  rw [hnil] at h
  exact absurd h (by decide)

/-- A character between the brackets of an address of 128 bits. -/
theorem Ipv6.of_mem_text {a : Ipv6} {c : Char} (h : c ∈ a.text.toList) :
    isHostChar c = true ∧ c ≠ '[' ∧ c ≠ ']' := by
  have mark : ∀ c ∈ "::".toList, isHostChar c = true ∧ c ≠ '[' ∧ c ≠ ']' :=
    List.forall_iff_forall_mem.mp (by decide)
  have pieces {l : List UInt16} (hc : c ∈ (piecesText l).toList) :
      isHostChar c = true ∧ c ≠ '[' ∧ c ≠ ']' := by
    rw [toList_piecesText] at hc
    rcases mem_intercalate hc with hc | ⟨d, hd, hc⟩
    · exact mark c (by rw [List.mem_singleton.mp hc]; decide)
    · obtain ⟨p, -, rfl⟩ := List.mem_map.mp hd
      obtain ⟨d, hd, rfl⟩ := exists_of_mem_toDigits (by decide) hc
      have all : ∀ n < 16, isHostChar (Nat.digitChar n) = true ∧ Nat.digitChar n ≠ '[' ∧
          Nat.digitChar n ≠ ']' := by decide
      exact all d hd
  unfold text at h
  dsimp only at h
  split at h
  · exact pieces h
  · rw [String.toList_append, String.toList_append] at h
    rcases List.mem_append.mp h with h | h
    · exact (List.mem_append.mp h).elim pieces (mark c)
    · exact pieces h

namespace Host

variable {l : List Char} {h : Host}

theorem toList_text_ipv6 (a : Ipv6) :
    (Host.ipv6 a).text.toList = '[' :: (a.text.toList ++ [']']) := by
  rw [text, String.toList_append, String.toList_append]
  rfl

theorem ofAscii_eq_ok {name : List Char} (hok : ofAscii name = .ok h) :
    (name ≠ [] ∧ h = .domain (String.ofList name)) ∨ ∃ a, h = .ipv4 a := by
  unfold ofAscii at hok
  split at hok
  · exact absurd hok (by simp)
  · rename_i hne
    split at hok
    · split at hok
      · exact Or.inr ⟨_, (Except.ok.inj hok).symm⟩
      · exact absurd hok (by simp)
    · exact Or.inl ⟨fun hnil => hne (by simp [hnil]), (Except.ok.inj hok).symm⟩

/-- A host is read as an address, or its name is the ASCII form of a domain name. -/
theorem parse_eq_ok (hok : parse l = .ok h) :
    (∃ a, h = .ipv6 a) ∨ (∃ a, h = .ipv4 a) ∨
      ∃ s name, Domain.ascii? s = some name ∧ name ≠ [] ∧ ofAscii name = .ok h ∧
        h = .domain (String.ofList name) := by
  unfold parse at hok
  split at hok
  · exact absurd hok (by simp)
  · unfold bracketed at hok
    split at hok
    · exact absurd hok (by simp)
    · split at hok
      · exact Or.inl ⟨_, (Except.ok.inj hok).symm⟩
      · exact absurd hok (by simp)
  · dsimp only at hok
    split at hok
    · rename_i name hname
      obtain ⟨s, -, hascii⟩ := Option.bind_eq_some_iff.mp hname
      rcases ofAscii_eq_ok hok with ⟨hne, hdom⟩ | h4
      · exact Or.inr (Or.inr ⟨s.toList, name, hascii, hne, hok, hdom⟩)
      · exact Or.inr (Or.inl h4)
    · exact absurd hok (by simp)

/-- The written form of a host that was read is an address of 128 bits in brackets, or it has the
characters of a name. -/
theorem text_cases (hok : parse l = .ok h) :
    (∃ a : Ipv6, h.text.toList = '[' :: (a.text.toList ++ [']'])) ∨
      ∀ c ∈ h.text.toList, isNameChar c = true := by
  rcases parse_eq_ok hok with ⟨a, rfl⟩ | ⟨a, rfl⟩ | ⟨s, name, hascii, -, -, rfl⟩
  · exact Or.inl ⟨a, toList_text_ipv6 a⟩
  · exact Or.inr fun c hc => Ipv4.isNameChar_of_mem_text hc
  · rw [text, String.toList_ofList]
    exact Or.inr (Domain.isNameChar_of_mem_ascii hascii)

/-- The written form of a host that was read holds no mark that divides an address. -/
theorem isHostChar_of_parse (hok : parse l = .ok h) :
    ∀ c ∈ h.text.toList, isHostChar c = true := by
  intro c hc
  rcases text_cases hok with ⟨a, ha⟩ | hname
  · rw [ha] at hc
    rcases List.mem_cons.mp hc with rfl | hc
    · decide
    · rcases List.mem_append.mp hc with hc | hc
      · exact (Ipv6.of_mem_text hc).1
      · rw [List.mem_singleton.mp hc]
        decide
  · exact isHostChar_of_isNameChar (hname c hc)

/-- The written form of a host that was read is not empty. -/
theorem text_ne_nil (hok : parse l = .ok h) : h.text.toList ≠ [] := by
  rcases parse_eq_ok hok with ⟨a, rfl⟩ | ⟨a, rfl⟩ | ⟨s, name, -, hne, -, rfl⟩
  · rw [toList_text_ipv6]
    exact List.cons_ne_nil _ _
  · exact Ipv4.text_ne_nil a
  · rw [text, String.toList_ofList]
    exact hne

/-! ### Reading again -/

/-- A text with the characters of a name stands for itself: nothing in it is decoded. -/
theorem parse_of_isNameChar (hname : ∀ c ∈ l, isNameChar c = true) (hne : l ≠ []) :
    parse l = match Domain.ascii? l with
      | some name => ofAscii name
      | none => .error .domain := by
  have hpercent : '%' ∉ (String.ofList l).toList := by
    rw [String.toList_ofList]
    exact fun hc => absurd (hname _ hc) (by decide)
  unfold parse
  split
  · exact absurd rfl hne
  · exact absurd (hname _ List.mem_cons_self) (by decide)
  · rw [Percent.decode_of_not_mem hpercent, Text.ofUtf8?_utf8]
    have hname : ((some (String.ofList l)).bind fun s => Domain.ascii? s.toList) =
        Domain.ascii? l := congrArg Domain.ascii? String.toList_ofList
    show (match (some (String.ofList l)).bind fun s => Domain.ascii? s.toList with
      | some name => ofAscii name
      | none => .error .domain) = _
    rw [hname]

/-- No label of the host is in coded form. -/
def Uncoded : Host → Prop
  | .domain name => ∀ label ∈ name.toList.splitOn '.', ¬ Domain.IsCoded label
  | .ipv4 _ | .ipv6 _ => True

theorem parse_text_ipv6 (a : Ipv6) : parse (Host.ipv6 a).text.toList = .ok (.ipv6 a) := by
  have hlast : (a.text.toList ++ [']']).getLast? = some ']' := by simp
  have hdrop : (a.text.toList ++ [']']).dropLast = a.text.toList := by simp
  rw [toList_text_ipv6, parse, bracketed, hlast, hdrop, a.parse?_text]
  rfl

theorem parse_text_ipv4 (a : Ipv4) : parse (Host.ipv4 a).text.toList = .ok (.ipv4 a) := by
  have hne : a.text.toList ≠ [] := Ipv4.text_ne_nil a
  rw [text, parse_of_isNameChar (fun c hc => Ipv4.isNameChar_of_mem_text hc) hne, a.ascii?_text]
  simp only [ofAscii, List.isEmpty_iff, hne, if_false, a.endsInNumber_text, if_true, a.parse?_text]

/-- **A host that was read is read from its text as it is**, unless a label is in coded form. -/
theorem parse_text (hok : parse l = .ok h) (hu : h.Uncoded) : parse h.text.toList = .ok h := by
  rcases parse_eq_ok hok with ⟨a, rfl⟩ | ⟨a, rfl⟩ | ⟨s, name, hascii, hne, hof, rfl⟩
  · exact parse_text_ipv6 a
  · exact parse_text_ipv4 a
  · rw [Uncoded, String.toList_ofList] at hu
    rw [text, String.toList_ofList,
      parse_of_isNameChar (Domain.isNameChar_of_mem_ascii hascii) hne,
      Domain.ascii?_of_written hascii hu]
    exact hof

end Host

end AssetAccess.Url
