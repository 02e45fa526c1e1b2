import AssetAccess.Proofs.Url.Encoding
import AssetAccess.Proofs.Url.Host
import Mathlib.Data.List.TakeDrop
/-!
# Reading a written authority

The written form of an authority holds nothing that ends an authority
(`isAuthorityPart_of_mem_text`), and its parts are found again where they were put: user information
before its only `@`, the host before the first colon that is not between brackets, and the port
behind that.  So an authority that was read is read from its text as it is (`parse_text`), as far as
its host is.
-/

namespace AssetAccess.Url

/-- A character that stands for itself in an address: visible ASCII. -/
def isSolid (c : Char) : Bool := 0x21 ≤ c.toNat && c.toNat < 0x7F

theorem isSolid_of_isPlain {c : Char} (hlt : c.toNat < 128)
    (h : isPlain (UInt8.ofNat c.toNat) = true) : isSolid c = true := by
  exact Text.of_forall_ascii
    (P := fun c => isPlain (UInt8.ofNat c.toNat) = true → isSolid c = true) (by decide) hlt h

/-- A character that may stand inside a written authority. -/
def isAuthorityPart (c : Char) : Bool := isSolid c && !endsAuthority c

theorem isAuthorityPart_of_isHostChar {c : Char} (h : isHostChar c = true) :
    isAuthorityPart c = true := by
  have hlt : c.toNat < 128 := by
    simp only [isHostChar, Bool.and_eq_true, decide_eq_true_eq] at h
    omega
  exact Text.of_forall_ascii (P := fun c => isHostChar c = true → isAuthorityPart c = true)
    (by decide) hlt h

theorem isAuthorityPart_of_isDigit {c : Char} (h : Decimal.isDigit c = true) :
    isAuthorityPart c = true := by
  have hc := Decimal.toNat_of_isDigit h
  exact Text.of_forall_ascii (P := fun c => Decimal.isDigit c = true → isAuthorityPart c = true)
    (by decide) (show c.toNat < 128 by omega) h

namespace Authority

variable {scheme : Scheme} {l : List Char} {a : Authority}

/-- What is known of an authority that was read. -/
theorem parse_eq_ok_iff : parse scheme l = .ok a ↔
    a.user = encodeUser (splitUser l).1 ∧
      Host.parse (splitHost false (splitUser l).2).1 = .ok a.host ∧
      parsePort scheme.defaultPort ((splitHost false (splitUser l).2).2.getD []) = .ok a.port := by
  unfold parse
  simp only [bind_eq_ok_iff]
  constructor
  · rintro ⟨host, hhost, port, hport, h⟩
    obtain rfl := Except.ok.inj h
    exact ⟨rfl, hhost, hport⟩
  · rintro ⟨huser, hhost, hport⟩
    exact ⟨a.host, hhost, a.port, hport, congrArg Except.ok (by rw [← huser])⟩

/-! ### User information -/

theorem isAuthorityPart_of_kept {l : List Char} (h : Kept isKept l) :
    ∀ c ∈ l, isAuthorityPart c = true := by
  intro c hc
  obtain ⟨hlt, hkeep⟩ := h c hc
  exact Text.of_forall_ascii
    (P := fun c => isKept (UInt8.ofNat c.toNat) = true → isAuthorityPart c = true)
    (by decide) hlt hkeep

theorem kept_encodeUserText (l : List Char) : Kept isKept (encodeUserText l).toList :=
  kept_encodeBytes reencodes_user _

theorem encodeUserText_toList (l : List Char) :
    encodeUserText (encodeUserText l).toList = encodeUserText l := by
  rw [encodeUserText, String.ofList_toList]
  exact encodeBytes_encodeBytes reencodes_user _

/-- A text is written as something, unless it is empty. -/
theorem encodeUserText_cons_ne_nil (c : Char) (l : List Char) :
    (encodeUserText (c :: l)).toList ≠ [] := by
  intro hnil
  rw [encodeUserText, Percent.encodeBytes, String.toList_ofList, Text.utf8, String.toList_ofList,
    List.flatMap_cons, List.flatMap_append, List.append_eq_nil_iff, List.flatMap_eq_nil_iff] at hnil
  obtain ⟨b, hb⟩ := List.exists_mem_of_ne_nil _ (String.utf8EncodeChar_ne_nil (c := c))
  have hbyte := hnil.1 b hb
  unfold Percent.encodeByte at hbyte
  split at hbyte <;> exact absurd hbyte (List.cons_ne_nil _ _)

/-- User information is a name, or a name and a password that is not empty. -/
theorem encodeUser_cases (l : List Char) : (∃ name, encodeUser l = encodeUserText name) ∨
    ∃ name c password, encodeUser l =
      encodeUserText name ++ ":" ++ encodeUserText (c :: password) := by
  unfold encodeUser
  split
  · exact Or.inr ⟨_, _, _, rfl⟩
  · exact Or.inl ⟨_, rfl⟩

theorem mem_encodeUser {l : List Char} {c : Char} (h : c ∈ (encodeUser l).toList) :
    isAuthorityPart c = true ∧ c ≠ '@' := by
  have text {m : List Char} (hc : c ∈ (encodeUserText m).toList) :
      isAuthorityPart c = true ∧ c ≠ '@' := by
    refine ⟨isAuthorityPart_of_kept (kept_encodeUserText m) c hc, ?_⟩
    rintro rfl
    exact (kept_encodeUserText m).not_mem (by decide) hc
  rcases encodeUser_cases l with ⟨name, hl⟩ | ⟨name, d, password, hl⟩
  · exact text (hl ▸ h)
  · rw [hl, String.toList_append, String.toList_append] at h
    rcases List.mem_append.mp h with h | h
    · rcases List.mem_append.mp h with h | h
      · exact text h
      · have mark : ∀ c ∈ ":".toList, isAuthorityPart c = true ∧ c ≠ '@' :=
          List.forall_iff_forall_mem.mp (by decide)
        exact mark c h
    · exact text h

/-- User information is encoded once and for all. -/
theorem encodeUser_encodeUser (l : List Char) :
    encodeUser (encodeUser l).toList = encodeUser l := by
  have nocolon (m : List Char) : ':' ∉ (encodeUserText m).toList :=
    (kept_encodeUserText m).not_mem (by decide)
  rcases encodeUser_cases l with ⟨name, hl⟩ | ⟨name, c, password, hl⟩
  · rw [hl, encodeUser, Text.cutFirst_of_not_mem (nocolon name)]
    exact encodeUserText_toList name
  · -- a password that is written is not empty, so it is still there when it is read
    obtain ⟨d, m, hd⟩ := List.exists_cons_of_ne_nil (encodeUserText_cons_ne_nil c password)
    have hcut : Text.cutFirst ':' (encodeUser l).toList =
        ((encodeUserText name).toList, some (d :: m)) := by
      rw [hl, String.toList_append, String.toList_append, hd, List.append_assoc]
      exact Text.cutFirst_append (nocolon name) (d :: m)
    have hagain := encodeUserText_toList (c :: password)
    rw [hd] at hagain
    rw [encodeUser, hcut]
    dsimp only
    rw [encodeUserText_toList name, hagain, hl]

theorem bne_of_mem_reverse (h : '@' ∉ l) : ∀ c ∈ l.reverse, (c != '@') = true := by
  intro c hc
  rw [bne_iff_ne]
  rintro rfl
  exact h (List.mem_reverse.mp hc)

theorem splitUser_of_not_mem (h : '@' ∉ l) : splitUser l = ([], l) := by
  have hall := bne_of_mem_reverse h
  have hspan : l.reverse.span (· != '@') = (l.reverse, []) := by
    rw [List.span_eq_takeWhile_dropWhile, List.takeWhile_eq_self_iff.mpr hall,
      List.dropWhile_eq_nil_iff.mpr hall]
  rw [splitUser, hspan]

theorem splitUser_append (h : '@' ∉ l) (user : List Char) :
    splitUser (user ++ '@' :: l) = (user, l) := by
  have hall := bne_of_mem_reverse h
  have hspan : (user ++ '@' :: l).reverse.span (· != '@') = (l.reverse, '@' :: user.reverse) := by
    rw [List.reverse_append, List.reverse_cons, List.append_assoc, List.singleton_append,
      List.span_eq_takeWhile_dropWhile, List.takeWhile_append_of_pos hall,
      List.dropWhile_append_of_pos hall, List.takeWhile_cons_of_neg (by simp),
      List.dropWhile_cons_of_neg (by simp), List.append_nil]
  rw [splitUser, hspan]
  simp

/-! ### Hosts and ports -/

/-- The text of a port behind its colon. -/
def portText (port : Option Nat) : List Char :=
  match port with
  | some n => ':' :: (Decimal.ofNat n).toList
  | none => []

theorem of_mem_portText {port : Option Nat} {c : Char} (h : c ∈ portText port) :
    c = ':' ∨ Decimal.isDigit c = true := by
  cases port with
  | none => exact absurd h List.not_mem_nil
  | some n =>
    rw [portText, Decimal.ofNat, String.toList_ofList] at h
    exact (List.mem_cons.mp h).imp_right Decimal.isDigit_of_mem_toDigits

theorem toList_text (a : Authority) : a.text.toList =
    (if a.user.isEmpty then [] else a.user.toList ++ ['@'])
      ++ (a.host.text.toList ++ portText a.port) := by
  rw [text, String.toList_append, String.toList_append, List.append_assoc]
  congr 1
  · split <;> simp
  · congr 1
    cases a.port with
    | none => rfl
    | some n =>
      rw [String.toList_append]
      rfl

theorem splitHost_append {l : List Char} (h : ∀ c ∈ l, c ≠ ':' ∧ c ≠ '[') (r : List Char) :
    splitHost false (l ++ r) = (l ++ (splitHost false r).1, (splitHost false r).2) := by
  induction l with
  | nil => rfl
  | cons c l ih =>
    have hc := h c List.mem_cons_self
    have hinside : (c == '[' || (false && c != ']')) = false := by simp [hc.2]
    rw [List.cons_append, splitHost, if_neg (by simp [hc.1]), hinside,
      ih fun d hd => h d (List.mem_cons_of_mem c hd)]
    rfl

theorem splitHost_brackets {l : List Char} (h : ∀ c ∈ l, c ≠ ']') (r : List Char) :
    splitHost true (l ++ ']' :: r) =
      (l ++ ']' :: (splitHost false r).1, (splitHost false r).2) := by
  induction l with
  | nil => rfl
  | cons c l ih =>
    have hinside : (c == '[' || (true && c != ']')) = true := by simp [h c List.mem_cons_self]
    rw [List.cons_append, splitHost, if_neg (by simp), hinside,
      ih fun d hd => h d (List.mem_cons_of_mem c hd)]
    rfl

/-- The host ends where the port starts. -/
theorem splitHost_text {l : List Char} {h : Host} (hok : Host.parse l = .ok h)
    (port : Option Nat) : splitHost false (h.text.toList ++ portText port) =
      (h.text.toList, port.map fun n => (Decimal.ofNat n).toList) := by
  have hport : splitHost false (portText port) =
      ([], port.map fun n => (Decimal.ofNat n).toList) := by
    cases port <;> rfl
  rcases Host.text_cases hok with ⟨a, ha⟩ | hname
  · rw [ha, List.cons_append, List.append_assoc, List.singleton_append, splitHost,
      if_neg (by simp)]
    have hinside : ('[' == '[' || (false && '[' != ']')) = true := rfl
    rw [hinside, splitHost_brackets fun c hc => (Ipv6.of_mem_text hc).2.2, hport]
  · rw [splitHost_append, hport, List.append_nil]
    intro c hc
    have := hname c hc
    constructor <;> (rintro rfl; exact absurd this (by decide))

/-- A port that was read fits 16 bits and is not the one that the scheme implies. -/
theorem parsePort_eq_ok {implied n : Nat} {l : List Char}
    (h : parsePort implied l = .ok (some n)) : n ≤ 65535 ∧ n ≠ implied := by
  unfold parsePort at h
  split at h
  · exact absurd h (by simp)
  · split at h
    · split at h
      · rename_i hle
        have hn := Except.ok.inj h
        split at hn
        · exact absurd hn (by simp)
        · rename_i hne
          obtain rfl := Option.some.inj hn
          exact ⟨hle, hne⟩
      · exact absurd h (by simp)
    · exact absurd h (by simp)

theorem parsePort_ofNat {implied n : Nat} (hle : n ≤ 65535) (hne : n ≠ implied) :
    parsePort implied (Decimal.ofNat n).toList = .ok (some n) := by
  have hnat : Decimal.nat? (Decimal.ofNat n).toList = some n := by
    rw [Decimal.ofNat, String.toList_ofList]
    refine Decimal.nat?_eq_some_iff.mpr ⟨Nat.toDigits_ne_nil, fun c hc =>
      Decimal.isDigit_of_mem_toDigits hc, ?_⟩
    rw [Decimal.value_eq, Nat.ofDigitChars_toDigits (by decide) (by decide)]
  have hcons : (Decimal.ofNat n).toList.isEmpty = false := by
    rw [Decimal.ofNat, String.toList_ofList]
    exact List.isEmpty_eq_false_iff.mpr Nat.toDigits_ne_nil
  simp [parsePort, hcons, hnat, hle, hne]

/-! ### Authorities -/

/-- The written form of an authority that was read goes on up to the path. -/
theorem isAuthorityPart_of_mem_text (h : parse scheme l = .ok a) :
    ∀ c ∈ a.text.toList, isAuthorityPart c = true := by
  obtain ⟨huser, hhost, -⟩ := parse_eq_ok_iff.mp h
  intro c hc
  rw [toList_text, huser] at hc
  rcases List.mem_append.mp hc with hc | hc
  · split at hc
    · exact absurd hc List.not_mem_nil
    · rcases List.mem_append.mp hc with hc | hc
      · exact (mem_encodeUser hc).1
      · rw [List.mem_singleton.mp hc]
        decide
  · rcases List.mem_append.mp hc with hc | hc
    · exact isAuthorityPart_of_isHostChar (Host.isHostChar_of_parse hhost c hc)
    · rcases of_mem_portText hc with rfl | hc
      · decide
      · exact isAuthorityPart_of_isDigit hc

theorem text_ne_nil (h : parse scheme l = .ok a) : a.text.toList ≠ [] := by
  have hhost := Host.text_ne_nil (parse_eq_ok_iff.mp h).2.1
  intro hnil
  rw [toList_text, List.append_eq_nil_iff, List.append_eq_nil_iff] at hnil
  exact hhost hnil.2.1

/-- User information, host and port are found again in the text of an authority that was read. -/
theorem split_text (h : parse scheme l = .ok a) :
    splitUser a.text.toList = (a.user.toList, a.host.text.toList ++ portText a.port) := by
  obtain ⟨-, hhost, -⟩ := parse_eq_ok_iff.mp h
  have hat : '@' ∉ a.host.text.toList ++ portText a.port := by
    rw [List.mem_append, not_or]
    refine ⟨fun hc => absurd (Host.isHostChar_of_parse hhost _ hc) (by decide), fun hc => ?_⟩
    rcases of_mem_portText hc with hc | hc
    · exact absurd hc (by decide)
    · exact absurd hc (by decide)
  rw [toList_text]
  split
  · rename_i hempty
    rw [String.isEmpty_iff] at hempty
    rw [List.nil_append, splitUser_of_not_mem hat, hempty]
    rfl
  · rw [List.append_assoc, List.singleton_append, splitUser_append hat]

/-- **An authority that was read is read from its text as far as its host is.** -/
theorem parse_text (h : parse scheme l = .ok a) :
    parse scheme a.text.toList =
      (Host.parse a.host.text.toList).map fun host => { a with host } := by
  obtain ⟨huser, hhost, hport⟩ := parse_eq_ok_iff.mp h
  have hagain : parsePort scheme.defaultPort
      ((a.port.map fun n => (Decimal.ofNat n).toList).getD []) = .ok a.port := by
    cases hp : a.port with
    | none => rfl
    | some n =>
      rw [hp] at hport
      obtain ⟨hle, hne⟩ := parsePort_eq_ok hport
      exact parsePort_ofNat hle hne
  have huser' : encodeUser a.user.toList = a.user := by
    rw [huser]
    exact encodeUser_encodeUser _
  rw [parse, split_text h]
  dsimp only
  rw [splitHost_text hhost]
  simp only [hagain, huser']
  cases Host.parse a.host.text.toList <;> rfl

/-- A name alone is an authority without user information and port. -/
theorem parse_of_isNameChar (hname : ∀ c ∈ l, isNameChar c = true) :
    parse scheme l = (Host.parse l).map fun host => ⟨"", host, none⟩ := by
  have hat : '@' ∉ l := fun hc => absurd (hname _ hc) (by decide)
  have hsplit : splitHost false l = (l, none) := by
    have h := splitHost_append (l := l) (fun c hc => ?_) []
    · rwa [List.append_nil, splitHost, List.append_nil] at h
    · have := hname c hc
      constructor <;> (rintro rfl; exact absurd this (by decide))
  rw [parse, splitUser_of_not_mem hat]
  dsimp only
  rw [hsplit]
  cases Host.parse l <;> rfl

end Authority

end AssetAccess.Url
